import NetUnits.Proofs.Connector.Eviction
import NetUnits.Proofs.Connector.Order
import NetUnits.Proofs.Connector.Sharing

/-! # One session for all callers

Any number of threads may get the connector for a host before there is one. The first of them keeps
a connector, the first that takes the lock of its session opens one, and all others wait for that
lock and find the session there.

* **`ConnectorPool.Flight.triple_get`** — a caller gets the connector that is kept, with a session.
* **`ConnectorPool.SingleFlight`** — one session is opened, and all callers share it;
  **`ConnectorPool.singleFlight`** — so it is for all systems of clients. -/

namespace NetUnits

open NetUnits.Action NetUnits.Protocol

variable {answers : Answers} {a b : Scene PoolState} {i n : Nat} {k : RemoteConnector}

/-- A deed that uses no lock leaves all locks to their holders. -/
theorem Deed.Obeys.holder_after {d : Deed PoolState} {q : PoolState → PoolState → Prop}
    (h : d.Obeys Request.KeepsLocks q) : (a.after i d).holder = a.holder := by
  cases d with
  | changed | forked => rfl
  | asked r reply =>
    cases r with
    | acquire lock => simpa [Request.held?] using h []
    | release lock => simpa [Request.held?] using h []
    | _ => rfl

namespace ConnectorPool

namespace Flight

variable {H : Flight}

/-! ## Callers -/

/-- A connector is kept for the host. -/
def IsKept (H : Flight) (k : RemoteConnector) (a : Scene PoolState) : Prop :=
  H.Sound a ∧ a.state.kept.get? H.host = some k

/-- A connector with a session is kept for the host. -/
def IsConnected (H : Flight) (k : RemoteConnector) (a : Scene PoolState) : Prop :=
  H.IsKept k a ∧ ∃ session, a.state.session? k.number = some session

theorem Careful.isKept (h : H.Careful i a b) (ha : H.IsKept k a) : H.IsKept k b :=
  ⟨h.sound ha.1, h.kept k ha.2⟩

theorem Careful.isConnected (h : H.Careful i a b) (ha : H.IsConnected k a) :
    H.IsConnected k b := by
  obtain ⟨hkept, session, hsession⟩ := ha
  exact ⟨h.isKept hkept, session, h.session k session hkept.2 hsession⟩

theorem stable_isKept : (H.protocol answers n).Stable i (H.IsKept k) := by
  rintro j a b - ⟨d, -, hpromise, -⟩ ha
  exact Careful.isKept hpromise ha

theorem stable_isConnected : (H.protocol answers n).Stable i (H.IsConnected k) := by
  rintro j a b - ⟨d, -, hpromise, -⟩ ha
  exact Careful.isConnected hpromise ha

/-- **The deeds of a caller that holds the lock of the session** are careful, as long as it opens
one session and then keeps it. -/
theorem careful_holding {d : Deed PoolState} (hi : H.callers i = true) (hk : H.IsKept k a)
    (hholder : a.holder (.session k.number) = some i)
    (hsession : a.state.session? k.number = none)
    (hquiet : PoolState.Quiet (· = k.number) a.state (a.after i d).state)
    (hafter : (a.after i d).holder (.session k.number) = some i)
    (hle : (openings H.callers (a.after i d)).length ≤ 1)
    (hopened : ∀ session, (a.after i d).state.session? k.number = some session →
      (openings H.callers (a.after i d)).length = 1) :
    H.Careful i a (a.after i d) := by
  have hchange : PoolState.Change a.state (a.after i d).state := .quiet hquiet
  have hthis : ∀ k', a.state.kept.get? H.host = some k' → k' = k := fun k' hk' =>
    Option.some.inj (hk'.symm.trans hk.2)
  have hkept : (a.after i d).state.kept.get? H.host = some k := by
    rw [hquiet.kept]
    exact hk.2
  refine ⟨fun ha => ?_, hchange.grows, fun hne => absurd hquiet.kept hne,
    fun k' hk' => hquiet.kept ▸ hk', fun k' session hk' hsession' => ?_, fun k' hk' hne => ?_⟩
  · refine ⟨hchange.numbered ha.numbered, ?_, fun k' hk' => ha.made k' (hquiet.kept ▸ hk'), hle,
      fun hnone => ?_, fun k' session hk' hsession' => ?_, fun k' hk' _ hnone => ?_⟩
    · rw [hquiet.registry]
      exact ha.registered
    · exact nomatch hnone.symm.trans hkept
    · obtain rfl := Option.some.inj (hk'.symm.trans hkept)
      exact hopened session hsession'
    · -- the caller still holds the lock
      obtain rfl := Option.some.inj (hk'.symm.trans hkept)
      exact absurd hafter (hnone i hi)
  · obtain rfl := hthis k' hk'
    exact nomatch hsession'.symm.trans hsession
  · obtain rfl := hthis k' hk'
    exact absurd hholder hne

/-! ## Opening a session -/

/-- **A caller holds the lock of a session that is not there yet**, and has done some things to open
it. -/
structure Opening (H : Flight) (answers : Answers) (i : Nat) (k : RemoteConnector)
    (t : List (Deed PoolState)) (a : Scene PoolState) : Prop where
  /-- The connector is kept. -/
  isKept : H.IsKept k a
  /-- The caller holds the lock. -/
  holder : a.holder (.session k.number) = some i
  /-- There is no session yet. -/
  session : a.state.session? k.number = none
  /-- No caller but this one opens a session. -/
  openings_eq : openings H.callers a = Deed.collect Request.opening? t
  /-- The surroundings reply as they may. -/
  answered : ∀ r reply, .asked r reply ∈ t → answers i r reply

theorem stable_opening (t : List (Deed PoolState)) :
    (H.protocol answers n).Stable i (H.Opening answers i k t) := by
  intro j a b hj hacts ha
  have hholder := stable_holder _ j a b hj hacts ha.holder
  obtain ⟨d, -, hpromise, -⟩ := hacts
  have hcareful : H.Careful j a b := hpromise
  have hne : a.holder (.session k.number) ≠ some j := fun hlock =>
    hj (Option.some.inj (hlock.symm.trans ha.holder))
  obtain ⟨hsession, hopenings⟩ := hcareful.alone k ha.isKept.2 hne
  exact ⟨hcareful.isKept ha.isKept, hholder, hsession.trans ha.session,
    hopenings.trans ha.openings_eq, ha.answered⟩

/-- **Opening a session** is careful, since at most one is opened. -/
theorem triple_opening {ε α : Type} {x : Action PoolState (Except ε α)}
    (hi : H.callers i = true) (hH : ∀ j, n ≤ j → H.callers j = false)
    (hx : x.Obeys Request.KeepsLocks (PoolState.Quiet fun _ => False)) (honce : x.OpensOnce) :
    (H.protocol answers n).Triple i (H.Opening answers i k []) x
      fun reply a => ∃ t, Run x t reply ∧ H.Opening answers i k t a := by
  -- the invariant is about the history so far: what callers have opened is what it has opened
  refine triple_of_after stable_opening fun t y d started z a hafter hnext ha hmay => ?_
  have hafter' : After x (t ++ [d]) z := hafter.snoc hnext
  have hd : d.Obeys Request.KeepsLocks (PoolState.Quiet fun _ => False) :=
    hx.of_after_snoc hafter'
  have hquiet : PoolState.Quiet (fun _ => False) a.state (a.after i d).state := by
    cases d with
    | asked | forked => exact .refl _
    | changed s s' =>
      obtain rfl : s = a.state := hmay
      exact hd
  have hholder : (a.after i d).holder (.session k.number) = some i := by
    rw [hd.holder_after]
    exact ha.holder
  have hsession : (a.after i d).state.session? k.number = none := by
    rw [hquiet.session? _ fun h => h]
    exact ha.session
  have hopenings : openings H.callers (a.after i d) =
      Deed.collect Request.opening? (t ++ [d]) := by
    rw [openings_after, if_pos hi, ha.openings_eq, Deed.collect_append]
  have hcareful : H.Careful i a (a.after i d) := by
    refine careful_holding hi ha.isKept ha.holder ha.session (hquiet.mono fun _ h => h.elim) hholder
      ?_ fun session hsome => nomatch hsome.symm.trans hsession
    rw [hopenings]
    exact honce.length_le_one hafter'
  refine ⟨hcareful, ⟨hcareful.isKept ha.isKept, hholder, hsession, hopenings, ?_⟩, ?_⟩
  · intro r reply hmem
    obtain hmem | hmem := List.mem_append.1 hmem
    · exact ha.answered r reply hmem
    · obtain rfl := List.mem_singleton.1 hmem
      exact hmay.2
  · -- what is started on the way would be no caller
    intro z' hz' j hj
    have hz' := hnext.obeys (hx.of_after hafter).2 z' hz'
    refine ((inUse_other (.here H.pool.here)).triple hH (hH j hj)
      (hz'.mono (fun _ hr => hr) fun _ _ hs => hs)).conseq ?_ fun _ _ _ => trivial
    rintro b ⟨rfl, -⟩
    exact ⟨(hcareful.isKept ha.isKept).1, fun n hn => hn.elim⟩

/-- Keeping the session that was opened. -/
theorem triple_keep (hi : H.callers i = true) {session : Session} :
    (H.protocol answers n).Triple i
      (fun a => ∃ t, (Deed.collect Request.opening? t).length = 1 ∧ H.Opening answers i k t a)
      ((RemoteConnector.keep session).inside (PoolState.wire k.number))
      fun _ => H.IsConnected k := by
  have hstable : (H.protocol answers n).Stable i fun a =>
      ∃ t, (Deed.collect Request.opening? t).length = 1 ∧ H.Opening answers i k t a :=
    stable_exists fun t => (stable_const _).and (stable_opening t)
  rw [RemoteConnector.keep, inside_change]
  refine triple_change hstable (fun _ => stable_isConnected) ?_
  rintro a ⟨t, hlength, ha⟩
  let w : Wire := { (PoolState.wire k.number).get a.state with session := some session }
  let d : Deed PoolState := .changed a.state ((PoolState.wire k.number).set w a.state)
  have hopenings : (openings H.callers (a.after i d)).length = 1 := by
    rw [openings_after, if_pos hi, ha.openings_eq]
    exact (congrArg List.length (List.append_nil _)).trans hlength
  have hcareful : H.Careful i a (a.after i d) := careful_holding hi ha.isKept ha.holder ha.session
    (a.state.quiet_wire k.number w) ha.holder hopenings.le fun _ _ => hopenings
  have hlt : k.number < a.state.slots.length := ha.isKept.1.numbered.lt _ _ ha.isKept.2
  exact ⟨hcareful, hcareful.isKept ha.isKept, session, PoolState.session?_wire w hlt⟩

/-- A caller takes the lock of the session: it finds the session, or nobody is opening one. -/
theorem careful_acquire (hi : H.callers i = true) (ha : H.IsKept k a)
    (hmay : a.May answers i (.asked (.acquire (.session k.number)) ())) :
    H.Careful i a (a.after i (.asked (.acquire (.session k.number)) ())) ∧
      (H.IsConnected k (a.after i (.asked (.acquire (.session k.number)) ())) ∨
        H.Opening answers i k [] (a.after i (.asked (.acquire (.session k.number)) ()))) := by
  have hfree : a.holder (.session k.number) = none := hmay.1
  have hholder : (a.after i (.asked (.acquire (.session k.number)) ())).holder
      (.session k.number) = some i := by
    rw [Scene.holder_after_acquire, Function.update_self]
  have hcareful : H.Careful i a (a.after i (.asked (.acquire (.session k.number)) ())) := by
    refine careful_of_apart (fun _ _ hj => Scene.holder_after_of_ne hmay hj.symm) (.refl _ _)
      (fun hne => absurd rfl hne) (fun _ => rfl) fun _ _ k' hk' _ hnone => ?_
    obtain rfl := Option.some.inj (hk'.symm.trans ha.2)
    exact absurd hholder (hnone i hi)
  refine ⟨hcareful, ?_⟩
  -- an earlier caller may have opened the session while this one waited
  cases hsession : a.state.session? k.number with
  | some session => exact .inl ⟨hcareful.isKept ha, session, hsession⟩
  | none =>
    refine .inr ⟨hcareful.isKept ha, hholder, hsession, ?_, fun _ _ h => absurd h List.not_mem_nil⟩
    have hunopened : openings H.callers a = [] :=
      ha.1.unopened_of_free k ha.2 hsession fun j _ hj => nomatch hj.symm.trans hfree
    rw [openings_after, if_pos hi, hunopened]
    rfl

/-- A caller gives the lock of the session back when there is one. -/
theorem careful_release (ha : H.IsConnected k a)
    (hmay : a.May answers i (.asked (.release (.session k.number)) ())) :
    H.Careful i a (a.after i (.asked (.release (.session k.number)) ())) := by
  obtain ⟨hkept, session, hsession⟩ := ha
  refine careful_of_apart (fun _ _ hj => Scene.holder_after_of_ne hmay hj.symm) (.refl _ _)
    (fun hne => absurd rfl hne) (fun _ => rfl) fun _ _ k' hk' hnone _ => ?_
  obtain rfl := Option.some.inj (hk'.symm.trans hkept.2)
  exact nomatch hsession.symm.trans hnone

/-- A caller looks whether there is a session. -/
theorem triple_look (hi : H.callers i = true) : (H.protocol answers n).Triple i
    (fun a => H.IsConnected k a ∨ H.Opening answers i k [] a)
    ((look : Action Wire Wire).inside (PoolState.wire k.number))
    fun w a => (∀ session, w.session = some session → H.IsConnected k a) ∧
      (w.session = none → H.Opening answers i k [] a) := by
  have hlook : (look : Action Wire Wire).inside (PoolState.wire k.number) =
      change fun s => ((PoolState.wire k.number).get s,
        (PoolState.wire k.number).set ((PoolState.wire k.number).get s) s) := rfl
  rw [hlook]
  refine triple_change (stable_isConnected.or (stable_opening []))
    (fun w => (stable_forall fun _ => stable_forall fun _ => stable_isConnected).and
      (stable_forall fun _ => stable_opening [])) fun a ha => ?_
  let w := (PoolState.wire k.number).get a.state
  let s := (PoolState.wire k.number).set w a.state
  have hquiet : PoolState.Quiet (fun _ => False) a.state s :=
    PoolState.quiet_wire_of_session (w := w) rfl
  have hcareful : H.Careful i a (a.after i (.changed a.state s)) :=
    careful_changed (hquiet.toApart fun _ _ h => h) fun hne => absurd hquiet.kept hne
  refine ⟨hcareful, ?_⟩
  obtain ha | ha := ha
  · refine ⟨fun _ _ => hcareful.isConnected ha, fun hnone => ?_⟩
    obtain ⟨-, session, hsession⟩ := ha
    exact nomatch hsession.symm.trans hnone
  · refine ⟨fun session hsession => ?_, fun _ => ?_⟩
    · exact nomatch hsession.symm.trans ha.session
    refine ⟨hcareful.isKept ha.isKept, ha.holder, ?_, ?_, ha.answered⟩
    · exact (hquiet.session? _ fun h => h).trans ha.session
    · rw [openings_after, if_pos hi, ha.openings_eq]
      rfl

/-- **A caller connects the connector that is kept**: under the lock of its session it finds the
session there, or opens it. -/
theorem triple_ensureConnected (hi : H.callers i = true)
    (hH : ∀ j, n ≤ j → H.callers j = false)
    (hconnect : (k.transport.connect k.entry).Succeeds (answers i)) :
    (H.protocol answers n).Triple i (H.IsKept k)
      (k.ensureConnected.inside (PoolState.wire k.number))
      fun reply a => (∃ session, reply = .ok session) ∧ H.IsConnected k a := by
  have hconnected : ∀ reply : Except ConnectorError Session, (H.protocol answers n).Stable i
      fun a => (∃ session, reply = .ok session) ∧ H.IsConnected k a := fun reply =>
    (stable_const _).and stable_isConnected
  have hdone : ∀ session, (H.protocol answers n).Triple i (H.IsConnected k)
      (done (.ok session) : Action PoolState (Except ConnectorError Session))
      fun reply a => (∃ session, reply = .ok session) ∧ H.IsConnected k a := fun session =>
    (triple_done stable_isConnected).conseq (fun _ ha => ha)
      fun reply a ha => ⟨⟨session, ha.1⟩, ha.2⟩
  rw [RemoteConnector.ensureConnected, inside_withLock]
  refine triple_withLock stable_isKept (stable_isConnected.or (stable_opening [])) hconnected
    (fun a ha hmay => careful_acquire hi ha hmay) ?_ hconnected fun reply a ha hmay => ?_
  · rw [inside_bind]
    refine (triple_look hi).bind fun w => ?_
    cases hw : w.session with
    | some session => exact (hdone session).conseq (fun a ha => ha.1 session rfl) fun _ _ h => h
    | none =>
      -- the session is opened under the lock, and then it is kept
      let x := ((k.transport.connect k.entry).inside Wire.counter).inside (PoolState.wire k.number)
      have hcounter : ((k.transport.connect k.entry).inside Wire.counter).Obeys Request.KeepsLocks
          fun w w' => w'.session = w.session :=
        (k.transport.connect_obeys k.entry (Request.allowsConnect_keepsLocks.opening _)).inside _
          fun _ _ _ => rfl
      have hobeys : x.Obeys Request.KeepsLocks (PoolState.Quiet fun _ => False) :=
        hcounter.inside _ fun s w hw => PoolState.quiet_wire_of_session hw
      have honce : x.OpensOnce :=
        ((k.transport.connect_opensOnce k.entry).inside Wire.counter).inside _
      have hsucceeds : x.Succeeds (answers i) := (hconnect.inside Wire.counter).inside _
      refine Triple.conseq (A := H.Opening answers i k []) ?_ (fun a ha => ha.2 rfl)
        fun _ _ h => h
      rw [inside_bind]
      refine (triple_opening hi hH hobeys honce).bind fun reply => ?_
      cases reply with
      | error e =>
        -- the replies were those of the surroundings, and with these the transport succeeds
        refine Triple.conseq (A := fun _ => False) (fun a ha => ha.elim) ?_ fun _ _ h => h
        rintro a ⟨t, hrun, ha⟩
        obtain ⟨session, heq⟩ := hsucceeds t _ hrun ha.answered
        exact nomatch heq
      | ok session =>
        have hkeep : (H.protocol answers n).Triple i _
            ((RemoteConnector.keep session).inside (PoolState.wire k.number) >>= _) _ :=
          (triple_keep hi).bind fun _ => hdone session
        refine hkeep.conseq ?_ fun _ _ h => h
        rintro a ⟨t, hrun, ha⟩
        exact ⟨t, (honce t _ hrun).2 session rfl, ha⟩
  · exact ⟨careful_release ha.2 hmay, ha.1, (careful_release ha.2 hmay).isConnected ha.2⟩

/-! ## Getting a connector -/

/-- **A caller keeps the first connector**: it has a new number and no session, and none was opened
before. -/
theorem careful_create (hsound : H.Sound a) (hholder : a.holder .connectors = some i)
    (hnone : a.state.kept.get? H.host = none) :
    let s := (a.state.create H.host (H.pool.connectorFor H.entry)).2
    H.Careful i a (a.after i (.changed a.state s)) := by
  intro s
  have hchange : PoolState.Change a.state s := .create H.host fun _ => rfl
  have hkept : s.kept.get? H.host =
      some (H.pool.connectorFor H.entry a.state.slots.length) := by
    rw [PoolState.get?_kept_create, if_pos rfl]
  have hsession : s.session? a.state.slots.length = none := by
    have hslot : s.slots[a.state.slots.length]? = some { users := 1 } :=
      List.getElem?_concat_length
    rw [PoolState.session?, hslot]
    rfl
  have hopenings : openings H.callers (a.after i (.changed a.state s)) = [] := by
    rw [openings_after, hsound.unopened hnone]
    split <;> rfl
  have hsound' : H.Sound (a.after i (.changed a.state s)) := by
    refine ⟨hchange.numbered hsound.numbered, hsound.registered, fun k hk => ?_, ?_,
      fun _ => hopenings, fun k session hk hsome => ?_, fun _ _ _ _ => hopenings⟩
    · obtain rfl := Option.some.inj (hkept.symm.trans hk)
      rfl
    · rw [hopenings]
      exact Nat.zero_le 1
    · obtain rfl := Option.some.inj (hkept.symm.trans hk)
      cases hsession.symm.trans hsome
  -- there was no connector, so nothing that has to stay is lost
  have hlost : ∀ k, ¬ a.state.kept.get? H.host = some k := fun k hk => by
    cases hnone.symm.trans hk
  exact ⟨fun _ => hsound', hchange.grows, fun _ => hholder, fun k hk => absurd hk (hlost k),
    fun k _ hk => absurd hk (hlost k), fun k hk => absurd hk (hlost k)⟩

/-- **A caller finds the connector that is kept**, or keeps a new one. -/
theorem triple_lookup : (H.protocol answers n).Triple i H.Sound (H.pool.lookup H.host)
    fun reply a => ∃ k, reply = .ok k ∧ H.IsKept k a := by
  have hstable : ∀ reply : Except ConnectorError RemoteConnector,
      (H.protocol answers n).Stable i fun a => ∃ k, reply = .ok k ∧ H.IsKept k a := fun reply =>
    stable_exists fun k => (stable_const _).and stable_isKept
  refine ConnectorPool.triple_lookup (p := (· = some H.entry)) stable_sound (stable_free H.host)
    hstable (fun a ha => ha.registered) ?_ ?_ ?_ fun a _ hentry => nomatch hentry
  · intro a d hd hmay
    have hcareful : H.Careful i a _ := careful_idle hd hmay
    refine ⟨hcareful, hcareful.sound, ?_⟩
    rintro reply ⟨k, rfl, ha⟩
    exact ⟨k, rfl, hcareful.isKept ha⟩
  · intro a k ha hk
    have hquiet := a.state.quiet_take H.host
    have hcareful : H.Careful i a _ := careful_changed (hquiet.toApart fun _ _ h => h)
      fun hne => absurd hquiet.kept hne
    exact ⟨hcareful, k, rfl, hcareful.isKept ⟨ha, hk⟩⟩
  · intro a entry ha hholder hnone hentry
    obtain rfl := Option.some.inj hentry
    have hcareful : H.Careful i a _ := careful_create ha hholder hnone
    refine ⟨hcareful, _, rfl, hcareful.sound ha, ?_⟩
    rw [Scene.state_after_changed, PoolState.get?_kept_create, if_pos rfl]
    rfl

/-- **A caller gets the connector that is kept**, and it has a session by then. -/
theorem triple_get (hi : H.callers i = true) (hH : ∀ j, n ≤ j → H.callers j = false)
    (hremote : isLocalHost H.host = false)
    (hconnect : (H.pool.transport.connect H.entry).Succeeds (answers i)) :
    (H.protocol answers n).Triple i H.Sound (H.pool.get H.host)
      fun reply a => ∃ k, reply = .ok (.remote k) ∧ H.IsConnected k a := by
  have hfail : ∀ {α : Type} {x : Action PoolState α} {Q : α → Scene PoolState → Prop},
      (H.protocol answers n).Triple i (fun _ => False) x Q := fun a ha => ha.elim
  have hconnected : ∀ k, (H.protocol answers n).Triple i (H.IsKept k)
      (k.connect.inside (PoolState.wire k.number))
      fun reply a => reply = .ok () ∧ H.IsConnected k a := by
    intro k a ha
    -- the connector was made from the entry, so the transport opens its session
    have hsucceeds : (k.transport.connect k.entry).Succeeds (answers i) := by
      rw [ha.1.made k ha.2]
      exact hconnect
    rw [RemoteConnector.connect, inside_bind]
    refine Triple.bind (triple_ensureConnected hi hH hsucceeds) (fun reply => ?_) a ha
    cases reply with
    | error e => exact hfail.conseq (fun a ha => nomatch ha.1) fun _ _ h => h
    | ok session => exact (triple_done stable_isConnected).conseq (fun a ha => ha.2) fun _ _ h => h
  have hremote' : (H.protocol answers n).Triple i H.Sound (H.pool.remote H.host)
      fun reply a => ∃ k, reply = .ok k ∧ H.IsConnected k a := by
    refine Triple.andThen triple_lookup (fun k => ?_) fun e => ?_
    · refine Triple.conseq (A := H.IsKept k) ((hconnected k).bind fun reply => ?_) ?_
        fun _ _ h => h
      · cases reply with
        | error e => exact hfail.conseq (fun a ha => nomatch ha.1) fun _ _ h => h
        | ok _ =>
          exact (triple_done stable_isConnected).conseq (fun a ha => ha.2)
            fun reply a ha => ⟨k, ha⟩
      · rintro a ⟨k', heq, ha⟩
        exact Except.ok.inj heq ▸ ha
    · refine hfail.conseq ?_ fun _ _ h => h
      rintro a ⟨k, heq, -⟩
      exact nomatch heq
  rw [ConnectorPool.get, hremote]
  refine hremote'.andThen (fun k => ?_) fun e => ?_
  · refine (triple_done stable_isConnected).conseq ?_ fun reply a ha => ⟨k, ha⟩
    rintro a ⟨k', heq, ha⟩
    exact Except.ok.inj heq ▸ ha
  · refine hfail.conseq ?_ fun _ _ h => h
    rintro a ⟨k, heq, -⟩
    exact nomatch heq

end Flight

/-! ## Systems -/

variable {pool : ConnectorPool} {clients : List Client} {host : String} {entry : HostEntry}
  {s₀ : PoolState} {sys sys' : System PoolState}

/-- **The clients that get the connector for a host.** -/
def callers (clients : List Client) (host : String) (i : Nat) : Bool :=
  match clients[i]? with
  | some (.get h) => h == host
  | _ => false

theorem callers_eq_true_iff : callers clients host i = true ↔ clients[i]? = some (.get host) := by
  rw [callers]
  split
  · rename_i h heq
    rw [heq, beq_iff_eq, Option.some.injEq, Client.get.injEq]
  · rename_i hne
    exact iff_of_false Bool.false_ne_true fun heq => hne host heq

theorem callers_eq_false (h : clients.length ≤ i) : callers clients host i = false := by
  rw [callers, List.getElem?_eq_none h]

/-- **A host is used for the first time**: it is registered, no connector is kept for it, nobody
invalidates it or calls operations on it meanwhile, and its callers can connect. -/
structure FirstUse (answers : Answers) (pool : ConnectorPool) (clients : List Client)
    (host : String) (entry : HostEntry) (s : PoolState) : Prop where
  /-- The numbers of connectors are their own. -/
  numbered : s.Numbered
  /-- The host is not this machine. -/
  remote : isLocalHost host = false
  /-- It is registered. -/
  registered : s.registry.hosts.get? host = some entry
  /-- No connector is kept for it. -/
  unkept : s.kept.get? host = none
  /-- All other clients deal with other hosts. -/
  elsewhere : ∀ client ∈ clients, client = .get host ∨ client.Elsewhere host
  /-- The transport succeeds. -/
  connects : ∀ i, clients[i]? = some (.get host) →
    (pool.transport.connect entry).Succeeds (answers i)

/-- The host with its callers. -/
def flight (pool : ConnectorPool) (clients : List Client) (host : String) (entry : HostEntry) :
    Flight :=
  ⟨pool, host, entry, callers clients host⟩

/-- **A caller that is done has got the connector that is kept**, with a session. -/
def Flight.Served (H : Flight) (i : Nat) (a : Scene PoolState) : Prop :=
  H.callers i = true →
    ∃ k, Run (H.pool.get H.host) (a.pastOf i) (.ok (.remote k)) ∧ H.IsConnected k a

namespace FirstUse

theorem sound_start (h : FirstUse answers pool clients host entry s₀) :
    (flight pool clients host entry).Sound (startClients pool clients s₀).scene where
  numbered := h.numbered
  registered := h.registered
  made := fun _ hk => nomatch h.unkept.symm.trans hk
  le_one := Nat.zero_le 1
  unopened := fun _ => rfl
  opened := fun _ _ hk => nomatch h.unkept.symm.trans hk
  unopened_of_free := fun _ _ _ _ => rfl

/-- Threads that are started later are no callers. -/
theorem served_of_length_le {n : Nat} (hn : n = clients.length) :
    ∀ i, n ≤ i → ∀ a, (flight pool clients host entry).Served i a := by
  intro i hi a hcaller
  exact nomatch hcaller.symm.trans (callers_eq_false (hn ▸ hi))

/-- **All clients are careful**, and callers are served in the end. -/
theorem safe_start (h : FirstUse answers pool clients host entry s₀) {x : Action PoolState Unit}
    (hx : (clients.map (Client.action pool))[i]? = some x) :
    ((flight pool clients host entry).protocol answers clients.length).Safe i x
      (fun _ => (flight pool clients host entry).Served i)
      (startClients pool clients s₀).scene := by
  have hH : ∀ j, clients.length ≤ j → (flight pool clients host entry).callers j = false :=
    fun j hj => callers_eq_false hj
  rw [List.getElem?_map] at hx
  obtain ⟨client, hclient, rfl⟩ := Option.map_eq_some_iff.1 hx
  -- a caller keeps its result in its own history, which nobody else changes
  by_cases hi : callers clients host i = true
  · have hget : clients[i]? = some (.get host) := callers_eq_true_iff.1 hi
    obtain rfl := Option.some.inj (hclient.symm.trans hget)
    have hsafe := (Flight.triple_get (H := flight pool clients host entry) hi hH h.remote
      (h.connects i hget) _ h.sound_start).run (t := []) rfl
    refine hsafe.bind fun reply a hreply a' hmeanwhile _ => ?_
    obtain ⟨⟨k, rfl, hconnected⟩, t, hrun, hpast⟩ := hreply
    have hpast' : a'.pastOf i = [] ++ t := (stable_pastOf _).meanwhile hmeanwhile hpast
    exact ⟨k, hpast' ▸ hrun, Flight.stable_isConnected.meanwhile hmeanwhile hconnected⟩
  · have hne : client ≠ .get host := fun heq =>
      hi (callers_eq_true_iff.2 (hclient.trans (congrArg some heq)))
    have helsewhere := (h.elsewhere client (List.mem_of_getElem? hclient)).resolve_left hne
    have hfalse : callers clients host i = false := Bool.eq_false_iff.2 hi
    refine (Flight.triple_other (H := flight pool clients host entry) helsewhere hfalse hH _
      h.sound_start).mono fun _ a _ hcaller => absurd hcaller hi

theorem careful_of_step (h : FirstUse answers pool clients host entry s₀)
    (hreach : System.Reaches answers (startClients pool clients s₀) sys)
    (hstep : System.Step answers i sys sys') :
    (flight pool clients host entry).Careful i sys.scene sys'.scene :=
  promise_of_step (P := (flight pool clients host entry).protocol answers clients.length)
    (Q := (flight pool clients host entry).Served) (List.length_map _) (fun _ _ => h.safe_start)
    (served_of_length_le (List.length_map _)) hreach hstep

theorem sound_of_reaches (h : FirstUse answers pool clients host entry s₀)
    (hreach : System.Reaches answers (startClients pool clients s₀) sys) :
    (flight pool clients host entry).Sound sys.scene := by
  induction hreach with
  | refl => exact h.sound_start
  | tail hmid hstep ih =>
    obtain ⟨j, hstep⟩ := hstep
    exact (h.careful_of_step hmid hstep).sound ih

/-- **A connector with a session stays**, and so does its session. -/
theorem session_of_reaches (h : FirstUse answers pool clients host entry s₀)
    (hreach : System.Reaches answers (startClients pool clients s₀) sys)
    (hfrom : System.Reaches answers sys sys') {session : Session}
    (hk : sys.scene.state.kept.get? host = some k)
    (hsession : sys.scene.state.session? k.number = some session) :
    sys'.scene.state.kept.get? host = some k ∧
      sys'.scene.state.session? k.number = some session := by
  induction hfrom with
  | refl => exact ⟨hk, hsession⟩
  | tail hmid hstep ih =>
    obtain ⟨j, hstep⟩ := hstep
    have hcareful := h.careful_of_step (hreach.trans hmid) hstep
    exact ⟨hcareful.kept k ih.1, hcareful.session k session ih.1 ih.2⟩

theorem served_of_done (h : FirstUse answers pool clients host entry s₀)
    (hreach : System.Reaches answers (startClients pool clients s₀) sys)
    (hget : clients[i]? = some (.get host)) (hdone : sys.threads[i]? = some (done ())) :
    ∃ k, Run (pool.get host) (sys.scene.pastOf i) (.ok (.remote k)) ∧
      (flight pool clients host entry).IsConnected k sys.scene := by
  have hsafe := safe_of_reaches (P := (flight pool clients host entry).protocol answers
    clients.length) (Q := (flight pool clients host entry).Served) (List.length_map _)
    (fun _ _ => h.safe_start) (served_of_length_le (List.length_map _)) hreach hdone
  exact hsafe sys.scene .refl (callers_eq_true_iff.2 hget)

end FirstUse

/-- **The callers of a host share one connector and one session.** -/
structure SingleFlight (answers : Answers) (pool : ConnectorPool) (clients : List Client)
    (host : String) (sys : System PoolState) : Prop where
  /-- They never open a second session. -/
  le_one : (openings (callers clients host) sys.scene).length ≤ 1
  /-- All that are done have got the same connector, and they have opened one session. From then on
  the connector is kept and has this session, and no other one is opened. -/
  shared : ∃ k session, ∀ i : Nat, clients[i]? = some (.get host) →
    sys.threads[i]? = some (done ()) →
      Run (pool.get host) (sys.scene.pastOf i) (.ok (.remote k)) ∧
        ∀ sys', System.Reaches answers sys sys' →
          (openings (callers clients host) sys'.scene).length = 1 ∧
            sys'.scene.state.kept.get? host = some k ∧
              sys'.scene.state.session? k.number = some session
  /-- The clients do not go on for ever. -/
  ends : Acc (fun sys' sys => ∃ i, System.Step answers i sys sys') sys
  /-- When no client can go on any more, all callers are done, if all operations take locks in order
  and the surroundings always reply. -/
  served : (∀ client ∈ clients, client.IsOrderly) → (∀ i r, ∃ reply, answers i r reply) →
    (∀ i sys', ¬ System.Step answers i sys sys') →
      ∀ i : Nat, clients[i]? = some (.get host) → sys.threads[i]? = some (done ())

/-- **Single flight**: any number of callers open one session, in whatever order they and the
clients of other hosts go on. -/
theorem singleFlight (h : FirstUse answers pool clients host entry s₀)
    (hreach : System.Reaches answers (startClients pool clients s₀) sys) :
    SingleFlight answers pool clients host sys where
  le_one := (h.sound_of_reaches hreach).le_one
  ends := System.wellFounded_step.apply sys
  shared := by
    by_cases hany : ∃ i : Nat, clients[i]? = some (.get host) ∧ sys.threads[i]? = some (done ())
    · obtain ⟨i, hget, hdone⟩ := hany
      obtain ⟨k, -, ⟨-, hk⟩, session, hsession⟩ := h.served_of_done hreach hget hdone
      refine ⟨k, session, fun j hget hdone => ⟨?_, fun sys' hfrom => ?_⟩⟩
      · -- only one connector is kept for the host
        obtain ⟨k', hrun, ⟨-, hk'⟩, -⟩ := h.served_of_done hreach hget hdone
        obtain rfl := Option.some.inj (hk'.symm.trans hk)
        exact hrun
      · obtain ⟨hk', hsession'⟩ := h.session_of_reaches hreach hfrom hk hsession
        exact ⟨(h.sound_of_reaches (hreach.trans hfrom)).opened k session hk' hsession', hk',
          hsession'⟩
    · exact ⟨default, default, fun i hget hdone => absurd ⟨i, hget, hdone⟩ hany⟩
  served := by
    intro horderly hreply hstuck i hget
    have hclients : ∀ x ∈ clients.map (Client.action pool), Orderly [] x [] := fun x hx => by
      obtain ⟨client, hclient, rfl⟩ := List.mem_map.1 hx
      exact Client.orderly pool (horderly client hclient)
    -- threads that wait for each other would be stuck before they are done
    obtain ⟨y, hy, -⟩ := exists_after_client hreach hget
    rw [hy, System.eq_done_of_forall_not_step hreach hclients hreply hstuck hy]

/-- Surroundings that open every session, and otherwise give any reply. -/
def connecting : Answers
  | _, .connect _, reply => ∃ number, reply = .ok number
  | _, _, _ => True

/-- Two callers of a host, while another host is called and invalidated. -/
theorem singleFlight_router :
    let pool : ConnectorPool := { (default : ConnectorPool) with transport := .external }
    let router : HostEntry := { name := "router", address := "192.0.2.1" }
    let switch : HostEntry := { name := "switch", address := "192.0.2.2" }
    let clients : List Client := [.get "router", .get "router",
      .call 5 "switch" (.outputOf Connector.routesCommand), .invalidate "switch"]
    let hosts : Dict HostEntry := .ofList [("router", router), ("switch", switch)]
    let s : PoolState := { registry := { path := "/etc/units/hosts.json", hosts := hosts } }
    FirstUse connecting pool clients "router" router s ∧
      ∃ sys, System.Reaches connecting (startClients pool clients s) sys ∧
        (∀ x ∈ sys.threads, x = done ()) ∧
        SingleFlight connecting pool clients "router" sys := by
  intro pool router switch clients hosts s
  have hconnects : ∀ i, (pool.transport.connect router).Succeeds (connecting i) := fun i =>
    Transport.external_succeeds fun _ hreply => hreply
  have hfirst : FirstUse connecting pool clients "router" router s :=
    ⟨PoolState.numbered_of_kept_empty rfl, by decide, by simp [s, hosts, Dict.ofList], by simp [s],
      by simp [clients, Client.Elsewhere], fun i _ => hconnects i⟩
  have horderly : ∀ x ∈ clients.map (Client.action pool), Orderly [] x [] := by
    intro x hx
    obtain ⟨client, hclient, rfl⟩ := List.mem_map.1 hx
    refine Client.orderly pool ?_
    simp only [clients, List.mem_cons, List.not_mem_nil, or_false] at hclient
    obtain rfl | rfl | rfl | rfl := hclient
    · trivial
    · trivial
    · exact Operation.outputOf_orderly _
    · trivial
  have hreply : ∀ i r, ∃ reply, connecting i r reply := by
    intro i r
    obtain ⟨reply⟩ := nonempty_reply r
    cases r with
    | connect host => exact ⟨.ok 0, 0, rfl⟩
    | _ => exact ⟨reply, trivial⟩
  obtain ⟨sys, hreach, hdone⟩ := System.exists_done .refl horderly hreply
  exact ⟨hfirst, sys, hreach, hdone, singleFlight hfirst hreach⟩

end ConnectorPool

end NetUnits
