import NetUnits.Proofs.Connector.Promises

/-! # Sharing the connector for a host

Some threads get the connector for one host, others deal with other hosts. The lock of the kept
connectors and the lock of a session are held one after the other, so a thread can stop between
them at any time; what is true then is an invariant of all scenes.

* **`ConnectorPool.Flight`** — a host, and the threads that get its connector.
* **`ConnectorPool.Flight.Sound`** — the invariant: at most one session was opened, and it belongs
  to the connector that is kept.
* **`ConnectorPool.Flight.Careful`** — what each deed of a thread leaves as it is.
* **`ConnectorPool.Flight.triple_other`** — the clients of other hosts are careful. -/

namespace NetUnits.ConnectorPool

open NetUnits.Action NetUnits.Protocol

/-- **The requests by which some threads have opened sessions.** -/
def openings (p : Nat → Bool) (a : Scene PoolState) : List Request :=
  Deed.collect Request.opening? (a.past.filterMap fun q => if p q.1 then some q.2 else none)

/-- **A host, and the threads that get the connector for it.** -/
structure Flight where
  /-- The pool. -/
  pool : ConnectorPool
  /-- The name of the host. -/
  host : String
  /-- The entry of the host. -/
  entry : HostEntry
  /-- The threads that get its connector. -/
  callers : Nat → Bool

namespace Flight

variable {H : Flight} {answers : Answers} {a b : Scene PoolState} {d : Deed PoolState}
  {s : PoolState} {i n : Nat} {k : RemoteConnector} {c : Connector} {host : String}

/-- The sessions that callers have opened after a deed. -/
theorem openings_after (p : Nat → Bool) (a : Scene PoolState) (i : Nat) (d : Deed PoolState) :
    openings p (a.after i d) =
      openings p a ++ if p i then Deed.collect Request.opening? [d] else [] := by
  rw [openings, Scene.past_after, List.filterMap_append, Deed.collect_append]
  cases hp : p i <;> simp [openings, hp]

/-! ## The invariant -/

/-- **The callers open at most one session.** -/
structure Sound (H : Flight) (a : Scene PoolState) : Prop where
  /-- The numbers of connectors are their own. -/
  numbered : a.state.Numbered
  /-- The host is registered. -/
  registered : a.state.registry.hosts.get? H.host = some H.entry
  /-- The connector that is kept is one for the host. -/
  made : ∀ k, a.state.kept.get? H.host = some k → k = H.pool.connectorFor H.entry k.number
  /-- At most one session was opened. -/
  le_one : (openings H.callers a).length ≤ 1
  /-- Before there is a connector, none was opened. -/
  unopened : a.state.kept.get? H.host = none → openings H.callers a = []
  /-- If the connector has a session, it was opened. -/
  opened : ∀ k session, a.state.kept.get? H.host = some k →
    a.state.session? k.number = some session → (openings H.callers a).length = 1
  /-- If it has none and no caller is about to open one, none was opened. -/
  unopened_of_free : ∀ k, a.state.kept.get? H.host = some k →
    a.state.session? k.number = none →
    (∀ j, H.callers j = true → a.holder (.session k.number) ≠ some j) → openings H.callers a = []

/-- **What a deed of a thread leaves as it is.** -/
structure Careful (H : Flight) (i : Nat) (a b : Scene PoolState) : Prop where
  /-- The invariant is kept. -/
  sound : H.Sound a → H.Sound b
  /-- Numbers are given out once. -/
  grows : PoolState.Grows a.state b.state
  /-- Only who holds their lock changes the kept connectors. -/
  locked : b.state.kept ≠ a.state.kept → a.holder .connectors = some i
  /-- The connector for the host stays. -/
  kept : ∀ k, a.state.kept.get? H.host = some k → b.state.kept.get? H.host = some k
  /-- So does its session. -/
  session : ∀ k session, a.state.kept.get? H.host = some k →
    a.state.session? k.number = some session → b.state.session? k.number = some session
  /-- Only who holds the lock of its session opens one. -/
  alone : ∀ k, a.state.kept.get? H.host = some k → a.holder (.session k.number) ≠ some i →
    b.state.session? k.number = a.state.session? k.number ∧
      openings H.callers b = openings H.callers a

/-- **Deeds that change nothing for the host** are careful, unless a caller opens a session or
gives its lock back too early. -/
theorem careful_of_apart
    (hholder : ∀ j lock, j ≠ i → a.holder lock = some j → (a.after i d).holder lock = some j)
    (hstate : PoolState.Apart H.host a.state (a.after i d).state)
    (hlocked : (a.after i d).state.kept ≠ a.state.kept → a.holder .connectors = some i)
    (hopens : H.callers i = true → Deed.collect Request.opening? [d] = [])
    (hfree : H.callers i = true → H.Sound a → ∀ k, a.state.kept.get? H.host = some k →
      a.state.session? k.number = none →
      (∀ j, H.callers j = true → (a.after i d).holder (.session k.number) ≠ some j) →
        openings H.callers a = []) :
    H.Careful i a (a.after i d) := by
  -- a caller opens nothing by this deed, and what others open does not count
  have hsame : openings H.callers (a.after i d) = openings H.callers a := by
    rw [openings_after]
    split
    · rw [hopens ‹_›, List.append_nil]
    · rw [List.append_nil]
  have hsound : H.Sound a → H.Sound (a.after i d) := fun ha => by
    refine ⟨hstate.change.numbered ha.numbered, ?_, fun k hk => ha.made k (hstate.kept ▸ hk), ?_,
      fun hk => ?_, fun k session hk hsession => ?_, fun k hk hsession hnone => ?_⟩
    · rw [hstate.change.registry]
      exact ha.registered
    · rw [hsame]
      exact ha.le_one
    · rw [hsame]
      exact ha.unopened (hstate.kept ▸ hk)
    · have hk : a.state.kept.get? H.host = some k := hstate.kept ▸ hk
      rw [hsame]
      exact ha.opened k session hk (hstate.session? k hk ▸ hsession)
    · have hk : a.state.kept.get? H.host = some k := hstate.kept ▸ hk
      have hsession : a.state.session? k.number = none := hstate.session? k hk ▸ hsession
      rw [hsame]
      by_cases hi : H.callers i = true
      · exact hfree hi ha k hk hsession hnone
      · -- another thread does not hold what a caller holds
        refine ha.unopened_of_free k hk hsession fun j hj hlock => hnone j hj ?_
        exact hholder j _ (by rintro rfl; exact hi hj) hlock
  exact ⟨hsound, hstate.change.grows, hlocked, fun k hk => hstate.kept.trans hk,
    fun k session hk hsession => (hstate.session? k hk).trans hsession,
    fun k hk _ => ⟨hstate.session? k hk, hsame⟩⟩

/-- A change that changes nothing for the host is careful. -/
theorem careful_changed (hstate : PoolState.Apart H.host a.state s)
    (hlocked : s.kept ≠ a.state.kept → a.holder .connectors = some i) :
    H.Careful i a (a.after i (.changed a.state s)) :=
  careful_of_apart (fun _ _ _ hlock => hlock) hstate hlocked (fun _ => rfl)
    fun _ ha k hk hsession hnone => ha.unopened_of_free k hk hsession hnone

/-- An idle deed is careful. -/
theorem careful_idle (hd : IsIdle d) (hmay : a.May answers i d) :
    H.Careful i a (a.after i d) := by
  -- the protocol does not matter here, only what the surroundings reply
  obtain ⟨hstate, hholder⟩ := hd.after (P := ⟨answers, H.Careful, 0⟩) a hmay
  have hopens : Deed.collect Request.opening? [d] = [] := by
    cases d with
    | changed | forked => rfl
    | asked r reply =>
      cases r <;> first | rfl | exact hd.elim
  refine careful_of_apart (fun _ _ hj => Scene.holder_after_of_ne hmay hj.symm)
    (hstate ▸ .refl _ _) (fun hne => absurd (by rw [hstate]) hne)
    (fun _ => hopens) fun _ ha k hk hsession hnone => ?_
  exact ha.unopened_of_free k hk hsession fun j hj => hholder k.number ▸ hnone j hj

/-- A deed of another thread is careful if it changes nothing for the host. -/
theorem careful_other (hi : H.callers i = false) (hmay : a.May answers i d)
    (hstate : PoolState.Apart H.host a.state (a.after i d).state)
    (hlocked : (a.after i d).state.kept ≠ a.state.kept → a.holder .connectors = some i) :
    H.Careful i a (a.after i d) :=
  careful_of_apart (fun _ _ hj => Scene.holder_after_of_ne hmay hj.symm) hstate hlocked
    (fun hcaller => by simp [hi] at hcaller) fun hcaller => by simp [hi] at hcaller

/-- **The protocol** of all threads. -/
def protocol (H : Flight) (answers : Answers) (size : Nat) : Protocol PoolState where
  answers := answers
  promise := H.Careful
  size := size

theorem stable_sound : (H.protocol answers n).Stable i H.Sound := by
  rintro j a b - ⟨d, -, hpromise, -⟩ ha
  exact hpromise.sound ha

/-- No other thread keeps a connector as long as a thread holds the lock. -/
theorem stable_free (host : String) : (H.protocol answers n).Stable i fun a =>
    H.Sound a ∧ a.holder .connectors = some i ∧ a.state.kept.get? host = none := by
  rintro j a b hj hacts ⟨hsound, hholder, hnone⟩
  refine ⟨stable_sound j a b hj hacts hsound, stable_holder .connectors j a b hj hacts hholder, ?_⟩
  obtain ⟨d, -, hpromise, -⟩ := hacts
  by_cases hkept : b.state.kept = a.state.kept
  · rw [hkept, hnone]
  · -- whoever changes them holds the lock, and that is this thread
    exact absurd (Option.some.inj ((hpromise.locked hkept).symm.trans hholder)) hj

/-! ## Other hosts -/

/-- **A connector is not the one for the host**, and never will be. -/
def Spares (H : Flight) (c : Connector) (a : Scene PoolState) : Prop :=
  H.Sound a ∧ ∀ n, c.Has n → n < a.state.slots.length ∧
    ∀ k, a.state.kept.get? H.host = some k → k.number ≠ n

theorem Careful.spares (h : H.Careful i a b) (ha : H.Spares c a) : H.Spares c b := by
  refine ⟨h.sound ha.1, fun n hn => ?_⟩
  obtain ⟨hlt, hne⟩ := ha.2 n hn
  refine ⟨hlt.trans_le h.grows.length_le, fun k hk heq => ?_⟩
  -- a connector that is kept by now has a new number, or was kept before
  exact hne k (h.grows.kept_of_lt H.host k hk (heq ▸ hlt)) heq

/-- What changes only what such a connector holds is careful. -/
theorem inUse_other (c : Connector) :
    InUse (H.protocol answers n) (fun j => H.callers j = false) c (H.Spares c) where
  stable := by
    rintro i j a b - ⟨d, -, hpromise, -⟩ ha
    exact Careful.spares hpromise ha
  asked := by
    intro j a r reply hj ha hmay
    have hcareful : H.Careful j a _ := careful_other hj hmay (.refl _ _) fun hne => absurd rfl hne
    exact ⟨hcareful, hcareful.spares ha⟩
  changed := by
    intro j a s hj hquiet ha
    have hcareful : H.Careful j a _ := careful_changed
      (hquiet.toApart fun k hk hhas => (ha.2 _ hhas).2 k hk rfl)
      fun hne => absurd hquiet.kept hne
    exact ⟨hcareful, hcareful.spares ha⟩
  forked := by
    intro j a hj ha
    have hmay : a.May answers j .forked := trivial
    have hcareful : H.Careful j a _ := careful_other hj hmay (.refl _ _) fun hne => absurd rfl hne
    exact ⟨hcareful, hcareful.spares ha⟩

/-- A change under the lock is careful if it changes nothing for the host. -/
theorem triple_locked_other {α β : Type} {f : PoolState → α × PoolState}
    {rest : α → Action PoolState β} (hi : H.callers i = false)
    (hH : ∀ j, n ≤ j → H.callers j = false) (c : Connector)
    (hchange : ∀ s : PoolState, s.Numbered → PoolState.Apart H.host s (f s).2)
    (hrest : ∀ a, (rest a).Obeys Request.KeepsLocks fun _ _ => False) :
    (H.protocol answers n).Triple i (H.Spares c) (withLock .connectors (change f >>= rest))
      fun _ => H.Spares c := by
  refine (inUse_other c).triple_locked hH hi (fun a ha hholder => ?_) hrest
  have hcareful : H.Careful i a _ := careful_changed
    (hchange a.state ha.1.numbered) fun _ => hholder
  exact ⟨hcareful, hcareful.spares ha⟩

theorem keeps_other (hne : host ≠ H.host) (hi : H.callers i = false)
    (hH : ∀ j, n ≤ j → H.callers j = false) :
    Keeps (H.protocol answers n) (fun j => H.callers j = false) H.pool i host H.Sound H.Spares where
  here := fun c a ha => ⟨ha, fun n hn => hn.elim⟩
  use := inUse_other
  evict := fun k => triple_locked_other hi hH (.remote k) (fun s _ => s.apart_evict k hne)
    fun wasKept => reportEvicted_obeys host wasKept
  lookup := by
    let Q : Except ConnectorError RemoteConnector → Scene PoolState → Prop := fun r a =>
      H.Sound a ∧ ∀ k, r = .ok k → H.Spares (.remote k) a
    have hQ : ∀ {r a b}, H.Careful i a b → Q r a → Q r b := fun hcareful ha =>
      ⟨hcareful.sound ha.1, fun k hk => hcareful.spares (ha.2 k hk)⟩
    have hstable : ∀ r, (H.protocol answers n).Stable i (Q r) := fun r =>
      stable_sound.and (stable_forall fun k => stable_forall fun _ => (inUse_other _).stable i)
    refine (triple_lookup (Q := Q) (p := fun _ => True) stable_sound (stable_free host) hstable
      (fun _ _ => trivial) ?_ ?_ ?_ fun a ha _ => ⟨ha, fun k hk => nomatch hk⟩).conseq
      (fun _ ha => ha) fun r a ha => ha.2
    · intro a d hd hmay
      have hcareful : H.Careful i a _ := careful_idle hd hmay
      exact ⟨hcareful, hcareful.sound, fun r => hQ hcareful⟩
    · intro a k ha hk
      have hquiet := a.state.quiet_take host
      have hcareful : H.Careful i a _ := careful_changed
        (hquiet.toApart fun _ _ hfalse => hfalse) fun hne => absurd hquiet.kept hne
      refine ⟨hcareful, hcareful.sound ha, fun k' hk' => hcareful.spares ⟨ha, ?_⟩⟩
      obtain rfl := Except.ok.inj hk'
      rintro _ rfl
      -- the connector of another host has another number
      exact ⟨ha.numbered.lt host k hk,
        fun k' hk' heq => hne (ha.numbered.eq host H.host k k' hk hk' heq.symm)⟩
    · intro a entry ha hholder hnone _
      have happart : PoolState.Apart H.host a.state
          (a.state.create host (H.pool.connectorFor entry)).2 :=
        PoolState.apart_create ha.numbered (fun _ => rfl) hne
      have hcareful : H.Careful i a _ := careful_changed happart fun _ => hholder
      refine ⟨hcareful, hcareful.sound ha, fun k hk => ⟨hcareful.sound ha, ?_⟩⟩
      obtain rfl := Except.ok.inj hk
      rintro _ rfl
      -- its number is the next one, and all that were given out before are smaller
      refine ⟨?_, fun k' hk' => ?_⟩
      · rw [Scene.state_after_changed, PoolState.length_create]
        exact Nat.lt_succ_self _
      · rw [Scene.state_after_changed, PoolState.get?_kept_create, if_neg hne] at hk'
        exact (ha.numbered.lt H.host k' hk').ne

end Flight

/-! ## Clients of other hosts -/

/-- **A client deals with other hosts.** -/
def Client.Elsewhere (host : String) : Client → Prop
  | get h | call _ h _ | invalidate h => h ≠ host

/-- **Clients of other hosts are careful.** -/
theorem Flight.triple_other {H : Flight} {answers : Answers} {i n : Nat} {client : Client}
    (h : client.Elsewhere H.host) (hi : H.callers i = false)
    (hH : ∀ j, n ≤ j → H.callers j = false) :
    (H.protocol answers n).Triple i H.Sound (client.action H.pool) fun _ _ => True := by
  have hdone : (H.protocol answers n).Triple i (fun _ => True) (done ()) fun _ _ => True :=
    (triple_done (stable_const True)).conseq (fun _ ha => ha) fun _ _ _ => trivial
  cases client with
  | get host =>
    exact (((keeps_other h hi hH).triple_get hH hi stable_sound).conseq (fun _ ha => ha)
      fun _ _ _ => trivial).bind fun _ => hdone
  | call secs host operation =>
    exact ((keeps_other h hi hH).triple_callWithin hH hi stable_sound operation).bind
      fun _ => hdone
  | invalidate host =>
    -- this client uses no connector, so that of this machine stands for all
    have hinvalidate : (H.protocol answers n).Triple i (H.Spares (.here H.pool.here))
        (ConnectorPool.invalidate host) fun _ => H.Spares (.here H.pool.here) := by
      refine (triple_locked_other hi hH _ (fun s hs => PoolState.apart_forget hs h)
        fun session => ?_).bind fun wasKept => ?_
      · cases session with
        | none => trivial
        | some session => exact (closeSession_obeys session).bind fun _ => trivial
      · exact (inUse_other _).triple hH hi
          ((reportEvicted_obeys host wasKept).mono (fun _ hr => hr) fun _ _ hs => hs)
    exact hinvalidate.conseq (fun a ha => ⟨ha, fun n hn => hn.elim⟩) fun _ _ _ => trivial

end NetUnits.ConnectorPool
