import NetUnits.Proofs.Action.Undisturbed
import NetUnits.Proofs.Connector.Lookup
import NetUnits.Proofs.Connector.Sending

/-! # Calls that nobody disturbs

A call that nobody disturbs looks the connector for its host up, carries its operation out on it,
and leaves it where it was. If the connector is kept already and holds a session, the call comes
down to its operation.

* **`Request.IsAside`** — what a call asks for beside its operation.
* **`ConnectorPool.handed`** — the connector that is handed out for a host;
  **`ConnectorPool.Holds`** — it is at hand.
* **`ConnectorPool.Carries`** — a call carries its operation out on the connector;
  **`ConnectorPool.exists_carries`** — so does one that succeeds.
* **`ConnectorPool.of_undisturbed_call_ready`** — a call for a connector that is at hand and ready
  comes down to its operation, if workers do their work in time. -/

namespace NetUnits

open NetUnits.Action

variable {ω : Type} {may : Surroundings ω} {w w' : ω}

/-! ## Requests -/

/-- **What a call asks for beside its operation**: it concerns the log, schemas, locks and workers.
-/
def Request.IsAside : Request → Prop
  | event _ | load _ | acquire _ | release _ | startWorker _ | awaitWorker _ => True
  | _ => False

/-- **The content that a request hands over**, to a file or to a program. -/
def Request.content? : Request → Option ByteArray
  | save _ content | append _ content => some content
  | run _ _ bytes | exec _ _ bytes => bytes
  | _ => none

/-- What opens, keeps and closes a session hands nothing over. -/
theorem Request.allowsConnect_content : Request.AllowsConnect fun r => r.content? = none where
  event := fun _ => rfl
  isPresent := fun _ => rfl
  isAlive := fun _ => rfl
  control := fun _ _ _ => rfl
  findProgram := fun _ => rfl
  makeDirs := fun _ => rfl
  processId := rfl
  establish := fun _ => rfl
  connect := fun _ => rfl

theorem Request.IsAside.content?_eq {r : Request} (h : r.IsAside) : r.content? = none := by
  cases r <;> first | rfl | exact False.elim h

/-- **A worker does its work**: it is started, and ends in time. -/
def Request.IsPrompt : (r : Request) → r.Reply → Prop
  | startWorker _, reply => reply = .ok ()
  | awaitWorker _, fate => fate = .inTime
  | _, _ => True

/-- **Surroundings keep a property of worlds** whatever is asked for aside. -/
def Surroundings.Spares (may : Surroundings ω) (K : ω → Prop) : Prop :=
  ∀ r w reply w', r.IsAside → may r w reply w' → K w → K w'

namespace Action

variable {σ α : Type} {x : Action σ α} {s s' : σ} {t : List (Deed σ)} {a : α}
  {q : σ → σ → Prop}

theorem Undisturbed.spares {K : ω → Prop} (h : x.Undisturbed may s w t a s' w')
    (hx : x.Obeys Request.IsAside q) (hK : may.Spares K) (hw : K w) : K w' :=
  h.keeps (K := fun _ w => K w) hx (fun r _ w reply w' hr => hK r w reply w' hr)
    (fun _ _ _ _ hw => hw) hw

/-- What is asked for aside hands nothing over. -/
theorem Obeys.avoids_content (hx : x.Obeys Request.IsAside q) : x.Avoids Request.content? :=
  hx.mono (fun _ hr => hr.content?_eq) fun _ _ _ => trivial

end Action

/-- **A session that is held is found**, and nothing else is done. -/
theorem RemoteConnector.of_undisturbed_ensureConnected_held {k : RemoteConnector}
    {v v' : Wire} {t : List (Deed Wire)} {reply : Except ConnectorError Session}
    {session : Session} (hsession : v.session = some session)
    (h : k.ensureConnected.Undisturbed may v w t reply v' w') :
    reply = .ok session ∧ v = v' ∧ ∀ K, may.Spares K → K w → K w' := by
  obtain ⟨_, w₂, w₃, rfl, hacquire, hbody, hrelease⟩ := undisturbed_withLock_iff.1 h
  obtain ⟨_, rfl, hlooked⟩ := undisturbed_look_bind_iff.1 hbody
  rw [hsession] at hlooked
  obtain ⟨rfl, hreply, hsame, rfl⟩ := undisturbed_done_iff.1 hlooked
  exact ⟨hreply, hsame, fun K hK hw =>
    hK (.release _) _ _ _ trivial hrelease (hK (.acquire _) _ _ _ trivial hacquire hw)⟩

namespace ConnectorPool

variable {α : Type} {pool : ConnectorPool} {host : String} {secs : Nat} {c : Connector}
  {k : RemoteConnector} {s s' : PoolState} {t : List (Deed PoolState)} {K : ω → Prop}
  {operation : Connector → Action PoolState (Except ConnectorError α)}

/-! ## Connectors at hand -/

/-- **The connector that is handed out for a host**: that of this machine, or the one that is kept,
or a new one for the entry of the host. -/
def handed (pool : ConnectorPool) (host : String) (s : PoolState) : Option Connector :=
  if isLocalHost host then some (.here pool.here)
  else match s.kept.get? host with
    | some k => some (.remote k)
    | none => (s.registry.hosts.get? host).map fun entry =>
        .remote (pool.connectorFor entry s.slots.length)

/-- **A connector is at hand for a host**: it is that of this machine, or it is kept. -/
def Holds (pool : ConnectorPool) (host : String) (s : PoolState) : Connector → Prop
  | .here c => isLocalHost host = true ∧ c = pool.here
  | .remote k => isLocalHost host = false ∧ s.kept.get? host = some k ∧ k.number < s.slots.length

theorem Holds.handed_eq (h : pool.Holds host s c) : pool.handed host s = some c := by
  cases c with
  | here c =>
    obtain ⟨hlocal, rfl⟩ := h
    exact if_pos hlocal
  | remote k =>
    obtain ⟨hlocal, hk, -⟩ := h
    rw [handed, if_neg (Bool.eq_false_iff.1 hlocal), hk]

theorem Holds.of_quiet {p : Nat → Prop} (h : pool.Holds host s c) (hs : PoolState.Quiet p s s') :
    pool.Holds host s' c := by
  cases c with
  | here c => exact h
  | remote k => exact ⟨h.1, hs.kept ▸ h.2.1, hs.length ▸ h.2.2⟩

/-- **The session that a connector holds**; this machine needs none. -/
def sessionOf (s : PoolState) : Connector → Option Session
  | .here _ => none
  | .remote k => s.session? k.number

/-- **A connector is ready**: it is the one of this machine, or its session stands. -/
def Ready (stands : ω → Session → Prop) (s : PoolState) (w : ω) : Connector → Prop
  | .here _ => True
  | .remote k => ∃ session, s.session? k.number = some session ∧ stands w session

theorem Ready.of_world {stands : ω → Session → Prop} (h : Ready stands s w c)
    (hw : ∀ session, stands w session → stands w' session) : Ready stands s w' c := by
  cases c with
  | here c => trivial
  | remote k =>
    obtain ⟨session, hsession, hstands⟩ := h
    exact ⟨session, hsession, hw session hstands⟩

/-- **Opens the session of a connector**, if it needs one. -/
def opening (c : Connector) : Action PoolState (Except ConnectorError Unit) :=
  c.either (fun _ => done (.ok ())) RemoteConnector.connect

/-- What a connector in use is worth is not lost when its use ends. -/
theorem release_of_kept (hk : s.kept.get? host = some k) :
    s.release k.number = (none, s.withUsers k.number (· - 1)) := by
  have hneeded : (s.withUsers k.number (· - 1)).isNeeded k.number = true := by
    have hvalue : k ∈ s.kept.values := Dict.mem_values_iff.2 ⟨host, hk⟩
    simp only [PoolState.isNeeded, PoolState.withUsers, Bool.or_eq_true, List.any_eq_true]
    exact .inl ⟨k, hvalue, beq_self_eq_true k.number⟩
  rw [PoolState.release, PoolState.retire, if_pos hneeded]

/-- **Ending the use of a connector at hand** asks for nothing, and changes nothing but its users.
-/
theorem of_undisturbed_drop (hholds : pool.Holds host s c)
    (h : (drop c).Undisturbed may s w t () s' w') :
    PoolState.Quiet (fun _ => False) s s' ∧ w' = w ∧ Deed.collect Request.content? t = [] := by
  cases c with
  | here c =>
    obtain ⟨rfl, -, rfl, rfl⟩ := undisturbed_done_iff.1 h
    exact ⟨.refl _, rfl, rfl⟩
  | remote k =>
    obtain ⟨_, _, _, _, _, rfl, hchange, hclose⟩ := undisturbed_bind_iff.1 h
    obtain ⟨rfl, rfl, rfl, rfl⟩ := undisturbed_change_iff.1 hchange
    rw [release_of_kept hholds.2.1] at hclose
    obtain ⟨rfl, -, rfl, rfl⟩ := undisturbed_done_iff.1 hclose
    exact ⟨s.quiet_withUsers k.number (· - 1), rfl, rfl⟩

/-! ## Getting a connector -/

theorem lookup_aside (pool : ConnectorPool) (host : String) :
    (pool.lookup host).Obeys Request.IsAside fun _ _ => True := by
  refine Obeys.withLock trivial trivial (Obeys.bind (obeys_change fun _ => trivial) fun taken => ?_)
  cases taken with
  | some k => trivial
  | none =>
    rw [get_inside]
    refine Obeys.bind (Obeys.withLock trivial trivial (obeys_change fun _ => trivial))
      fun entry => ?_
    cases entry with
    | none => trivial
    | some entry =>
      exact (obeys_request trivial).bind fun _ => (obeys_change fun _ => trivial).bind fun _ =>
        trivial

/-- A connector that is kept is looked up. -/
theorem of_undisturbed_lookup_kept {result : Except ConnectorError RemoteConnector}
    (hk : s.kept.get? host = some k) (h : (pool.lookup host).Undisturbed may s w t result s' w') :
    result = .ok k ∧ PoolState.Quiet (fun _ => False) s s' := by
  obtain ⟨_, _, _, rfl, -, hbody, -⟩ := undisturbed_withLock_iff.1 h
  obtain ⟨_, _, _, _, _, rfl, htake, hrest⟩ := undisturbed_bind_iff.1 hbody
  obtain ⟨rfl, rfl, rfl, rfl⟩ := undisturbed_change_iff.1 htake
  rw [PoolState.fst_take, hk] at hrest
  obtain ⟨-, rfl, rfl, -⟩ := undisturbed_done_iff.1 hrest
  exact ⟨rfl, s.quiet_take host⟩

/-- **A connector that is looked up** is the one that is handed out, and is kept. -/
theorem of_undisturbed_lookup (hs : s.Numbered) (hlocal : isLocalHost host = false)
    (h : (pool.lookup host).Undisturbed may s w t (.ok k) s' w') :
    pool.handed host s = some (.remote k) ∧ pool.Holds host s' (.remote k) := by
  cases hkept : s.kept.get? host with
  | some k' =>
    obtain ⟨hk, hquiet⟩ := of_undisturbed_lookup_kept hkept h
    obtain rfl := Except.ok.inj hk
    have hholds : pool.Holds host s (.remote k) := ⟨hlocal, hkept, hs.lt host k hkept⟩
    exact ⟨hholds.handed_eq, hholds.of_quiet hquiet⟩
  | none =>
    obtain ⟨_, _, _, rfl, -, hbody, -⟩ := undisturbed_withLock_iff.1 h
    obtain ⟨_, _, _, _, _, rfl, htake, hrest⟩ := undisturbed_bind_iff.1 hbody
    obtain ⟨rfl, rfl, rfl, rfl⟩ := undisturbed_change_iff.1 htake
    rw [PoolState.fst_take, hkept, PoolState.snd_take_of_none hkept] at hrest
    -- nobody else changes the registry meanwhile, so the entry is the one that is there now
    simp only [get_inside] at hrest
    obtain ⟨_, _, entry, _, _, rfl, hget, hrest⟩ := undisturbed_bind_iff.1 hrest
    obtain ⟨_, _, _, rfl, -, hlook, -⟩ := undisturbed_withLock_iff.1 hget
    obtain ⟨rfl, rfl, rfl, rfl⟩ := undisturbed_change_iff.1 hlook
    cases hentry : s.registry.hosts.get? host with
    | none =>
      simp only [hentry] at hrest
      exact nomatch (undisturbed_done_iff.1 hrest).2.1
    | some entry =>
      simp only [hentry] at hrest
      obtain ⟨_, _, _, _, _, rfl, hevent, hrest⟩ := undisturbed_bind_iff.1 hrest
      obtain ⟨rfl, rfl, -⟩ := undisturbed_request_iff.1 hevent
      obtain ⟨_, _, _, _, _, rfl, hcreate, hdone⟩ := undisturbed_bind_iff.1 hrest
      -- a new connector gets the next number
      obtain ⟨rfl, rfl, rfl, rfl⟩ := undisturbed_change_iff.1 hcreate
      obtain ⟨-, hk, rfl, -⟩ := undisturbed_done_iff.1 hdone
      obtain rfl := Except.ok.inj hk
      refine ⟨?_, hlocal, ?_, ?_⟩
      · rw [handed, if_neg (Bool.eq_false_iff.1 hlocal), hkept, hentry]
        rfl
      · rw [PoolState.get?_kept_create, if_pos rfl]
        rfl
      · rw [PoolState.length_create]
        exact Nat.lt_succ_self _

theorem opening_obeys (c : Connector) : (opening c).Obeys (fun _ => True) c.Changes := by
  have hhere : ∀ _ : LocalConnector,
      (done (.ok ()) : Action PoolState (Except ConnectorError Unit)).Obeys (fun _ => True)
        fun s s' => s' = s := fun _ => trivial
  exact c.either_obeys hhere RemoteConnector.connect

/-- Opening a session hands nothing over. -/
theorem opening_avoids (c : Connector) : (opening c).Avoids Request.content? := by
  cases c with
  | here c => trivial
  | remote k =>
    exact (RemoteConnector.connect_obeys (Request.allowsConnect_content.opening _) rfl rfl).inside _
      fun _ _ _ => trivial

/-- What changes only what a connector holds leaves connectors at hand. -/
theorem Holds.of_undisturbed {β : Type} {x : Action PoolState β} {b : β} {c' : Connector}
    (hholds : pool.Holds host s c) (h : x.Undisturbed may s w t b s' w')
    (hx : x.Obeys (fun _ => True) c'.Changes) : pool.Holds host s' c :=
  h.keeps (K := fun s _ => pool.Holds host s c) hx (fun _ _ _ _ _ _ _ hs => hs)
    (fun _ _ _ hchange hs => hs.of_quiet hchange.quiet) hholds

/-- **A connector that is got** is the one that is handed out, and is at hand. Its session was
opened if it had none. -/
theorem of_undisturbed_get (hs : s.Numbered)
    (h : (pool.get host).Undisturbed may s w t (.ok c) s' w') :
    pool.handed host s = some c ∧ pool.Holds host s' c ∧ ∃ t₁ t₂ s₁ w₁, t = t₁ ++ t₂ ∧
      Deed.collect Request.content? t₁ = [] ∧ (∀ K, may.Spares K → K w → K w₁) ∧
        (opening c).Undisturbed may s₁ w₁ t₂ (.ok ()) s' w' := by
  cases hlocal : isLocalHost host with
  | true =>
    rw [get_of_isLocalHost pool hlocal] at h
    obtain ⟨rfl, hc, rfl, rfl⟩ := undisturbed_done_iff.1 h
    obtain rfl := Except.ok.inj hc
    have hholds : pool.Holds host s (.here pool.here) := ⟨hlocal, rfl⟩
    exact ⟨hholds.handed_eq, hholds, [], [], s, w, rfl, rfl, fun _ _ hw => hw, .done _ _ _⟩
  | false =>
    rw [get_of_not_isLocalHost pool hlocal] at h
    obtain ⟨_, -, he⟩ | ⟨_, _, k, _, _, rfl, hremote, hdone⟩ := undisturbed_andThen_iff.1 h
    · cases he
    obtain ⟨rfl, hc, rfl, rfl⟩ := undisturbed_done_iff.1 hdone
    obtain rfl := Except.ok.inj hc
    obtain ⟨_, -, he⟩ | ⟨t₁, _, k', s₁, w₁, rfl, hlookup, hrest⟩ :=
      undisturbed_andThen_iff.1 hremote
    · cases he
    obtain ⟨t₂, _, result, _, _, rfl, hconnect, hrest⟩ := undisturbed_bind_iff.1 hrest
    cases result with
    | error e =>
      obtain ⟨_, _, _, _, _, -, -, hrest⟩ := undisturbed_bind_iff.1 hrest
      obtain ⟨_, _, _, _, _, -, -, hrest⟩ := undisturbed_bind_iff.1 hrest
      exact nomatch (undisturbed_done_iff.1 hrest).2.1
    | ok _ =>
      obtain ⟨rfl, hk, rfl, rfl⟩ := undisturbed_done_iff.1 hrest
      obtain rfl := Except.ok.inj hk
      obtain ⟨hhanded, hholds⟩ := of_undisturbed_lookup hs hlocal hlookup
      have haside := pool.lookup_aside host
      refine ⟨hhanded, hholds.of_undisturbed hconnect (opening_obeys (.remote k)), t₁, t₂, s₁, w₁,
        by simp, ?_, fun K hK => hlookup.spares haside hK, hconnect⟩
      exact haside.avoids_content.collect_eq_nil hlookup.run

/-- What was put into the wire of a connector is read from it. -/
theorem get_set_wire {n : Nat} (h : n < s.slots.length) (v : Wire) :
    (PoolState.wire n).get ((PoolState.wire n).set v s) = v ∧
      n < ((PoolState.wire n).set v s).slots.length := by
  have hsession : ((PoolState.wire n).get ((PoolState.wire n).set v s)).session = v.session :=
    PoolState.session?_wire v h
  refine ⟨?_, ?_⟩
  · cases v
    exact congrArg (Wire.mk · _) hsession
  · rwa [(s.quiet_wire n v).length]

/-- **What a remote connector does undisturbed on what it holds** it does on its wire alone. -/
theorem exists_of_undisturbed_wire {β : Type} {x : Action Wire β} {b : β} {n : Nat}
    (hn : n < s.slots.length)
    (h : (x.inside (PoolState.wire n)).Undisturbed may s w t b s' w') :
    ∃ t', x.Undisturbed may ((PoolState.wire n).get s) w t' b ((PoolState.wire n).get s') w' := by
  obtain ⟨-, t', h, -⟩ :=
    h.exists_of_inside (K := fun s => n < s.slots.length) (fun _ v hs => get_set_wire hs v) hn
  exact ⟨t', h⟩

/-- **A connector that holds a session is connected at once**, and goes on holding it. -/
theorem of_undisturbed_opening_held {result : Except ConnectorError Unit} {session : Session}
    (hn : k.number < s.slots.length) (hsession : s.session? k.number = some session)
    (h : (opening (.remote k)).Undisturbed may s w t result s' w') :
    result = .ok () ∧ s'.session? k.number = some session ∧ ∀ K, may.Spares K → K w → K w' := by
  obtain ⟨_, h⟩ := exists_of_undisturbed_wire hn h
  obtain ⟨_, _, reply, v, w₁, rfl, hconnected, hdone⟩ := undisturbed_bind_iff.1 h
  obtain ⟨rfl, heq, hspares⟩ :=
    RemoteConnector.of_undisturbed_ensureConnected_held hsession hconnected
  obtain ⟨rfl, rfl, heq', rfl⟩ := undisturbed_done_iff.1 hdone
  exact ⟨rfl, (congrArg Wire.session (heq.trans heq')).symm.trans hsession, hspares⟩

/-! ## Operations -/

/-- **What an operation on a connector in use comes to**: it was not carried out by a worker in
time, or it was, and then the use of the connector ended. -/
theorem of_undisturbed_runOn {result : Except ConnectorError α}
    (h : (runOn host secs c operation).Undisturbed may s w t result s' w') :
    (∃ e, result = .error e) ∧ ((workerName c).toList.contains '\x00' = true ∨
        ∃ r reply, .asked r reply ∈ t ∧ ¬ r.IsPrompt reply) ∨
      (workerName c).toList.contains '\x00' = false ∧ ∃ w₁ u r s₁ w₂ v,
        t = begun secs c .inTime ++ (u ++ v) ∧ (∀ K, may.Spares K → K w → K w₁) ∧
          (operation c).Undisturbed may s w₁ u r s₁ w₂ ∧
            (settle host c r).Undisturbed may s₁ w₂ v result s' w' := by
  have hdrop : ∀ {e : ConnectorError} {s : PoolState} {w : ω} {t : List (Deed PoolState)},
      (drop c >>= fun _ => done (.error e)).Undisturbed may s w t result s' w' →
        ∃ e, result = .error e := fun h => by
    obtain ⟨_, _, _, _, _, -, -, hdone⟩ := undisturbed_bind_iff.1 h
    exact ⟨_, (undisturbed_done_iff.1 hdone).2.1⟩
  rw [runOn] at h
  split at h
  · rename_i hname
    exact .inl ⟨hdrop h, .inl hname⟩
  · rename_i hname
    obtain ⟨_, _, started, _, w₀, rfl, hrequest, hstarted⟩ := undisturbed_bind_iff.1 h
    obtain ⟨rfl, rfl, hstart⟩ := undisturbed_request_iff.1 hrequest
    cases started with
    | error fault =>
      have hrefused : ¬ (Request.startWorker (workerName c)).IsPrompt (.error fault) := fun h => by
        cases h
      exact .inl ⟨hdrop hstarted, .inr ⟨_, _, List.mem_cons_self, hrefused⟩⟩
    | ok _ =>
      obtain ⟨_, _, fate, _, w₁, rfl, hwait, hfate⟩ := undisturbed_bind_iff.1 hstarted
      obtain ⟨rfl, rfl, hawait⟩ := undisturbed_request_iff.1 hwait
      have hmem : ∀ u : List (Deed PoolState), Deed.asked (.awaitWorker secs) fate ∈
          .asked (.startWorker (workerName c)) (.ok ()) :: .asked (.awaitWorker secs) fate :: u :=
        fun u => List.mem_cons_of_mem _ List.mem_cons_self
      cases fate with
      | inTime =>
        obtain ⟨u, v, r, s₁, w₂, rfl, hoperation, hsettle⟩ := undisturbed_bind_iff.1 hfate
        refine .inr ⟨Bool.eq_false_iff.2 hname, w₁, u, r, s₁, w₂, v, rfl, fun K hK hw => ?_,
          hoperation, hsettle⟩
        exact hK (.awaitWorker _) _ _ _ trivial hawait (hK (.startWorker _) _ _ _ trivial hstart hw)
      | late =>
        obtain ⟨_, _, _, _, _, rfl, -, hforked⟩ := undisturbed_bind_iff.1 hfate
        obtain ⟨_, rfl, htold⟩ := undisturbed_fork_iff.1 hforked
        obtain ⟨_, _, _, _, _, rfl, -, habandon⟩ := undisturbed_bind_iff.1 htold
        obtain ⟨_, _, _, _, _, rfl, -, hlast⟩ := undisturbed_bind_iff.1 habandon
        have hlate : ¬ (Request.awaitWorker secs).IsPrompt .late := fun h => by cases h
        exact .inl ⟨hdrop hlast, .inr ⟨_, _, hmem _, hlate⟩⟩
      | gone =>
        obtain ⟨_, _, _, _, _, rfl, -, hlast⟩ := undisturbed_bind_iff.1 hfate
        have hgone : ¬ (Request.awaitWorker secs).IsPrompt .gone := fun h => by cases h
        exact .inl ⟨hdrop hlast, .inr ⟨_, _, hmem _, hgone⟩⟩

/-- **An operation that succeeded is settled**: the use of its connector ends, and nothing is asked.
-/
theorem of_undisturbed_settle_ok {a : α} {result : Except ConnectorError α}
    (hholds : pool.Holds host s c)
    (h : (settle host c (.ok a)).Undisturbed may s w t result s' w') :
    result = .ok a ∧ w' = w ∧ PoolState.Quiet (fun _ => False) s s' ∧
      Deed.collect Request.content? t = [] := by
  have hends : (drop c >>= fun _ => done (Except.ok a)).Undisturbed may s w t result s' w' := h
  obtain ⟨t₁, _, _, _, _, rfl, hdrop, hdone⟩ := undisturbed_bind_iff.1 hends
  obtain ⟨rfl, rfl, rfl, rfl⟩ := undisturbed_done_iff.1 hdone
  obtain ⟨hquiet, rfl, hdropped⟩ := of_undisturbed_drop hholds hdrop
  exact ⟨rfl, rfl, hquiet, by rwa [List.append_nil]⟩

/-! ## Calls -/

/-- What is there before an operation is carried out: other requests were made aside, and the
session of the connector was opened if it had none. -/
def Approached (may : Surroundings ω) (c : Connector) (w w' : ω) : Prop :=
  ∀ K : ω → Prop, may.Spares K →
    (∀ s w t r s' w', (opening c).Undisturbed may s w t r s' w' → K w → K w') → K w → K w'

theorem numbered_of_undisturbed {β : Type} {x : Action PoolState β} {b : β}
    (h : x.Undisturbed may s w t b s' w') (hx : x.Obeys (fun _ => True) PoolState.Change)
    (hs : s.Numbered) : s'.Numbered :=
  h.keeps (K := fun s _ => s.Numbered) hx (fun _ _ _ _ _ _ _ hs => hs)
    (fun _ _ _ hchange hs => hchange.numbered hs) hs

/-- **A call carries its operation out on a connector**, from a state and a world on, with a result
and another state. -/
structure Carries (may : Surroundings ω) (pool : ConnectorPool) (host : String)
    (operation : Operation α) (s : PoolState) (w : ω) (t : List (Deed PoolState)) (a : α)
    (s' : PoolState) (w' : ω) (c : Connector) (s₁ : PoolState) (w₁ : ω) (u : List (Deed PoolState))
    (s₂ : PoolState) : Prop where
  /-- The connector is the one that is handed out for the host. -/
  handed : pool.handed host s = some c
  /-- A worker can have its name. -/
  named : (workerName c).toList.contains '\x00' = false
  /-- It is at hand. -/
  held : pool.Holds host s₁ c
  /-- Nothing was done on it before but opening its session. -/
  approached : Approached may c w w₁
  /-- The operation is carried out. -/
  carried : (operation.on c).Undisturbed may s₁ w₁ u (.ok a) s₂ w'
  /-- The use of the connector ends, and its session stays. -/
  dropped : PoolState.Quiet (fun _ => False) s₂ s'
  /-- Nothing is handed over but by the operation. -/
  content : Deed.collect Request.content? t = Deed.collect Request.content? u

theorem Carries.holds {operation : Operation α} {a : α} {s₁ s₂ : PoolState} {w₁ : ω}
    {u : List (Deed PoolState)}
    (h : Carries may pool host operation s w t a s' w' c s₁ w₁ u s₂) : pool.Holds host s' c :=
  (h.held.of_undisturbed h.carried (operation.obeys c)).of_quiet h.dropped

/-- **A call that succeeds has carried its operation out.** -/
theorem exists_carries {operation : Operation α} {a : α} (hs : s.Numbered)
    (h : (pool.call host operation.on).Undisturbed may s w t (.ok a) s' w') :
    ∃ c s₁ w₁ u s₂, Carries may pool host operation s w t a s' w' c s₁ w₁ u s₂ := by
  obtain ⟨_, -, he⟩ | ⟨_, _, c, s₁, w₀, rfl, hget, hrun⟩ := undisturbed_andThen_iff.1 h
  · cases he
  obtain ⟨hhanded, hholds, t₁, t₂, _, _, rfl, hnil, hspares, hopening⟩ := of_undisturbed_get hs hget
  obtain ⟨⟨e, he⟩, -⟩ | ⟨hname, w₁, u, r, s₂, w₂, v, rfl, haside, hoperation, hsettle⟩ :=
    of_undisturbed_runOn hrun
  · cases he
  have hr : r = .ok a := (eq_of_run_settle hsettle.run).symm
  subst hr
  obtain ⟨-, rfl, hquiet, hdropped⟩ :=
    of_undisturbed_settle_ok (hholds.of_undisturbed hoperation (operation.obeys c)) hsettle
  refine ⟨c, s₁, w₁, u, s₂, hhanded, hname, hholds, fun K hK hopen hw => ?_, hoperation, hquiet, ?_⟩
  · exact haside K hK (hopen _ _ _ _ _ _ hopening (hspares K hK hw))
  · have hopened := (opening_avoids c).collect_eq_nil hopening.run
    have hbegun :
        Deed.collect Request.content? (begun pool.settings.commandTimeout c .inTime) = [] := rfl
    simp only [Deed.collect_append, hnil, hopened, hbegun, hdropped,
      List.nil_append, List.append_nil]

/-- **A connector that is at hand and ready is got**, and stays so. -/
theorem of_undisturbed_get_ready {result : Except ConnectorError Connector}
    {stands : ω → Session → Prop} (hstands : ∀ session, may.Spares (stands · session))
    (hholds : pool.Holds host s c) (hready : Ready stands s w c)
    (h : (pool.get host).Undisturbed may s w t result s' w') :
    result = .ok c ∧ pool.Holds host s' c ∧ Ready stands s' w' c ∧
      ∀ K, may.Spares K → K w → K w' := by
  cases c with
  | here c =>
    obtain ⟨hlocal, rfl⟩ := hholds
    rw [get_of_isLocalHost pool hlocal] at h
    obtain ⟨rfl, rfl, rfl, rfl⟩ := undisturbed_done_iff.1 h
    exact ⟨rfl, ⟨hlocal, rfl⟩, trivial, fun _ _ hw => hw⟩
  | remote k =>
    obtain ⟨session, hsession, hstand⟩ := hready
    rw [get_of_not_isLocalHost pool hholds.1] at h
    obtain ⟨t₁, _, r, s₂, w₂, rfl, hremote, hlast⟩ := undisturbed_bind_iff.1 h
    obtain ⟨t₂, _, r', s₁, w₁, rfl, hlookup, hrest⟩ := undisturbed_bind_iff.1 hremote
    obtain ⟨rfl, hquiet⟩ := of_undisturbed_lookup_kept hholds.2.1 hlookup
    have hholds₁ := hholds.of_quiet hquiet
    obtain ⟨t₃, _, r₃, s₃, w₃, rfl, hopening, hopened⟩ := undisturbed_bind_iff.1 hrest
    obtain ⟨rfl, hsession', hspares⟩ := of_undisturbed_opening_held hholds₁.2.2
      ((hquiet.session? _ not_false).trans hsession) hopening
    obtain ⟨rfl, rfl, rfl, rfl⟩ := undisturbed_done_iff.1 hopened
    obtain ⟨rfl, rfl, rfl, rfl⟩ := undisturbed_done_iff.1 hlast
    have hkept : ∀ K, may.Spares K → K w → K w₃ := fun K hK hw =>
      hspares K hK (hlookup.spares (pool.lookup_aside host) hK hw)
    exact ⟨rfl, hholds₁.of_undisturbed hopening (opening_obeys (.remote k)),
      ⟨session, hsession', hkept _ (hstands session) hstand⟩, hkept⟩

/-- **A call for a connector that is at hand and ready carries its operation out** if workers do
their work, and succeeds if the operation does. -/
theorem of_undisturbed_call_ready {operation : Operation α} {result : Except ConnectorError α}
    {stands : ω → Session → Prop} (hstands : ∀ session, may.Spares (stands · session))
    (hholds : pool.Holds host s c) (hready : Ready stands s w c)
    (hname : (workerName c).toList.contains '\x00' = false)
    (hprompt : ∀ r reply, .asked r reply ∈ t → r.IsPrompt reply)
    (h : (pool.call host operation.on).Undisturbed may s w t result s' w') :
    ∃ s₁ w₁ u r s₂ w₂, Ready stands s₁ w₁ c ∧ (∀ K, may.Spares K → K w → K w₁) ∧
      (operation.on c).Undisturbed may s₁ w₁ u r s₂ w₂ ∧
        ∀ a, r = .ok a → result = .ok a ∧ w' = w₂ := by
  obtain ⟨t₁, t₂, r, s₁, w₁, rfl, hget, hrun⟩ := undisturbed_bind_iff.1 h
  obtain ⟨rfl, hholds₁, hready₁, hspares⟩ := of_undisturbed_get_ready hstands hholds hready hget
  obtain ⟨-, hname' | ⟨r, reply, hmem, hlate⟩⟩ |
    ⟨-, w₂, u, r, s₂, w₃, v, rfl, haside, hoperation, hsettle⟩ := of_undisturbed_runOn hrun
  · cases hname.symm.trans hname'
  · exact absurd (hprompt r reply (List.mem_append_right t₁ hmem)) hlate
  refine ⟨s₁, w₂, u, r, s₂, w₃, hready₁.of_world fun session => haside _ (hstands session),
    fun K hK hw => haside K hK (hspares K hK hw), hoperation, ?_⟩
  rintro a rfl
  obtain ⟨rfl, rfl, -, -⟩ :=
    of_undisturbed_settle_ok (hholds₁.of_undisturbed hoperation (operation.obeys c)) hsettle
  exact ⟨rfl, rfl⟩

end ConnectorPool

end NetUnits
