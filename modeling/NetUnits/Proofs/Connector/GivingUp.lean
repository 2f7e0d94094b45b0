import NetUnits.Proofs.Connector.Clients

/-! # Giving connectors up

A connector that was kept is kept no longer after a client has given it up. What the client has done
before says why: it has invalidated the host, or it has used that very connector, and either could
not connect it or has lost its connection in an operation.

* **`ConnectorPool.ConnectFailed`**, **`ConnectorPool.OperationFailed`** — why a caller gives a
  connector up; **`ConnectorPool.Client.GivesUp`** — why a client does.
* **`ConnectorPool.Client.exists_givesUp`** — no host loses its connector for another reason.
* **`ConnectorPool.exists_evict_of_run_callWithin`** — a call that ends with an error of the
  connection has evicted its connector.
* **`ConnectorPool.retains_of_begun`** — an operation that did not lose its connection evicts
  nothing.
* **`ConnectorPool.exists_of_run_runOn_ok`**, **`ConnectorPool.exists_of_begun`** — an operation
  that has a result was carried out, and so was one that was begun in time. -/

namespace NetUnits

open NetUnits.Action

/-- No host loses its connector. -/
def PoolState.Retains (s s' : PoolState) : Prop :=
  ∀ h k, s.kept.get? h = some k → s'.kept.get? h ≠ none

theorem PoolState.Quiet.retains {p : Nat → Prop} {s s' : PoolState} (h : PoolState.Quiet p s s') :
    s.Retains s' := by
  intro host k hk
  rw [h.kept, hk]
  exact Option.some_ne_none k

namespace ConnectorPool

variable {α : Type} {pool : ConnectorPool} {host h : String} {secs : Nat} {k : RemoteConnector}
  {s s' : PoolState} {t : List (Deed PoolState)}

/-! ## Reasons -/

/-- **A caller could not connect** the connector that it has looked up. -/
def ConnectFailed (pool : ConnectorPool) (host : String) (c : RemoteConnector)
    (t : List (Deed PoolState)) : Prop :=
  ∃ t₁ t₂ e, Run (pool.lookup host) t₁ (.ok c) ∧
    Run (c.connect.inside (PoolState.wire c.number)) t₂ (.error e) ∧ t₁ ++ t₂ <+: t

/-- An operation is begun on a worker, which has a fate. -/
def begun (secs : Nat) (c : Connector) (fate : Fate) : List (Deed PoolState) :=
  [.asked (.startWorker (workerName c)) (.ok ()), .asked (.awaitWorker secs) fate]

/-- **An operation on a connector has lost its connection**: it failed with an error of the
connection, or it was late, or it ended without a result. -/
inductive Lost (secs : Nat) (operation : Operation α) (c : Connector) (t : List (Deed PoolState)) :
    Prop where
  /-- It failed with an error of the connection. -/
  | failed {t' : List (Deed PoolState)} {e : ConnectorError}
    (run : Run (operation.on c) t' (.error e)) (lost : e.isConnection = true)
    (start : begun secs c .inTime ++ t' <+: t)
  /-- It took too long. -/
  | late (start : begun secs c .late <+: t)
  /-- It ended without a result. -/
  | gone (start : begun secs c .gone <+: t)

/-- **A caller has got a connector, and its operation on it has lost the connection.** -/
def OperationFailed (pool : ConnectorPool) (secs : Nat) (host : String) (operation : Operation α)
    (c : RemoteConnector) (t : List (Deed PoolState)) : Prop :=
  ∃ t₁ t₂, Run (pool.get host) t₁ (.ok (.remote c)) ∧ Lost secs operation (.remote c) t₂ ∧
    t = t₁ ++ t₂

/-- **Why a client gives up the connector for a host**, after what it has done. -/
def Client.GivesUp (pool : ConnectorPool) (h : String) (c : RemoteConnector)
    (t : List (Deed PoolState)) : Client → Prop
  | get host => host = h ∧ ConnectFailed pool host c t
  | call secs host operation =>
    host = h ∧ (ConnectFailed pool host c t ∨ OperationFailed pool secs host operation c t)
  | invalidate host => host = h

/-! ## No other reasons -/

/-- What obeys rules by which no host loses its connector does not take it. -/
theorem retains_of_after {β : Type} {x y : Action PoolState β} {p : Request → Prop}
    {q : PoolState → PoolState → Prop} (hx : x.Obeys p q) (hq : ∀ s s', q s s' → s.Retains s')
    (hafter : After x (t ++ [.changed s s']) y) : s.Retains s' :=
  hq s s' (hx.of_after_snoc hafter)

/-- Where a connector ends, no other host loses its connector, and none but that one. -/
theorem eq_of_ends {c : Connector} (hends : Ends host c s s') (hk : s.kept.get? h = some k)
    (hlost : s'.kept.get? h = none) :
    ∃ remote, c = .remote remote ∧ host = h ∧ remote.number = k.number := by
  obtain ⟨remote, rfl, rfl⟩ | hquiet := hends
  · refine ⟨remote, rfl, ?_⟩
    by_contra hne
    have hkept : (s.evict host remote).2.kept.get? h = some k :=
      PoolState.get?_kept_evict_iff.2 ⟨hk, fun hsame => hne ⟨hsame.1.symm, hsame.2.symm⟩⟩
    exact nomatch hkept.symm.trans hlost
  · exact absurd hlost (hquiet.retains h k hk)

theorem lookup_retains (pool : ConnectorPool) (host : String) :
    (pool.lookup host).Obeys (fun _ => True) PoolState.Retains := by
  refine (pool.lookup_obeys host).mono (fun _ hr => hr) fun s s' hs => ?_
  obtain hs | ⟨entry, rfl⟩ := hs
  · exact hs.retains
  · intro h k hk
    rw [PoolState.get?_kept_create]
    split
    · exact Option.some_ne_none _
    · exact hk ▸ Option.some_ne_none k

/-- **Getting a connector gives up only one that cannot be connected.** -/
theorem exists_connectFailed {y : Action PoolState (Except ConnectorError RemoteConnector)}
    (hafter : After (pool.remote host) (t ++ [.changed s s']) y) (hk : s.kept.get? h = some k)
    (hlost : s'.kept.get? h = none) :
    host = h ∧ ∃ c, c.number = k.number ∧ ConnectFailed pool host c t := by
  obtain ⟨z, hz⟩ | ⟨t₁, t₂, r, rfl, hlookup, hrest⟩ := after_bind_snoc hafter
  · exact absurd hlost (retains_of_after (pool.lookup_retains host) (fun _ _ hs => hs) hz h k hk)
  cases r with
  | error e => exact absurd hrest not_after_done_snoc
  | ok c =>
    obtain ⟨z, hz⟩ | ⟨t₂, t₃, r, rfl, hconnect, hrest⟩ := after_bind_snoc hrest
    · exact absurd hlost (retains_of_after (connect_obeys c) (fun _ _ hs => hs.retains) hz h k hk)
    cases r with
    | ok _ => exact absurd hrest not_after_done_snoc
    | error e =>
      have hends : (evict host c >>= fun _ => release c >>= fun _ => done (.error e) :
          Action PoolState (Except ConnectorError RemoteConnector)).Obeys (fun _ => True)
            (Ends host (.remote c)) :=
        (evict_obeys host c).bind fun _ => (drop_ends host (.remote c)).bind fun _ => trivial
      obtain ⟨remote, hremote, rfl, hnumber⟩ := eq_of_ends (hends.of_after_snoc hrest) hk hlost
      obtain rfl := Connector.remote.inj hremote
      exact ⟨rfl, c, hnumber, t₁, t₂, e, hlookup, hconnect, by simp⟩

/-- **An operation gives up only its own connector**, and only if it has lost the connection. -/
theorem exists_lost {c : Connector} {operation : Operation α}
    {y : Action PoolState (Except ConnectorError α)}
    (hafter : After (runOn host secs c operation.on) (t ++ [.changed s s']) y)
    (hk : s.kept.get? h = some k) (hlost : s'.kept.get? h = none) :
    ∃ remote, c = .remote remote ∧ host = h ∧ remote.number = k.number ∧
      Lost secs operation c t := by
  have hends := (runOn_obeys host secs c operation).of_after_snoc hafter
  obtain ⟨remote, hc, hhost, hnumber⟩ := eq_of_ends hends hk hlost
  refine ⟨remote, hc, hhost, hnumber, ?_⟩
  -- ending the use of a connector takes none from a host
  have hdrop : ∀ (r : Except ConnectorError α) {t' : List (Deed PoolState)}
      {z : Action PoolState (Except ConnectorError α)},
      ¬ After (drop c >>= fun _ => done r) (t' ++ [.changed s s']) z := fun r t' z hz => by
    have hobeys : (drop c >>= fun _ => done r).Obeys Request.KeepsLocks (PoolState.Quiet c.Has) :=
      (drop_obeys c).bind fun _ => trivial
    exact retains_of_after hobeys (fun _ _ hs => hs.retains) hz h k hk hlost
  rw [runOn] at hafter
  split at hafter
  · exact absurd hafter (hdrop _)
  obtain ⟨started, t, rfl, hstarted⟩ := hafter.of_request_bind
  cases started with
  | error fault => exact absurd hstarted (hdrop _)
  | ok _ =>
    obtain ⟨fate, t, rfl, hfate⟩ := hstarted.of_request_bind
    cases fate with
    | inTime =>
      obtain ⟨z, hz⟩ | ⟨t, t₂, r, rfl, hrun, hrest⟩ := after_bind_snoc hfate
      · exact absurd hlost (retains_of_after (operation.obeys c) (fun _ _ hs => hs.quiet.retains)
          hz h k hk)
      by_cases hr : ∃ e, r = .error e ∧ e.isConnection = true
      · obtain ⟨e, rfl, he⟩ := hr
        exact .failed hrun he (by simp [begun])
      · rw [settle_of_kept fun e he => Bool.eq_false_iff.2 fun he' => hr ⟨e, he, he'⟩] at hrest
        exact absurd hrest (hdrop _)
    | late => exact .late (by simp [begun])
    | gone => exact .gone (by simp [begun])

/-- Getting a connector for this machine is nothing. -/
theorem get_of_isLocalHost (pool : ConnectorPool) (hlocal : isLocalHost host = true) :
    pool.get host = done (.ok (.here pool.here)) :=
  if_pos hlocal

theorem get_of_not_isLocalHost (pool : ConnectorPool) (hlocal : isLocalHost host = false) :
    pool.get host = (pool.remote host).andThen fun c => done (.ok (.remote c)) :=
  if_neg (Bool.eq_false_iff.1 hlocal)

theorem exists_connectFailed_of_get {y : Action PoolState (Except ConnectorError Connector)}
    (hafter : After (pool.get host) (t ++ [.changed s s']) y) (hk : s.kept.get? h = some k)
    (hlost : s'.kept.get? h = none) :
    host = h ∧ ∃ c, c.number = k.number ∧ ConnectFailed pool host c t := by
  cases hlocal : isLocalHost host with
  | true =>
    rw [get_of_isLocalHost pool hlocal] at hafter
    exact absurd hafter not_after_done_snoc
  | false =>
    rw [get_of_not_isLocalHost pool hlocal] at hafter
    obtain ⟨z, hz⟩ | ⟨t₁, t₂, r, -, -, hrest⟩ := after_bind_snoc hafter
    · exact exists_connectFailed hz hk hlost
    · cases r <;> exact absurd hrest not_after_done_snoc

/-- **No host loses its connector for another reason** than a client has. -/
theorem Client.exists_givesUp {client : Client} {y : Action PoolState Unit}
    (hafter : After (client.action pool) (t ++ [.changed s s']) y)
    (hk : s.kept.get? h = some k) (hlost : s'.kept.get? h = none) :
    ∃ c, c.number = k.number ∧ client.GivesUp pool h c t := by
  cases client with
  | get host =>
    obtain ⟨z, hz⟩ | ⟨t₁, t₂, r, -, -, hrest⟩ := after_bind_snoc hafter
    · obtain ⟨hhost, c, hnumber, hfailed⟩ := exists_connectFailed_of_get hz hk hlost
      exact ⟨c, hnumber, hhost, hfailed⟩
    · exact absurd hrest not_after_done_snoc
  | call secs host operation =>
    obtain ⟨z, hz⟩ | ⟨t₁, t₂, r, -, -, hrest⟩ := after_bind_snoc hafter
    · obtain ⟨z, hz⟩ | ⟨t₁, t₂, r, rfl, hget, hrest⟩ := after_bind_snoc hz
      · obtain ⟨hhost, c, hnumber, hfailed⟩ := exists_connectFailed_of_get hz hk hlost
        exact ⟨c, hnumber, hhost, .inl hfailed⟩
      · cases r with
        | error e => exact absurd hrest not_after_done_snoc
        | ok c =>
          obtain ⟨remote, rfl, hhost, hnumber, hlost⟩ := exists_lost hrest hk hlost
          exact ⟨remote, hnumber, hhost, .inr ⟨t₁, t₂, hget, hlost, rfl⟩⟩
    · exact absurd hrest not_after_done_snoc
  | invalidate host =>
    obtain rfl : s' = (s.forget host).2 := (invalidate_obeys host).of_after_snoc hafter
    refine ⟨k, rfl, ?_⟩
    by_contra hne
    have hkept : (s.forget host).2.kept.get? h = some k :=
      PoolState.get?_kept_forget_iff.2 ⟨hk, fun hsame => hne hsame.symm⟩
    exact nomatch hkept.symm.trans hlost

/-! ## Lookups -/

/-- **A connector that a lookup hands out is kept** then. -/
theorem exists_kept_of_run_lookup {c : RemoteConnector} (hrun : Run (pool.lookup host) t (.ok c)) :
    ∃ s s', Deed.changed s s' ∈ t ∧ s'.kept.get? host = some c := by
  obtain ⟨t, rfl, hbody⟩ := run_withLock_iff.1 hrun
  obtain ⟨t₁, t₂, taken, rfl, htake, hrest⟩ := run_bind_iff.1 hbody
  obtain ⟨s, rfl, rfl⟩ := run_change_iff.1 htake
  rw [PoolState.fst_take] at hrest
  cases hkept : s.kept.get? host with
  | some k =>
    rw [hkept] at hrest
    obtain ⟨-, hc⟩ := run_done_iff.1 hrest
    obtain rfl := Except.ok.inj hc
    refine ⟨s, (s.take host).2, by simp, ?_⟩
    rw [(s.quiet_take host).kept, hkept]
  | none =>
    rw [hkept] at hrest
    obtain ⟨t₃, t₄, entry, rfl, -, hrest⟩ := run_bind_iff.1 hrest
    cases entry with
    | none => exact nomatch (run_done_iff.1 hrest).2
    | some entry =>
      obtain ⟨t₅, t₆, _, rfl, -, hrest⟩ := run_bind_iff.1 hrest
      obtain ⟨t₇, t₈, k, rfl, hcreate, hrest⟩ := run_bind_iff.1 hrest
      obtain ⟨s₁, rfl, rfl⟩ := run_change_iff.1 hcreate
      obtain ⟨-, hc⟩ := run_done_iff.1 hrest
      obtain rfl := Except.ok.inj hc
      refine ⟨s₁, (s₁.create host (pool.connectorFor entry)).2, by simp, ?_⟩
      rw [PoolState.get?_kept_create, if_pos rfl]
      rfl

/-- A lookup fails only for a host that is not registered. -/
theorem eq_unknownHost_of_run_lookup {e : ConnectorError}
    (hrun : Run (pool.lookup host) t (.error e)) : e = .unknownHost host := by
  obtain ⟨t, rfl, hbody⟩ := run_withLock_iff.1 hrun
  obtain ⟨t₁, t₂, taken, rfl, -, hrest⟩ := run_bind_iff.1 hbody
  cases taken with
  | some k => exact nomatch (run_done_iff.1 hrest).2
  | none =>
    obtain ⟨t₃, t₄, entry, rfl, -, hrest⟩ := run_bind_iff.1 hrest
    cases entry with
    | none => exact Except.error.inj (run_done_iff.1 hrest).2
    | some entry =>
      obtain ⟨t₅, t₆, _, rfl, -, hrest⟩ := run_bind_iff.1 hrest
      obtain ⟨t₇, t₈, k, rfl, -, hrest⟩ := run_bind_iff.1 hrest
      exact nomatch (run_done_iff.1 hrest).2

/-! ## Calls that lose their connection -/

theorem exists_evict_of_run_evict {c : RemoteConnector} (hrun : Run (evict host c) t ()) :
    ∃ s, Deed.changed s (s.evict host c).2 ∈ t := by
  obtain ⟨t, rfl, hbody⟩ := run_withLock_iff.1 hrun
  obtain ⟨t₁, t₂, _, rfl, hevict, -⟩ := run_bind_iff.1 hbody
  obtain ⟨s, rfl, -⟩ := run_change_iff.1 hevict
  exact ⟨s, by simp⟩

/-- **A caller that got a connector for a remote host** has looked it up and connected it. -/
theorem exists_run_of_run_get_ok {c : Connector} (hlocal : isLocalHost host = false)
    (hrun : Run (pool.get host) t (.ok c)) :
    ∃ remote t₁ t₂, c = .remote remote ∧ t = t₁ ++ t₂ ∧ Run (pool.lookup host) t₁ (.ok remote) ∧
      Run (remote.connect.inside (PoolState.wire remote.number)) t₂ (.ok ()) := by
  rw [get_of_not_isLocalHost pool hlocal] at hrun
  obtain ⟨e, -, he⟩ | ⟨t₁, t₂, remote, rfl, hremote, hdone⟩ := run_andThen_iff.1 hrun
  · exact nomatch he
  obtain ⟨rfl, hc⟩ := run_done_iff.1 hdone
  obtain rfl := Except.ok.inj hc
  obtain ⟨e, -, he⟩ | ⟨t₁, t₂, k, rfl, hlookup, hrest⟩ := run_andThen_iff.1 hremote
  · exact nomatch he
  obtain ⟨t₃, t₄, result, rfl, hconnect, hrest⟩ := run_bind_iff.1 hrest
  cases result with
  | ok _ =>
    obtain ⟨rfl, hk⟩ := run_done_iff.1 hrest
    obtain rfl := Except.ok.inj hk
    exact ⟨remote, t₁, t₃, rfl, by simp, hlookup, hconnect⟩
  | error e =>
    obtain ⟨t₅, t₆, _, -, -, hrest⟩ := run_bind_iff.1 hrest
    obtain ⟨t₇, t₈, _, -, -, hrest⟩ := run_bind_iff.1 hrest
    exact nomatch (run_done_iff.1 hrest).2

/-- **What getting a connector for a remote host comes to.** -/
theorem exists_lookup_of_run_get {r : Except ConnectorError Connector}
    (hlocal : isLocalHost host = false) (hrun : Run (pool.get host) t r) :
    (∃ e, r = .error e ∧ e.isConnection = false) ∨
      ∃ c t₁ t₂, t = t₁ ++ t₂ ∧ Run (pool.lookup host) t₁ (.ok c) ∧
        (r = .ok (.remote c) ∨ ∃ s, Deed.changed s (s.evict host c).2 ∈ t₂) := by
  cases r with
  | ok c =>
    obtain ⟨remote, t₁, t₂, rfl, rfl, hlookup, -⟩ := exists_run_of_run_get_ok hlocal hrun
    exact .inr ⟨remote, t₁, t₂, rfl, hlookup, .inl rfl⟩
  | error e =>
    rw [get_of_not_isLocalHost pool hlocal] at hrun
    obtain ⟨e', hremote, he⟩ | ⟨t₁, t₂, c, -, -, hdone⟩ := run_andThen_iff.1 hrun
    · obtain rfl := Except.error.inj he
      obtain ⟨e', hlookup, he⟩ | ⟨t₁, t₂, c, rfl, hlookup, hrest⟩ := run_andThen_iff.1 hremote
      · obtain rfl := Except.error.inj he
        exact .inl ⟨e, rfl, eq_unknownHost_of_run_lookup hlookup ▸ rfl⟩
      · obtain ⟨t₃, t₄, result, rfl, -, hrest⟩ := run_bind_iff.1 hrest
        cases result with
        | ok _ => exact nomatch (run_done_iff.1 hrest).2
        | error e' =>
          obtain ⟨t₅, t₆, _, rfl, hevict, -⟩ := run_bind_iff.1 hrest
          obtain ⟨s, hs⟩ := exists_evict_of_run_evict hevict
          exact .inr ⟨c, t₁, _, rfl, hlookup, .inr ⟨s, by simp [hs]⟩⟩
    · exact nomatch (run_done_iff.1 hdone).2

/-- A caller that got a connector has looked it up. -/
theorem exists_lookup_of_run_get_ok {c : RemoteConnector}
    (hrun : Run (pool.get host) t (.ok (.remote c))) :
    ∃ t₁ t₂, t = t₁ ++ t₂ ∧ Run (pool.lookup host) t₁ (.ok c) := by
  cases hlocal : isLocalHost host with
  | true =>
    rw [get_of_isLocalHost pool hlocal] at hrun
    exact nomatch (run_done_iff.1 hrun).2
  | false =>
    obtain ⟨remote, t₁, t₂, hc, rfl, hlookup, -⟩ := exists_run_of_run_get_ok hlocal hrun
    obtain rfl := Connector.remote.inj hc
    exact ⟨t₁, t₂, rfl, hlookup⟩

/-- **A client that gives a connector up** and does not invalidate its host has looked it up. -/
theorem Client.GivesUp.exists_lookup {client : Client} {c : RemoteConnector}
    (hgivesUp : client.GivesUp pool h c t) :
    client = .invalidate h ∨ ∃ t₁ t₂, t = t₁ ++ t₂ ∧ Run (pool.lookup h) t₁ (.ok c) := by
  have hconnect : ∀ {host}, ConnectFailed pool host c t →
      ∃ t₁ t₂, t = t₁ ++ t₂ ∧ Run (pool.lookup host) t₁ (.ok c) := by
    rintro host ⟨t₁, t₂, e, hlookup, -, t₃, rfl⟩
    exact ⟨t₁, t₂ ++ t₃, List.append_assoc .., hlookup⟩
  cases client with
  | get host =>
    obtain ⟨rfl, hfailed⟩ := hgivesUp
    exact .inr (hconnect hfailed)
  | call secs host operation =>
    obtain ⟨rfl, hfailed | ⟨t₁, t₂, hget, -, rfl⟩⟩ := hgivesUp
    · exact .inr (hconnect hfailed)
    · obtain ⟨t₁, t₃, rfl, hlookup⟩ := exists_lookup_of_run_get_ok hget
      exact .inr ⟨t₁, t₃ ++ t₂, List.append_assoc .., hlookup⟩
  | invalidate host =>
    obtain rfl : host = h := hgivesUp
    exact .inl rfl

/-- An operation that ends with an error of the connection has evicted its connector. -/
theorem exists_evict_of_run_runOn {c : RemoteConnector} {operation : Operation α}
    {e : ConnectorError} (he : e.isConnection = true)
    (hrun : Run (runOn host secs (.remote c) operation.on) t (.error e)) :
    ∃ s, Deed.changed s (s.evict host c).2 ∈ t := by
  -- an error before the operation is begun is none of the connection
  have hdrop : ∀ {e' : ConnectorError} {t' : List (Deed PoolState)}, e'.isConnection = false →
      ¬ Run (drop (.remote c) >>= fun _ => done (.error e' : Except ConnectorError α)) t'
        (.error e) := fun he' hrun => by
    obtain ⟨t₁, t₂, _, -, -, hdone⟩ := run_bind_iff.1 hrun
    obtain rfl := Except.error.inj (run_done_iff.1 hdone).2
    exact nomatch he.symm.trans he'
  have hdiscard : ∀ {t' : List (Deed PoolState)} {r : Except ConnectorError α},
      Run (discard host (.remote c) >>= fun _ => drop (.remote c) >>= fun _ => done r) t'
        (.error e) → ∃ s, Deed.changed s (s.evict host c).2 ∈ t' := fun hrun => by
    obtain ⟨t₁, t₂, _, rfl, hevict, -⟩ := run_bind_iff.1 hrun
    obtain ⟨s, hs⟩ := exists_evict_of_run_evict hevict
    exact ⟨s, List.mem_append_left _ hs⟩
  rw [runOn] at hrun
  split at hrun
  · exact absurd hrun (hdrop rfl)
  obtain ⟨t₁, t₂, started, rfl, -, hrun⟩ := run_bind_iff.1 hrun
  cases started with
  | error fault => exact absurd hrun (hdrop rfl)
  | ok _ =>
    obtain ⟨t₃, t₄, fate, rfl, -, hrun⟩ := run_bind_iff.1 hrun
    cases fate with
    | inTime =>
      obtain ⟨t₅, t₆, r, rfl, -, hrun⟩ := run_bind_iff.1 hrun
      by_cases hr : ∃ e, r = .error e ∧ e.isConnection = true
      · obtain ⟨e', rfl, he'⟩ := hr
        rw [settle_of_lost he'] at hrun
        obtain ⟨s, hs⟩ := hdiscard hrun
        exact ⟨s, by simp [hs]⟩
      · -- the result of the operation is the result of the call
        rw [settle_of_kept fun e he => Bool.eq_false_iff.2 fun he' => hr ⟨e, he, he'⟩] at hrun
        obtain ⟨t₇, t₈, _, -, -, hdone⟩ := run_bind_iff.1 hrun
        exact absurd ⟨e, (run_done_iff.1 hdone).2.symm, he⟩ hr
    | late =>
      obtain ⟨t₅, t₆, _, rfl, -, hrun⟩ := run_bind_iff.1 hrun
      obtain ⟨t₇, rfl, hnext⟩ := run_fork_iff.1 hrun
      obtain ⟨t₈, t₉, _, rfl, -, habandon⟩ := run_bind_iff.1 hnext
      obtain ⟨s, hs⟩ := hdiscard habandon
      exact ⟨s, by simp [hs]⟩
    | gone =>
      obtain ⟨s, hs⟩ := hdiscard hrun
      exact ⟨s, by simp [hs]⟩

/-- **A call that ends with an error of the connection has evicted the connector** that it has
looked up. -/
theorem exists_evict_of_run_callWithin {operation : Operation α} {e : ConnectorError}
    (hlocal : isLocalHost host = false) (he : e.isConnection = true)
    (hrun : Run (pool.callWithin secs host operation.on) t (.error e)) :
    ∃ c t₁ t₂ s, t = t₁ ++ t₂ ∧ Run (pool.lookup host) t₁ (.ok c) ∧
      Deed.changed s (s.evict host c).2 ∈ t₂ := by
  obtain ⟨e', hget, he'⟩ | ⟨t₁, t₂, c, rfl, hget, hrest⟩ := run_andThen_iff.1 hrun
  · obtain rfl := Except.error.inj he'
    obtain ⟨e', he', hfalse⟩ | ⟨c, t₁, t₂, rfl, hlookup, hevict⟩ :=
      exists_lookup_of_run_get hlocal hget
    · obtain rfl := Except.error.inj he'
      exact nomatch he.symm.trans hfalse
    · obtain hok | ⟨s, hs⟩ := hevict
      · exact nomatch hok
      · exact ⟨c, t₁, t₂, s, rfl, hlookup, hs⟩
  · obtain ⟨e', he', -⟩ | ⟨k, t₃, t₄, rfl, hlookup, hevict⟩ := exists_lookup_of_run_get hlocal hget
    · exact nomatch he'
    · obtain hok | ⟨s, hs⟩ := hevict
      · obtain rfl := Except.ok.inj hok
        obtain ⟨s, hs⟩ := exists_evict_of_run_runOn he hrest
        exact ⟨k, t₃, t₄ ++ t₂, s, List.append_assoc .., hlookup, List.mem_append_right _ hs⟩
      · exact ⟨k, t₃, t₄ ++ t₂, s, List.append_assoc .., hlookup, List.mem_append_left _ hs⟩

/-! ## Calls that keep their connection -/

/-- Getting a connector gives up none. -/
theorem retains_of_run_get {c : Connector} (hget : Run (pool.get host) t (.ok c))
    (hmem : Deed.changed s s' ∈ t) : s.Retains s' := by
  cases hlocal : isLocalHost host with
  | true =>
    rw [get_of_isLocalHost pool hlocal] at hget
    obtain ⟨rfl, -⟩ := run_done_iff.1 hget
    exact absurd hmem List.not_mem_nil
  | false =>
    obtain ⟨remote, t₁, t₂, -, rfl, hlookup, hconnect⟩ := exists_run_of_run_get_ok hlocal hget
    obtain hmem | hmem := List.mem_append.1 hmem
    · exact ((pool.lookup_retains host).of_after hlookup).1 _ hmem
    · exact PoolState.Quiet.retains (((connect_obeys remote).of_after hconnect).1 _ hmem)

/-- What follows an operation that did not lose its connection changes only what it holds. -/
theorem quiet_of_begun {c : Connector} {operation : Operation α} {r : Except ConnectorError α}
    {t₁ t₂ : List (Deed PoolState)} {y : Action PoolState (Except ConnectorError α)}
    (hr : ∀ e, r = .error e → e.isConnection = false) (hrun : Run (operation.on c) t₁ r)
    (hafter : After (runOn host secs c operation.on) (begun secs c .inTime ++ t₁ ++ t₂) y)
    (hmem : Deed.changed s s' ∈ begun secs c .inTime ++ t₁ ++ t₂) :
    PoolState.Quiet (fun _ => True) s s' := by
  have hdrop : (drop c >>= fun _ => done r).Obeys (fun _ => True)
      (PoolState.Quiet fun _ => True) :=
    ((drop_obeys c).mono (fun _ _ => trivial) fun _ _ hs => hs.mono fun _ _ => trivial).bind
      fun _ => trivial
  have hoperation : (operation.on c).Obeys (fun _ => True) (PoolState.Quiet fun _ => True) :=
    (operation.obeys c).mono (fun _ hr => hr) fun _ _ hs => hs.quiet.mono fun _ _ => trivial
  have hsettle : After (settle host c r) t₂ y := by
    rw [runOn] at hafter
    split at hafter
    · -- no worker was asked for
      cases c with
      | here c => cases hafter
      | remote c => cases hafter
    · rw [List.append_assoc] at hafter
      have hcarried : After (operation.on c >>= settle host c) (t₁ ++ t₂) y :=
        After.of_append (t := begun secs c .inTime) (.ask _ (.ask _ (.start _))) hafter
      exact (After.bind hrun (settle host c)).of_append hcarried
  rw [settle_of_kept hr] at hsettle
  simp only [begun, List.cons_append, List.nil_append, List.mem_cons, List.mem_append,
    reduceCtorEq, false_or] at hmem
  obtain hmem | hmem := hmem
  · exact (hoperation.of_after hrun).1 _ hmem
  · exact (hdrop.of_after hsettle).1 _ hmem

/-- **An operation that did not lose its connection evicts nothing.** -/
theorem retains_of_begun {c : Connector} {operation : Operation α} {r : Except ConnectorError α}
    {t₁ t₂ t₃ : List (Deed PoolState)} {y : Action PoolState Unit}
    (hr : ∀ e, r = .error e → e.isConnection = false) (hget : Run (pool.get host) t₁ (.ok c))
    (hrun : Run (operation.on c) t₂ r)
    (hafter : After ((Client.call secs host operation).action pool)
      (t₁ ++ (begun secs c .inTime ++ t₂ ++ t₃)) y)
    (hmem : Deed.changed s s' ∈ t₁ ++ (begun secs c .inTime ++ t₂ ++ t₃)) : s.Retains s' := by
  obtain hmem | hmem := List.mem_append.1 hmem
  · exact retains_of_run_get hget hmem
  have hrest : After (runOn host secs c operation.on >>= fun _ => done ())
      (begun secs c .inTime ++ t₂ ++ t₃) y :=
    After.of_append ((After.bind hget _).bind fun _ => done ()) hafter
  obtain ⟨z, hz, -⟩ | ⟨t, t', a, heq, hz, hdone⟩ := after_bind_iff.1 hrest
  · exact (quiet_of_begun hr hrun hz hmem).retains
  · obtain rfl : t' = [] := by
      cases hdone
      rfl
    rw [List.append_nil] at heq
    exact (quiet_of_begun hr hrun (heq ▸ hz) hmem).retains

/-- A client that gets the connector for this machine, or calls an operation here. -/
def Client.IsLocal : Client → Prop
  | get host | call _ host _ => isLocalHost host = true
  | invalidate _ => False

/-- **Nothing is kept or given up for this machine.** -/
theorem Client.IsLocal.obeys {client : Client} (hlocal : client.IsLocal) :
    (client.action pool).Obeys (fun _ => True) (PoolState.Quiet fun _ => True) := by
  cases client with
  | get host =>
    change (pool.get host >>= fun _ => done ()).Obeys _ _
    rw [get_of_isLocalHost pool hlocal]
    trivial
  | call secs host operation =>
    change (pool.callWithin secs host operation.on >>= fun _ => done ()).Obeys _ _
    rw [callWithin, get_of_isLocalHost pool hlocal]
    refine Obeys.bind ((runOn_obeys host secs (.here pool.here) operation).mono (fun _ hr => hr)
      fun s s' hs => ?_) fun _ => trivial
    obtain ⟨remote, hremote, -⟩ | hs := hs
    · exact nomatch hremote
    · exact hs
  | invalidate host => exact hlocal.elim

/-! ## Operations that have a result -/

variable {c : Connector}

theorem eq_of_run_settle {result result' : Except ConnectorError α}
    (hrun : Run (settle host c result) t result') : result' = result := by
  have hdrop : ∀ {t : List (Deed PoolState)},
      Run (drop c >>= fun _ => done result) t result' → result' = result := fun h => by
    obtain ⟨_, _, _, -, -, hdone⟩ := run_bind_iff.1 h
    exact (run_done_iff.1 hdone).2
  by_cases hlost : ∃ e, result = .error e ∧ e.isConnection = true
  · obtain ⟨e, rfl, he⟩ := hlost
    rw [settle_of_lost he] at hrun
    obtain ⟨_, _, _, -, -, hrest⟩ := run_bind_iff.1 hrun
    exact hdrop hrest
  · rw [settle_of_kept fun e he => Bool.eq_false_iff.2 fun he' => hlost ⟨e, he, he'⟩] at hrun
    exact hdrop hrun

/-- **An operation that has a result was carried out** on a worker, in time. -/
theorem exists_of_run_runOn_ok {operation : Connector → Action PoolState (Except ConnectorError α)}
    {a : α} (hrun : Run (runOn host secs c operation) t (.ok a)) :
    ∃ t₁ t₂, t = begun secs c .inTime ++ (t₁ ++ t₂) ∧ Run (operation c) t₁ (.ok a) := by
  have hdrop : ∀ {t : List (Deed PoolState)} {e : ConnectorError},
      ¬ Run (drop c >>= fun _ => done (.error e : Except ConnectorError α)) t (.ok a) := fun h => by
    obtain ⟨_, _, _, -, -, hdone⟩ := run_bind_iff.1 h
    cases (run_done_iff.1 hdone).2
  rw [runOn] at hrun
  split at hrun
  · exact absurd hrun hdrop
  obtain ⟨t₁, t₂, started, rfl, hstart, hstarted⟩ := run_bind_iff.1 hrun
  obtain rfl := run_request_iff.1 hstart
  cases started with
  | error fault => exact absurd hstarted hdrop
  | ok _ =>
    obtain ⟨t₃, t₄, fate, rfl, hawait, hfate⟩ := run_bind_iff.1 hstarted
    obtain rfl := run_request_iff.1 hawait
    cases fate with
    | inTime =>
      obtain ⟨t₅, t₆, result, rfl, hoperation, hsettle⟩ := run_bind_iff.1 hfate
      obtain rfl := eq_of_run_settle hsettle
      exact ⟨t₅, t₆, rfl, hoperation⟩
    | late =>
      obtain ⟨_, _, _, -, -, hrest⟩ := run_bind_iff.1 hfate
      obtain ⟨_, -, hrest⟩ := run_fork_iff.1 hrest
      obtain ⟨_, _, _, -, -, hrest⟩ := run_bind_iff.1 hrest
      obtain ⟨_, _, _, -, -, hrest⟩ := run_bind_iff.1 hrest
      exact absurd hrest hdrop
    | gone =>
      obtain ⟨_, _, _, -, -, hrest⟩ := run_bind_iff.1 hfate
      exact absurd hrest hdrop

/-- **An operation that is begun in time is carried out**, and its result is that of the call. -/
theorem exists_of_begun {operation : Connector → Action PoolState (Except ConnectorError α)}
    {r : Except ConnectorError α} {u v : List (Deed PoolState)}
    (hrun : Run (runOn host secs c operation) t r) (heq : t ++ u = begun secs c .inTime ++ v) :
    ∃ t₁ t₂, t₁ ++ t₂ = v ∧ Run (operation c) t₁ r := by
  rw [runOn] at hrun
  split at hrun
  · -- no worker was asked for
    rename_i hnul
    cases c with
    | here c =>
      have hname : workerName (.here c) = workerName (.here default) := rfl
      rw [hname] at hnul
      exact absurd hnul (by decide)
    | remote c =>
      obtain ⟨t₁, t₂, _, rfl, hdrop, -⟩ := run_bind_iff.1 hrun
      obtain ⟨t₁, t₃, _, rfl, hrelease, -⟩ := run_bind_iff.1 hdrop
      obtain ⟨s, rfl, -⟩ := run_change_iff.1 hrelease
      cases heq
  obtain ⟨t₁, t₂, started, rfl, hstart, hstarted⟩ := run_bind_iff.1 hrun
  obtain rfl := run_request_iff.1 hstart
  cases started with
  | error fault => simp [begun] at heq
  | ok _ =>
    obtain ⟨t₃, t₄, fate, rfl, hawait, hfate⟩ := run_bind_iff.1 hstarted
    obtain rfl := run_request_iff.1 hawait
    cases fate with
    | inTime =>
      obtain ⟨t₁, t₂, result, rfl, hoperation, hsettle⟩ := run_bind_iff.1 hfate
      obtain rfl := eq_of_run_settle hsettle
      exact ⟨t₁, t₂ ++ u, by simpa [begun] using heq, hoperation⟩
    | late | gone => simp [begun] at heq

end ConnectorPool

end NetUnits
