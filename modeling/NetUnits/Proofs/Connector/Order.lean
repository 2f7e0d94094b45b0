import NetUnits.Proofs.Connector.Clients

/-! # The locks of clients

Clients take the lock of the kept connectors before that of the registry, and no other lock while
they hold the one of a session. So they never wait for each other, as long as the operations that
they call do not hold locks in another order.

* **`RemoteConnector.exec_orderly`** — commands on a session.
* **`ConnectorPool.Client.orderly`** — clients, if their operations are in order. -/

namespace NetUnits

open NetUnits.Action

variable {σ α : Type} {held : List Lock}

/-! ## Sessions -/

namespace RemoteConnector

/-- A lock of a session is taken last. -/
theorem withLock_session_orderly {body : Action Wire α} {number : Nat}
    {q : Wire → Wire → Prop} (h : body.Obeys Request.KeepsLocks q) :
    Orderly [] (withLock (.session number) body) [] :=
  Orderly.withLock (fun _ hl => absurd hl List.not_mem_nil) h.orderly

theorem ensureConnected_orderly (c : RemoteConnector) : Orderly [] c.ensureConnected [] := by
  refine withLock_session_orderly (q := fun _ _ => True)
    (Obeys.bind (fun _ => ⟨trivial, trivial⟩) fun w => ?_)
  cases w.session with
  | some => trivial
  | none =>
    have hconnect := c.transport.connect_obeys c.entry (Request.allowsConnect_keepsLocks.opening _)
    refine (hconnect.inside _ fun _ _ _ => trivial).bind fun reply => ?_
    cases reply with
    | error => trivial
    | ok => exact (obeys_change fun _ => trivial).bind fun _ => trivial

theorem connect_orderly (c : RemoteConnector) : Orderly [] c.connect [] :=
  c.ensureConnected_orderly.bind fun reply => by cases reply <;> rfl

theorem afterFailure_orderly (c : RemoteConnector) (session : Session) (e : ConnectorError) :
    Orderly [] (c.afterFailure session e) [] := by
  have hupkeep := Request.allowsConnect_keepsLocks.toAllowsUpkeep
  have hgiveUp : Orderly [] (c.giveUp session) [] :=
    withLock_session_orderly (q := fun _ _ => True) (obeys_change fun _ => trivial)
  unfold afterFailure
  split
  · refine (session.isAlive_obeys (q := fun _ _ => True) hupkeep).orderly.bind fun alive => ?_
    cases alive with
    | true => rfl
    | false =>
      refine orderly_event.bind fun _ => hgiveUp.bind fun wasHeld => ?_
      cases wasHeld with
      | true => exact (session.close_obeys (q := fun _ _ => True) hupkeep).orderly
      | false => rfl
  · rfl

/-- **A command on the session** takes one lock at a time. -/
theorem exec_orderly (c : RemoteConnector) (command : String) (bytes : Option ByteArray) :
    Orderly [] (c.exec command bytes) [] := by
  refine c.ensureConnected_orderly.andThen fun session => ?_
  refine (session.exec_obeys (p := Request.KeepsLocks) (q := fun _ _ => True) command bytes
    (fun _ _ => rfl) (fun _ _ => rfl) fun _ _ => rfl).orderly.bind fun reply => ?_
  cases reply with
  | ok => rfl
  | error e => exact (c.afterFailure_orderly session e).bind fun _ => rfl

end RemoteConnector

theorem Operation.outputOf_orderly (argv : List String) (c : Connector) :
    Orderly [] ((Operation.outputOf argv).on c) [] := by
  rw [Operation.outputOf_on]
  cases c with
  | here c =>
    have hhere : (LocalConnector.outputOf argv : Action PoolState _).Obeys Request.KeepsLocks
        fun _ _ => True := LocalConnector.outputOf_obeys (fun _ _ => rfl) (fun _ _ _ => rfl) argv
    exact hhere.orderly
  | remote c =>
    have hrun : Orderly [] (c.run (commandLine argv) none) [] :=
      (c.exec_orderly _ none).bind fun _ => rfl
    exact Orderly.inside _ (hrun.bind fun reply => by cases reply <;> rfl)

/-! ## Clients -/

namespace ConnectorPool

theorem lookup_orderly (pool : ConnectorPool) (host : String) :
    Orderly [] (pool.lookup host) [] := by
  refine Orderly.withLock (fun _ hl => absurd hl List.not_mem_nil)
    (orderly_change.bind fun taken => ?_)
  cases taken with
  | some => rfl
  | none =>
    -- the lock of the registry comes behind the one that is held
    have hget : Orderly [.connectors] (Registry.get host) [.connectors] :=
      Orderly.withLock (by decide) fun _ => rfl
    refine (hget.inside _).bind fun entry => ?_
    cases entry with
    | none => rfl
    | some entry => exact orderly_event.bind fun _ => orderly_change.bind fun _ => rfl

theorem reportEvicted_orderly (host : String) (wasKept : Bool) :
    Orderly held (reportEvicted host wasKept) held :=
  (reportEvicted_obeys host wasKept (q := fun _ _ => True)).orderly

theorem evict_orderly (host : String) (c : RemoteConnector) : Orderly [] (evict host c) [] :=
  Orderly.withLock (fun _ hl => absurd hl List.not_mem_nil)
    (orderly_change.bind fun wasKept => reportEvicted_orderly host wasKept)

theorem discard_orderly (host : String) (c : Connector) : Orderly [] (discard host c) [] := by
  cases c with
  | here c => rfl
  | remote c => exact evict_orderly host c

theorem drop_orderly (c : Connector) : Orderly [] (drop c) [] :=
  (drop_obeys c).orderly

theorem get_orderly (pool : ConnectorPool) (host : String) : Orderly [] (pool.get host) [] := by
  rw [get]
  split
  · rfl
  have hremote : Orderly [] (pool.remote host) [] := by
    refine (pool.lookup_orderly host).andThen fun c =>
      (c.connect_orderly.inside (PoolState.wire c.number)).bind fun result => ?_
    cases result with
    | ok => rfl
    | error e =>
      exact (evict_orderly host c).bind fun _ => (release_obeys c).orderly.bind fun _ => rfl
  exact hremote.andThen fun _ => rfl

theorem invalidate_orderly (host : String) : Orderly [] (invalidate host) [] := by
  refine (Orderly.withLock (fun _ hl => absurd hl List.not_mem_nil)
    (orderly_change.bind fun session => ?_)).bind fun wasKept => reportEvicted_orderly host wasKept
  cases session with
  | none => rfl
  | some session =>
    exact (closeSession_obeys session (q := fun _ _ => True)).orderly.bind fun _ => rfl

variable {operation : Operation α} {c : Connector}

theorem settle_orderly (host : String) (c : Connector) (result : Except ConnectorError α) :
    Orderly [] (settle host c result) [] := by
  by_cases hlost : ∃ e, result = .error e ∧ e.isConnection = true
  · obtain ⟨e, rfl, he⟩ := hlost
    rw [settle_of_lost he]
    exact (discard_orderly host c).bind fun _ => (drop_orderly c).bind fun _ => rfl
  · rw [settle_of_kept fun e he => Bool.eq_false_iff.2 fun hlost' => hlost ⟨e, he, hlost'⟩]
    exact (drop_orderly c).bind fun _ => rfl

theorem abandon_orderly (host : String) (c : Connector) (e : ConnectorError) :
    Orderly [] (abandon host c e : Action PoolState (Except ConnectorError α)) [] :=
  (discard_orderly host c).bind fun _ => (drop_orderly c).bind fun _ => rfl

theorem runOn_orderly (host : String) (secs : Nat) (h : Orderly [] (operation.on c) []) :
    Orderly [] (runOn host secs c operation.on) [] := by
  rw [runOn]
  split
  · exact (drop_orderly c).bind fun _ => rfl
  refine (orderly_request rfl).bind fun started => ?_
  cases started with
  | error fault => exact (drop_orderly c).bind fun _ => rfl
  | ok _ =>
    refine (orderly_request rfl).bind fun fate => ?_
    cases fate with
    | inTime => exact h.bind fun result => settle_orderly host c result
    | gone => exact abandon_orderly host c _
    | late =>
      -- the operation that goes on beside starts with no locks
      have hlate : Orderly [] (finishAlone c operation.on) [] := h.bind fun _ => drop_orderly c
      exact (retain_obeys c).orderly.bind fun _ =>
        ⟨hlate, orderly_event.bind fun _ => abandon_orderly host c _⟩

/-- The operation of a client takes locks in order. -/
def Client.IsOrderly : Client → Prop
  | call _ _ operation => ∀ c, Orderly [] (operation.on c) []
  | _ => True

/-- **Clients take locks in order** if their operations do. -/
theorem Client.orderly (pool : ConnectorPool) {client : Client} (h : client.IsOrderly) :
    Orderly [] (client.action pool) [] := by
  cases client with
  | get host => exact (pool.get_orderly host).bind fun _ => rfl
  | call secs host operation =>
    exact ((pool.get_orderly host).andThen fun c => runOn_orderly host secs (h c)).bind fun _ => rfl
  | invalidate host => exact invalidate_orderly host

end ConnectorPool

end NetUnits
