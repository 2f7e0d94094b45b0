import NetUnits.Connector.Pool
import NetUnits.Proofs.Action.Orderly
import NetUnits.Proofs.Connector.State
import NetUnits.Proofs.Shell.Session

/-! # Clients of a pool

Any number of threads use a pool at the same time: they get connectors, call operations on hosts and
invalidate hosts. An operation that takes too long goes on as a thread of its own.

* **`Operation`** — an operation on a connector, which changes only what the connector holds;
  **`Operation.either`** — what connectors do on their hosts is one.
* **`Request.AllowsEnd`**, **`Request.AllowsWorkers`** — rules that allow what ends connectors, and
  workers; **`ConnectorPool.runOn_obeys_of`** — an operation on a connector in use obeys them.
* **`ConnectorPool.Client`** — what a thread does with a pool.
* **`ConnectorPool.Client.obeys`** — all changes of clients are changes of connectors. -/

namespace NetUnits

open NetUnits.Action

/-! ## Operations -/

namespace Connector

/-- A connector is the one with a number, which only those of remote hosts have. -/
def Has : Connector → Nat → Prop
  | here _, _ => False
  | remote c, n => n = c.number

/-- **What an operation on a connector may change**: what the connector holds. -/
def Changes : Connector → PoolState → PoolState → Prop
  | here _, s, s' => s' = s
  | remote c, s, s' => ∃ w, s' = (PoolState.wire c.number).set w s

theorem Changes.quiet {c : Connector} {s s' : PoolState} (h : c.Changes s s') :
    PoolState.Quiet c.Has s s' := by
  cases c with
  | here c =>
    obtain rfl : s' = s := h
    exact .refl _
  | remote c =>
    obtain ⟨w, rfl⟩ := h
    exact PoolState.quiet_wire s c.number w

/-- What a connector does on what it holds changes nothing else. -/
theorem either_obeys {α : Type} (c : Connector) {onHere : LocalConnector → Action PoolState α}
    {p : Request → Prop} (hhere : ∀ c, (onHere c).Obeys p fun s s' => s' = s)
    (onRemote : RemoteConnector → Action Wire α) :
    (c.either onHere onRemote).Obeys (fun _ => True) c.Changes := by
  cases c with
  | here c => exact (hhere c).mono (fun _ _ => trivial) fun _ _ h => h
  | remote c => exact (obeys_true (onRemote c)).inside _ fun s w _ => ⟨w, rfl⟩

end Connector

/-- **An operation on a connector.** It may do anything on the connector that it is given, but it
does not know the pool. -/
structure Operation (α : Type) where
  /-- What is done. -/
  on : Connector → Action PoolState (Except ConnectorError α)
  /-- Only what the connector holds is changed. -/
  obeys : ∀ c, (on c).Obeys (fun _ => True) c.Changes

variable {α : Type}

/-- An operation on either kind of host. -/
def Operation.either (onHere : LocalConnector → Action PoolState (Except ConnectorError α))
    (hhere : ∀ c, (onHere c).Obeys (fun _ => True) fun s s' => s' = s)
    (onRemote : RemoteConnector → Action Wire (Except ConnectorError α)) : Operation α where
  on := fun c => c.either onHere onRemote
  obeys := fun c => c.either_obeys hhere onRemote

theorem LocalConnector.runCommand_obeys {σ : Type} {p : Request → Prop} {q : σ → σ → Prop}
    (hevent : ∀ e, p (.event e)) {argv : List String}
    (hrun : ∀ program args, program :: args = argv → p (.run program args none)) :
    (runCommand argv : Action σ _).Obeys p q := by
  cases argv with
  | nil => trivial
  | cons program args =>
    exact (obeys_request (hevent _)).bind fun _ =>
      (obeys_request (hrun program args rfl)).bind fun _ => trivial

theorem LocalConnector.outputOf_obeys {σ : Type} {p : Request → Prop} {q : σ → σ → Prop}
    (hevent : ∀ e, p (.event e)) (hrun : ∀ program args, p (.run program args none))
    (argv : List String) : (outputOf argv : Action σ _).Obeys p q :=
  (runCommand_obeys hevent fun program args _ => hrun program args).bind fun reply => by
    cases Program.checked (commandLine argv) reply <;> trivial

/-- **All output of a command**, as an operation. -/
def Operation.outputOf (argv : List String) : Operation String :=
  .either (fun _ => LocalConnector.outputOf argv)
    (fun _ => LocalConnector.outputOf_obeys (fun _ => trivial) (fun _ _ => trivial) argv)
    (·.outputOf (commandLine argv))

theorem Operation.outputOf_on (argv : List String) (c : Connector) :
    (Operation.outputOf argv).on c = c.outputOf argv :=
  rfl

/-- What opens, keeps and closes a session uses no lock. -/
theorem Request.allowsConnect_keepsLocks : Request.AllowsConnect Request.KeepsLocks where
  event := fun _ _ => rfl
  isPresent := fun _ _ => rfl
  isAlive := fun _ _ => rfl
  control := fun _ _ _ _ => rfl
  findProgram := fun _ _ => rfl
  makeDirs := fun _ _ => rfl
  processId := fun _ => rfl
  establish := fun _ _ => rfl
  connect := fun _ _ => rfl

/-- **Rules that allow what ends the use of a connector** for a remote host: its session is closed,
and the kept connectors are locked. -/
structure Request.AllowsEnd (p : Request → Prop) : Prop extends Request.AllowsUpkeep p where
  /-- The kept connectors are locked. -/
  acquire : p (.acquire .connectors)
  /-- The lock is given back. -/
  release : p (.release .connectors)

/-- **Rules that allow workers.** -/
structure Request.AllowsWorkers (p : Request → Prop) : Prop where
  /-- The log is told. -/
  event : ∀ e, p (.event e)
  /-- A worker is started. -/
  startWorker : ∀ name, p (.startWorker name)
  /-- Its end is waited for. -/
  awaitWorker : ∀ secs, p (.awaitWorker secs)

theorem Request.allowsEnd_true : Request.AllowsEnd fun _ => True :=
  ⟨⟨fun _ => trivial, fun _ => trivial, fun _ _ _ => trivial, fun _ => trivial⟩, trivial, trivial⟩

theorem Request.allowsWorkers_true : Request.AllowsWorkers fun _ => True :=
  ⟨fun _ => trivial, fun _ => trivial, fun _ => trivial⟩

namespace ConnectorPool

/-! ## What a pool does with connectors -/

section Rules

variable {p : Request → Prop} {q : PoolState → PoolState → Prop}

/-- No session is closed by a change of the state. -/
theorem closeSession_obeys_of (hp : Request.AllowsUpkeep p) (session : Option Session) :
    (closeSession session).Obeys p q := by
  cases session with
  | none => trivial
  | some session => exact session.close_obeys hp

theorem reportEvicted_obeys_of (hevent : ∀ e, p (.event e)) (host : String) (wasKept : Bool) :
    (reportEvicted host wasKept).Obeys p q := by
  rw [reportEvicted]
  split
  · exact obeys_request (hevent _)
  · trivial

theorem release_obeys_of (hp : Request.AllowsUpkeep p) (c : RemoteConnector) :
    (release c).Obeys p (PoolState.Quiet (· = c.number)) :=
  (obeys_change fun s => s.quiet_release c.number).bind fun session =>
    closeSession_obeys_of hp session

theorem drop_obeys_of (c : Connector) (hp : ∀ k, c = .remote k → Request.AllowsUpkeep p) :
    (drop c).Obeys p (PoolState.Quiet c.Has) := by
  cases c with
  | here c => trivial
  | remote c => exact release_obeys_of (hp c rfl) c

end Rules

theorem closeSession_obeys (session : Option Session) {q : PoolState → PoolState → Prop} :
    (closeSession session).Obeys Request.KeepsLocks q :=
  closeSession_obeys_of Request.allowsConnect_keepsLocks.toAllowsUpkeep session

theorem reportEvicted_obeys (host : String) (wasKept : Bool) {q : PoolState → PoolState → Prop} :
    (reportEvicted host wasKept).Obeys Request.KeepsLocks q :=
  reportEvicted_obeys_of (fun _ _ => rfl) host wasKept

theorem release_obeys (c : RemoteConnector) :
    (release c).Obeys Request.KeepsLocks (PoolState.Quiet (· = c.number)) :=
  release_obeys_of Request.allowsConnect_keepsLocks.toAllowsUpkeep c

theorem drop_obeys (c : Connector) :
    (drop c).Obeys Request.KeepsLocks (PoolState.Quiet c.Has) :=
  drop_obeys_of c fun _ _ => Request.allowsConnect_keepsLocks.toAllowsUpkeep

theorem retain_obeys_of {p : Request → Prop} (c : Connector) :
    (retain c).Obeys p (PoolState.Quiet c.Has) := by
  cases c with
  | here c => trivial
  | remote c =>
    exact obeys_change fun s => (s.quiet_withUsers c.number (· + 1)).mono fun _ hn => hn.elim

theorem retain_obeys (c : Connector) :
    (retain c).Obeys Request.KeepsLocks (PoolState.Quiet c.Has) :=
  retain_obeys_of c

theorem finishAlone_obeys (c : Connector) (operation : Operation α) :
    (finishAlone c operation.on).Obeys (fun _ => True) (PoolState.Quiet c.Has) :=
  Obeys.bind ((operation.obeys c).mono (fun _ h => h) fun _ _ h => h.quiet) fun _ =>
    (drop_obeys c).mono (fun _ _ => trivial) fun _ _ h => h

theorem connect_obeys (c : RemoteConnector) :
    (c.connect.inside (PoolState.wire c.number)).Obeys (fun _ => True)
      (PoolState.Quiet (· = c.number)) :=
  (obeys_true _).inside _ fun s w _ => s.quiet_wire c.number w

/-! ## What a pool does with the kept connectors -/

/-- **A lookup** changes users only, or keeps a new connector. -/
theorem lookup_obeys (pool : ConnectorPool) (host : String) :
    (pool.lookup host).Obeys (fun _ => True) fun s s' => PoolState.Quiet (fun _ => False) s s' ∨
      ∃ entry, s' = (s.create host (pool.connectorFor entry)).2 := by
  have hget : ((Registry.get host).inside PoolState.registryPart).Obeys (fun _ => True)
      fun s s' => s' = s := by
    have hlook : (Registry.get host).Obeys (fun _ => True) fun r r' => r' = r :=
      Obeys.withLock trivial trivial fun _ => ⟨rfl, trivial⟩
    refine hlook.inside _ fun s u hu => ?_
    obtain rfl : u = s.registry := hu
    rfl
  refine Obeys.withLock trivial trivial ?_
  refine (obeys_change fun s => .inl (s.quiet_take host)).bind fun taken => ?_
  cases taken with
  | some c => trivial
  | none =>
    refine (hget.mono (fun _ h => h) fun s s' h => .inl (h.symm ▸ .refl s)).bind fun entry => ?_
    cases entry with
    | none => trivial
    | some entry =>
      exact (obeys_request trivial).bind fun _ =>
        (obeys_change fun s => .inr ⟨entry, rfl⟩).bind fun _ => trivial

/-- **What the end of a connector changes**: it is evicted, or only what belongs to connectors
changes. -/
def Ends (host : String) (c : Connector) (s s' : PoolState) : Prop :=
  (∃ remote, c = .remote remote ∧ s' = (s.evict host remote).2) ∨
    PoolState.Quiet (fun _ => True) s s'

theorem Ends.of_quiet {host : String} {c : Connector} {p : Nat → Prop} {s s' : PoolState}
    (h : PoolState.Quiet p s s') : Ends host c s s' :=
  .inr (h.mono fun _ _ => trivial)

theorem Ends.change {host : String} {c : Connector} {s s' : PoolState} (h : Ends host c s s') :
    PoolState.Change s s' := by
  obtain ⟨remote, -, rfl⟩ | h := h
  · exact PoolState.change_evict s host remote
  · exact .quiet h

section Rules

variable {p : Request → Prop}

theorem evict_obeys_of (hp : Request.AllowsEnd p) (host : String) (c : RemoteConnector) :
    (evict host c).Obeys p (Ends host (.remote c)) :=
  Obeys.withLock hp.acquire hp.release <|
    (obeys_change fun _ => .inl ⟨c, rfl, rfl⟩).bind fun wasKept =>
      reportEvicted_obeys_of hp.event host wasKept

variable {c : Connector} (hp : ∀ k, c = .remote k → Request.AllowsEnd p)

include hp

theorem discard_obeys_of (host : String) : (discard host c).Obeys p (Ends host c) := by
  cases c with
  | here c => trivial
  | remote c => exact evict_obeys_of (hp c rfl) host c

theorem drop_ends_of (host : String) : (drop c).Obeys p (Ends host c) :=
  (drop_obeys_of c fun k hk => (hp k hk).toAllowsUpkeep).mono (fun _ h => h) fun _ _ h =>
    .of_quiet h

end Rules

theorem evict_obeys (host : String) (c : RemoteConnector) :
    (evict host c).Obeys (fun _ => True) (Ends host (.remote c)) :=
  evict_obeys_of Request.allowsEnd_true host c

theorem drop_ends (host : String) (c : Connector) :
    (drop c).Obeys (fun _ => True) (Ends host c) :=
  drop_ends_of (fun _ _ => Request.allowsEnd_true) host

/-- An operation that lost its connection is the end of its connector. -/
theorem settle_of_lost {host : String} {c : Connector} {e : ConnectorError}
    (h : e.isConnection = true) :
    settle host c (.error e : Except ConnectorError α) =
      discard host c >>= fun _ => drop c >>= fun _ => done (.error e) :=
  if_pos h

/-- An operation that did not lose its connection only ends the use of its connector. -/
theorem settle_of_kept {host : String} {c : Connector} {result : Except ConnectorError α}
    (h : ∀ e, result = .error e → e.isConnection = false) :
    settle host c result = drop c >>= fun _ => done result := by
  cases result with
  | ok a => rfl
  | error e => exact if_neg (Bool.eq_false_iff.1 (h e rfl))

section Rules

variable {p : Request → Prop} {c : Connector}
  (hp : ∀ k, c = .remote k → Request.AllowsEnd p)

include hp

theorem settle_obeys_of (host : String) (result : Except ConnectorError α) :
    (settle host c result).Obeys p (Ends host c) := by
  have hdrop : (drop c >>= fun _ => done result).Obeys p (Ends host c) :=
    (drop_ends_of hp host).bind fun _ => trivial
  by_cases hlost : ∃ e, result = .error e ∧ e.isConnection = true
  · obtain ⟨e, rfl, he⟩ := hlost
    rw [settle_of_lost he]
    exact (discard_obeys_of hp host).bind fun _ => hdrop
  · rw [settle_of_kept fun e he => Bool.eq_false_iff.2 fun hlost' => hlost ⟨e, he, hlost'⟩]
    exact hdrop

theorem abandon_obeys_of (host : String) (e : ConnectorError) :
    (abandon host c e : Action PoolState (Except ConnectorError α)).Obeys p (Ends host c) :=
  (discard_obeys_of hp host).bind fun _ => (drop_ends_of hp host).bind fun _ => trivial

variable {operation : Connector → Action PoolState (Except ConnectorError α)}
  (hworkers : Request.AllowsWorkers p) (hoperation : (operation c).Obeys p c.Changes)

include hworkers hoperation

theorem expire_obeys_of (host : String) (secs : Nat) :
    (expire host secs c operation).Obeys p (Ends host c) := by
  refine ((retain_obeys_of c).mono (fun _ h => h) fun _ _ h => .of_quiet h).bind fun _ => ?_
  have hlate : (finishAlone c operation).Obeys p (Ends host c) :=
    Obeys.bind (hoperation.mono (fun _ h => h) fun _ _ h => .of_quiet h.quiet) fun _ =>
      drop_ends_of hp host
  exact ⟨hlate, (obeys_request (hworkers.event _)).bind fun _ => abandon_obeys_of hp host _⟩

/-- **An operation on a worker** asks for what it asks for alone, for workers, and for what ends the
use of its connector. -/
theorem runOn_obeys_of (host : String) (secs : Nat) :
    (runOn host secs c operation).Obeys p (Ends host c) := by
  rw [runOn]
  split
  · exact (drop_ends_of hp host).bind fun _ => trivial
  refine (obeys_request (hworkers.startWorker _)).bind fun started => ?_
  cases started with
  | error fault => exact (drop_ends_of hp host).bind fun _ => trivial
  | ok _ =>
    refine (obeys_request (hworkers.awaitWorker _)).bind fun fate => ?_
    cases fate with
    | inTime =>
      exact (hoperation.mono (fun _ h => h) fun _ _ h => .of_quiet h.quiet).bind
        fun result => settle_obeys_of hp host result
    | late => exact expire_obeys_of hp hworkers hoperation host secs
    | gone => exact abandon_obeys_of hp host _

end Rules

theorem runOn_obeys (host : String) (secs : Nat) (c : Connector) (operation : Operation α) :
    (runOn host secs c operation.on).Obeys (fun _ => True) (Ends host c) :=
  runOn_obeys_of (fun _ _ => Request.allowsEnd_true) Request.allowsWorkers_true (operation.obeys c)
    host secs

theorem invalidate_obeys (host : String) :
    (invalidate host).Obeys (fun _ => True) fun s s' => s' = (s.forget host).2 := by
  refine (Obeys.withLock trivial trivial ?_).bind fun wasKept =>
    (reportEvicted_obeys host wasKept).mono (fun _ _ => trivial) fun _ _ h => h
  refine Obeys.bind (obeys_change fun _ => rfl) fun session => ?_
  cases session with
  | none => trivial
  | some session =>
    exact ((closeSession_obeys session).mono (fun _ _ => trivial) fun _ _ h => h).bind fun _ =>
      trivial

/-! ## Clients -/

/-- **What a thread does with a pool.** One that does several things in turn is as good as several
threads, of which each waits for the one before it. -/
inductive Client : Type 1 where
  /-- It gets the connector for a host. -/
  | get (host : String)
  /-- It calls an operation on a host, which may take some seconds. -/
  | call {α : Type} (secs : Nat) (host : String) (operation : Operation α)
  /-- It invalidates a host. -/
  | invalidate (host : String)

namespace Client

/-- **The thread of a client.** -/
def action (pool : ConnectorPool) : Client → Action PoolState Unit
  | get host => pool.get host >>= fun _ => done ()
  | call secs host operation => pool.callWithin secs host operation.on >>= fun _ => done ()
  | invalidate host => ConnectorPool.invalidate host

end Client

theorem remote_obeys (pool : ConnectorPool) (host : String) :
    (pool.remote host).Obeys (fun _ => True) PoolState.Change := by
  refine Obeys.andThen ((pool.lookup_obeys host).mono (fun _ h => h) fun s s' h => ?_) fun c => ?_
  · obtain h | ⟨entry, rfl⟩ := h
    · exact .quiet h
    · exact .create host fun n => rfl
  refine ((connect_obeys c).mono (fun _ h => h) fun _ _ h => .quiet h).bind fun result => ?_
  cases result with
  | ok _ => trivial
  | error e =>
    exact ((evict_obeys host c).mono (fun _ h => h) fun _ _ h => h.change).bind fun _ =>
      ((release_obeys c).mono (fun _ _ => trivial) fun _ _ h => .quiet h).bind fun _ => trivial

theorem get_obeys (pool : ConnectorPool) (host : String) :
    (pool.get host).Obeys (fun _ => True) PoolState.Change := by
  rw [get]
  split
  · trivial
  · exact (pool.remote_obeys host).andThen fun _ => trivial

/-- **All changes of clients are changes of connectors.** -/
theorem Client.obeys (pool : ConnectorPool) (client : Client) :
    (client.action pool).Obeys (fun _ => True) PoolState.Change := by
  cases client with
  | get host => exact (pool.get_obeys host).bind fun _ => trivial
  | call secs host operation =>
    refine ((pool.get_obeys host).andThen fun c => ?_).bind fun _ => trivial
    exact (runOn_obeys host secs c operation).mono (fun _ h => h) fun _ _ h => h.change
  | invalidate host =>
    refine (invalidate_obeys host).mono (fun _ h => h) fun s s' h => ?_
    exact h ▸ PoolState.change_forget s host

end ConnectorPool

end NetUnits
