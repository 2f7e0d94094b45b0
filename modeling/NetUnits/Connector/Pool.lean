import NetUnits.Connector.Basic

/-!
# The pool of connectors

The pool finds the connector for a host. The one for a remote host is made and connected when it
is first needed, and kept until its connection fails, an operation on it takes too long, or the
host is invalidated. Operations run on workers, with a deadline.

* **`ConnectorPool`** — what the pool is made from; its state is a `PoolState`.
* **`ConnectorPool.invalidate`** — keeps no connector for a host.
* **`ConnectorPool.callWithin`** — an operation on a host, with a deadline.
-/

namespace NetUnits

/-- **What a pool is made from.** -/
structure ConnectorPool where
  /-- The connector for this machine. -/
  here : LocalConnector
  /-- How sessions are opened. -/
  transport : Transport
  /-- The settings for remote hosts. -/
  settings : RemoteSettings
deriving DecidableEq, Inhabited

/-- Whether a host identifier means this machine. -/
def isLocalHost (host : String) : Bool :=
  host.isEmpty || host == localName

namespace ConnectorPool

variable {α : Type}

/-- The connector for an entry. -/
def connectorFor (pool : ConnectorPool) (entry : HostEntry) (number : Nat) : RemoteConnector :=
  .ofSettings entry pool.transport pool.settings number

/-- The connector kept for a host, or a new one. Nobody else looks or keeps one meanwhile. -/
def lookup (pool : ConnectorPool) (host : String) :
    Action PoolState (Except ConnectorError RemoteConnector) :=
  .withLock .connectors do
    match ← Action.change (·.take host) with
    | some c => return .ok c
    | none =>
      -- entry and connector are dealt with under one lock: no change of the host comes between
      match ← (Registry.get host).inside PoolState.registryPart with
      | none => return .error (.unknownHost host)
      | some entry =>
        Action.event .pool .debug s!"creating connector for {host}"
        return .ok (← Action.change (·.create host (pool.connectorFor entry)))

/-- Says that no connector is kept any more. -/
def reportEvicted (host : String) (wasKept : Bool) : Action PoolState Unit :=
  if wasKept then Action.event .pool .debug s!"evicted connector for {host}" else return ()

/-- Keeps a connector no longer, unless it was replaced already. -/
def evict (host : String) (c : RemoteConnector) : Action PoolState Unit :=
  .withLock .connectors do reportEvicted host (← Action.change (·.evict host c))

/-- Closes a session, if there is one. -/
def closeSession : Option Session → Action PoolState Unit
  | some session => session.close
  | none => return ()

/-- Ends the use of a connector. -/
def release (c : RemoteConnector) : Action PoolState Unit := do
  closeSession (← Action.change (·.release c.number))

/-- **The connector for a remote host**, connected and in use. One that cannot be connected is not
kept. -/
def remote (pool : ConnectorPool) (host : String) :
    Action PoolState (Except ConnectorError RemoteConnector) :=
  (pool.lookup host).andThen fun c => do
    match ← c.connect.inside (PoolState.wire c.number) with
    | .ok _ => return .ok c
    | .error e =>
      evict host c
      release c
      return .error e

/-- The connector for a host, which is in use until `drop`. -/
def get (pool : ConnectorPool) (host : String) :
    Action PoolState (Except ConnectorError Connector) :=
  if isLocalHost host then return .ok (.here pool.here)
  else (pool.remote host).andThen fun c => return .ok (.remote c)

/-- One more use of a connector. -/
def retain : Connector → Action PoolState Unit
  | .here _ => return ()
  | .remote c => Action.change fun s => ((), s.withUsers c.number (· + 1))

/-- Ends the use of a connector. -/
def drop : Connector → Action PoolState Unit
  | .here _ => return ()
  | .remote c => release c

/-- Keeps a connector no longer, if it is one for a remote host. -/
def discard (host : String) : Connector → Action PoolState Unit
  | .here _ => return ()
  | .remote c => evict host c

/-- **Keeps no connector for a host.** -/
def invalidate (host : String) : Action PoolState Unit := do
  let wasKept ← .withLock .connectors do
    match ← Action.change (·.forget host) with
    | none => return false
    | some session =>
      closeSession session
      return true
  reportEvicted host wasKept

/-! ## Operations -/

/-- The name of the worker for a connector. -/
def workerName (c : Connector) : String :=
  "connector-" ++ c.host

/-- The result of an operation; an error of the connection is the end of the connector. -/
def settle (host : String) (c : Connector) (result : Except ConnectorError α) :
    Action PoolState (Except ConnectorError α) := do
  match result with
  | .ok _ => pure ()
  | .error e => if e.isConnection then discard host c
  drop c
  return result

/-- The end of a connector that did not give a result, with an error. -/
def abandon (host : String) (c : Connector) (e : ConnectorError) :
    Action PoolState (Except ConnectorError α) := do
  discard host c
  drop c
  return .error e

/-- What a worker does that nobody waits for any more. -/
def finishAlone (c : Connector)
    (operation : Connector → Action PoolState (Except ConnectorError α)) :
    Action PoolState Unit := do
  let _ ← operation c
  drop c

/-- The end of a connector whose operation is not done yet. The worker goes on beside, as one more
user. -/
def expire (host : String) (secs : Nat) (c : Connector)
    (operation : Connector → Action PoolState (Except ConnectorError α)) :
    Action PoolState (Except ConnectorError α) := do
  -- the worker still needs the session, so it counts as a user of its own
  retain c
  .fork (finishAlone c operation) do
    Action.event .pool .warn s!"operation on {host} exceeded {secs}s"
    abandon host c (.timeout host secs)

/-- An operation on a connector in use, on a worker of its own. -/
def runOn (host : String) (secs : Nat) (c : Connector)
    (operation : Connector → Action PoolState (Except ConnectorError α)) :
    Action PoolState (Except ConnectorError α) := do
  if (workerName c).toList.contains '\x00' then
    -- no worker can have such a name, and asking for one stops the caller
    drop c
    return .error (.crashed c.host)
  else
    match ← Action.request (.startWorker (workerName c)) with
    | .error fault => do
      drop c
      return .error (.io "worker thread" fault)
    | .ok _ =>
      match ← Action.request (.awaitWorker secs) with
      | .inTime => settle host c (← operation c)
      | .late => expire host secs c operation
      | .gone => abandon host c (.connection host "operation aborted")

/-- **An operation on a host**, which may take some seconds. If the connection fails, or the
operation takes too long or ends without a result, the connector is kept no longer. -/
def callWithin (pool : ConnectorPool) (secs : Nat) (host : String)
    (operation : Connector → Action PoolState (Except ConnectorError α)) :
    Action PoolState (Except ConnectorError α) :=
  (pool.get host).andThen fun c => runOn host secs c operation

/-- **An operation on a host**, with the deadline of the settings. -/
def call (pool : ConnectorPool) (host : String)
    (operation : Connector → Action PoolState (Except ConnectorError α)) :
    Action PoolState (Except ConnectorError α) :=
  pool.callWithin pool.settings.commandTimeout host operation

/-- Keeps no connector for any of some hosts, without a word. -/
def forgetAll : List String → Action PoolState Unit
  | [] => return ()
  | host :: rest => do
    match ← Action.change (·.forget host) with
    | none => pure ()
    | some session => closeSession session
    forgetAll rest

/-- **The end of a pool**: nothing is kept any more. -/
def shutDown : Action PoolState Unit := do
  forgetAll (← Action.look).kept.keys

end ConnectorPool

end NetUnits
