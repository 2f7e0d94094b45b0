import NetUnits.Command.Run
import NetUnits.Host.Entry
import NetUnits.Path

/-!
# Sessions with remote hosts

A **session** carries commands to a remote host. Sessions are opened by the `ssh` client, which
keeps one connection per session behind a socket of its own, or by the surroundings.

* **`SshClient`** — the client; **`SshClient.connect`** opens a session.
* **`Transport`** — the ways to open sessions; **`Transport.connect`**.
* **`Session`** — a session, with `exec`, `isAlive` and `close`.
-/

namespace NetUnits

/-- **The `ssh` client** with its settings. -/
structure SshClient where
  /-- The program. -/
  program : String := "ssh"
  /-- The directory of the sockets. -/
  controlDir : String
  /-- How many seconds a connection may take. -/
  connectTimeout : Nat
deriving DecidableEq, Inhabited

/-- **A session of the client.** -/
structure SshSession where
  /-- The name of the host. -/
  host : String
  /-- The program. -/
  program : String
  /-- User and address. -/
  destination : String
  /-- The socket, which no other session has. -/
  controlPath : String
  /-- The options of every call. -/
  options : List String
deriving DecidableEq, Inhabited

variable {σ : Type}

namespace SshSession

/-- The exit code of the client's own failures. -/
def failureCode : Int := 255

/-- The options of every call of the session, with its socket. -/
def baseArgs (s : SshSession) : List String :=
  s.options ++ ["-o", s!"ControlPath={s.controlPath}"]

/-- The arguments that establish the session. -/
def connectArgs (s : SshSession) : List String :=
  s.baseArgs ++ ["-o", "ControlMaster=yes", "-o", "ControlPersist=yes", "-f", "-N", "--",
    s.destination]

/-- The arguments that run a command. -/
def execArgs (s : SshSession) (command : String) : List String :=
  s.baseArgs ++ ["-o", "ControlMaster=no", "--", s.destination, command]

/-- The arguments that speak to the connection itself. -/
def controlArgs (s : SshSession) (operation : String) : List String :=
  s.baseArgs ++ ["-O", operation, "--", s.destination]

/-- Runs the client; if that is impossible, there is no connection. -/
def call (s : SshSession) (args : List String) (input : Option ByteArray) :
    Action σ (Except ConnectorError CommandResult) := do
  let reply ← match input with
    | some bytes => Program.runWithInput s.program args bytes
    | none => Program.run s.program args
  match reply with
  | .ok result => return .ok result
  | .error e => return .error (.connection s.host e.message)

/-- **Runs a command.** Any exit code but the client's own for failures is the command's. -/
def exec (s : SshSession) (command : String) (input : Option ByteArray) :
    Action σ (Except ConnectorError CommandResult) := do
  Action.event .sessions .debug s!"{s.host}: {command}"
  match ← s.call (s.execArgs command) input with
  | .error e => return .error e
  | .ok result =>
    if result.code = some failureCode then
      return .error (.connection s.host (Text.trim result.stderr))
    else return .ok result

/-- **Whether the connection stands.** -/
def isAlive (s : SshSession) : Action σ Bool := do
  match ← s.call (s.controlArgs "check") none with
  | .ok result => return result.success
  | .error _ => return false

/-- **Closes the connection** behind the socket, if there is one. -/
def close (s : SshSession) : Action σ Unit := do
  if ← Action.request (.isPresent s.controlPath) then
    Action.event .sessions .debug s!"closing control master for {s.host}"
    let _ ← s.call (s.controlArgs "exit") none
    return ()

end SshSession

namespace SshClient

/-- A character that may stand in the name of a socket; others are replaced. -/
def socketChar (c : Char) : Char :=
  if c.isAlphanum || c == '-' then c else '_'

/-- The beginning of the name of a socket for a host. -/
def socketStem (name : String) : String :=
  String.ofList (name.toList.map socketChar)

/-- **The socket of a session**: host, process and a number that no other session has. -/
def controlPath (client : SshClient) (name : String) (process number : Nat) : String :=
  Path.join client.controlDir s!"{socketStem name}-{process}-{number}.sock"

/-- The options of every call for a host. -/
def hostOptions (client : SshClient) (host : HostEntry) : List String :=
  ["-o", "BatchMode=yes", "-o", s!"ConnectTimeout={client.connectTimeout}", "-p",
    toString host.port] ++
    match host.keyFile with
    | some key => ["-i", key]
    | none => []

/-- The session with a host that has a socket. -/
def sessionAt (client : SshClient) (host : HostEntry) (controlPath : String) : SshSession where
  host := host.name
  program := client.program
  destination := host.destination
  controlPath := controlPath
  options := client.hostOptions host

/-- The next number for a session. -/
def nextNumber : Action Nat Nat :=
  Action.change fun n => (n, n + 1)

/-- Establishes a session. One that cannot be established is closed. -/
def establish (s : SshSession) : Action σ (Except ConnectorError SshSession) := do
  Action.event .sessions .info s!"connecting to {s.host} ({s.destination})"
  match ← s.call s.connectArgs none with
  | .error e =>
    -- a client that failed may have left its socket behind
    s.close
    return .error e
  | .ok result =>
    if result.success then return .ok s
    else
      s.close
      return .error (.connection s.host (Text.trim result.combined))

/-- **Opens a session with a host.** The state counts the sessions opened so far. -/
def connect (client : SshClient) (host : HostEntry) :
    Action Nat (Except ConnectorError SshSession) :=
  match host.validate with
  | .error e => return .error (.connection host.name e.message)
  | .ok _ => do
    if ← Action.request (.findProgram client.program) then
      match ← Action.request (.makeDirs client.controlDir) with
      | .error fault =>
        return .error (.connection host.name
          s!"cannot create {client.controlDir}: {fault.message}")
      | .ok _ =>
        let number ← nextNumber
        let process ← Action.request .processId
        establish (client.sessionAt host (client.controlPath host.name process number))
    else return .error (.connection host.name s!"{client.program} not found in PATH")

end SshClient

/-- **The ways to open sessions.** -/
inductive Transport where
  /-- By the `ssh` client. -/
  | ssh (client : SshClient)
  /-- By the surroundings. -/
  | external
deriving DecidableEq, Inhabited

/-- **A session.** -/
inductive Session where
  /-- Opened by the `ssh` client. -/
  | ssh (session : SshSession)
  /-- Opened by the surroundings, which know it by a number. -/
  | external (number : Nat)
deriving DecidableEq, Inhabited

namespace Session

/-- **Runs a command** on the session. -/
def exec (s : Session) (command : String) (input : Option ByteArray) :
    Action σ (Except ConnectorError CommandResult) :=
  match s with
  | ssh session => session.exec command input
  | external number => Action.request (.exec number command input)

/-- **Whether the session can still carry commands.** -/
def isAlive : Session → Action σ Bool
  | ssh session => session.isAlive
  | external number => Action.request (.isAlive number)

/-- **Closes the session.** -/
def close : Session → Action σ Unit
  | ssh session => session.close
  | external _ => return ()

end Session

/-- **Opens a session with a host.** The state counts the sessions opened so far. -/
def Transport.connect (t : Transport) (host : HostEntry) :
    Action Nat (Except ConnectorError Session) :=
  match t with
  | ssh client => do
    match ← client.connect host with
    | .ok session => return .ok (.ssh session)
    | .error e => return .error e
  | external => do
    match ← Action.request (.connect host) with
    | .ok number => return .ok (.external number)
    | .error e => return .error e

end NetUnits
