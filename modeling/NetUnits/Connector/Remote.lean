import NetUnits.Connector.Command
import NetUnits.Link.Gather
import NetUnits.Settings.Basic
import NetUnits.Shell.Quote
import NetUnits.Shell.Session
import NetUnits.Text.Lines

/-!
# A remote host

Everything is done by commands on a session, which is opened when it is first needed and kept. A
session that breaks is given up, and the next command opens another one.

* **`RemoteConnector`** — the connector for a host; its commands are given by `readCommand`,
  `writeCommand`, `deleteCommand`, `listCommand` and `applyCommand`.
* **`Wire`** — the session it holds.
* **`RemoteConnector.exec`** — a command on the session.
-/

namespace NetUnits

open NetUnits.Text

/-- **The connector for a remote host.** -/
structure RemoteConnector where
  /-- The host. -/
  entry : HostEntry
  /-- How sessions are opened. -/
  transport : Transport
  /-- The directory of configuration files on the host. -/
  configDir : String
  /-- The file of the global configuration on the host. -/
  globalConfig : String
  /-- What is put before commands that need privileges; empty for nothing. -/
  privilege : String
  /-- The number of the connector among all. -/
  number : Nat := 0
deriving DecidableEq, Inhabited

/-- **What a connector holds**: its session, and the count of sessions opened by anybody. -/
structure Wire where
  /-- The session, if one is held. -/
  session : Option Session := none
  /-- How many sessions were opened so far. -/
  opened : Nat := 0
deriving DecidableEq, Inhabited

/-- The part of a wire that counts sessions. -/
def Wire.counter : Action.Part Wire Nat where
  get := fun w => w.opened
  set := fun opened w => { w with opened }

namespace RemoteConnector

/-- The connector for a host, as settings have it. -/
def ofSettings (entry : HostEntry) (transport : Transport) (settings : RemoteSettings)
    (number : Nat) : RemoteConnector where
  entry := entry
  transport := transport
  configDir := settings.configDir
  globalConfig := settings.globalConfig
  privilege := Text.trim settings.privilege
  number := number

/-! ## Commands -/

/-- A command with privileges. -/
def privileged (c : RemoteConnector) (command : String) : String :=
  if c.privilege.isEmpty then command else c.privilege ++ " " ++ command

/-- The path of a configuration file. -/
def pathOf (c : RemoteConnector) (name : String) : String :=
  Path.join c.configDir name

/-- **The command that prints a file.** -/
def readCommand (path : String) : String :=
  "cat -- " ++ Shell.quote path

/-- **The command that writes its input to a file.** -/
def writeCommand (path : String) : String :=
  "tee -- " ++ Shell.quote path ++ " > /dev/null"

/-- **The command that removes a file.** -/
def deleteCommand (path : String) : String :=
  "rm -- " ++ Shell.quote path

/-- **The command that lists a directory**: type and name of each entry on a line. -/
def listCommand (dir : String) : String :=
  "find " ++ Shell.quote dir ++ " -mindepth 1 -maxdepth 1 -printf '%y\\t%f\\n'"

/-- The words of a command, of which all after the first are quoted. -/
def quotedArgs : List String → List String
  | [] => []
  | first :: rest => first :: rest.map Shell.quote

/-- **The command that makes the host use its configuration.** -/
def applyCommand (devices : List String) : String :=
  "networkctl " ++ " ".intercalate (quotedArgs (Connector.applyArgs devices))

/-- The entry of a line of the listing. -/
def entryOf? (line : List Char) : Option DirEntry :=
  (splitOnce '\t' line).map fun (kind, name) => ⟨String.ofList name, kind == ['d']⟩

/-- **The entries of a listing.** -/
def entriesOf (output : String) : List DirEntry :=
  (linesOf output.toList).filterMap entryOf?

/-- What the host says of a file that does not exist. -/
def missingText : List Char := "No such file or directory".toList

/-- **Whether a command failed because a file does not exist.** -/
def saysMissing (result : CommandResult) : Bool :=
  !result.success && occursIn missingText result.combined.toList

/-! ## The session -/

/-- Keeps a session. -/
def keep (session : Session) : Action Wire Unit :=
  Action.change fun w => ((), { w with session := some session })

/-- **The session that is held**, or else a new one. Nobody else opens one at the same time. -/
def ensureConnected (c : RemoteConnector) : Action Wire (Except ConnectorError Session) :=
  .withLock (.session c.number) do
    match (← Action.look).session with
    | some session => return .ok session
    | none =>
      -- the lock is held meanwhile, so that all first commands share one session
      match ← (c.transport.connect c.entry).inside Wire.counter with
      | .error e => return .error e
      | .ok session =>
        keep session
        return .ok session

/-- **Gives a session up**, unless another one is held by now. Says whether it was held. -/
def giveUp (c : RemoteConnector) (session : Session) : Action Wire Bool :=
  .withLock (.session c.number) (Action.change fun w =>
    if w.session = some session then (true, { w with session := none }) else (false, w))

/-- Gives a session up that broke, and closes it. -/
def afterFailure (c : RemoteConnector) (session : Session) (e : ConnectorError) :
    Action Wire Unit := do
  if e.isConnection then
    -- a command can fail on a session that still stands; only a broken one is given up
    if !(← session.isAlive) then
      Action.event .remoteHost .warn s!"lost connection to {c.entry.name}: {e.message}"
      -- the session is closed as soon as it is given up, and not only when the last command on it
      -- has let go of it: it is broken, so no command can go on with it
      if ← c.giveUp session then session.close

/-- **A command on the session**, whatever its exit code. A session that breaks is given up. -/
def exec (c : RemoteConnector) (command : String) (input : Option ByteArray) :
    Action Wire (Except ConnectorError CommandResult) :=
  c.ensureConnected.andThen fun session => do
    match ← session.exec command input with
    | .ok result => return .ok result
    | .error e =>
      c.afterFailure session e
      return .error e

/-- A command that must succeed. -/
def run (c : RemoteConnector) (command : String) (input : Option ByteArray) :
    Action Wire (Except ConnectorError CommandResult) := do
  return Program.checked command (← c.exec command input)

/-- A command that must succeed and says nothing. -/
def runSilently (c : RemoteConnector) (command : String) (input : Option ByteArray) :
    Action Wire (Except ConnectorError Unit) := do
  match ← c.run command input with
  | .ok _ => return .ok ()
  | .error e => return .error e

/-- All output of a command that must succeed. -/
def outputOf (c : RemoteConnector) (command : String) :
    Action Wire (Except ConnectorError String) := do
  match ← c.run command none with
  | .ok result => return .ok result.combined
  | .error e => return .error e

/-- Opens a session now. -/
def connect (c : RemoteConnector) : Action Wire (Except ConnectorError Unit) := do
  match ← c.ensureConnected with
  | .ok _ => return .ok ()
  | .error e => return .error e

/-- Whether a session is held. -/
def isConnected (c : RemoteConnector) : Action Wire Bool :=
  .withLock (.session c.number) (return (← Action.look).session.isSome)

/-! ## Files -/

/-- **The entries of the configuration directory.** -/
def entries (c : RemoteConnector) : Action Wire (Except ConnectorError (List DirEntry)) := do
  match ← c.run (listCommand c.configDir) none with
  | .ok result => return .ok (entriesOf result.stdout)
  | .error e => return .error e

/-- The content of a file; of one that is missing, what `missing` says. -/
def readPath (c : RemoteConnector) (path : String)
    (missing : Except ConnectorError CommandResult) :
    Action Wire (Except ConnectorError CommandResult) := do
  match ← c.exec (c.privileged (readCommand path)) none with
  | .error e => return .error e
  | .ok result =>
    if saysMissing result then return missing else return result.check (readCommand path)

/-- Writes a file. -/
def writePath (c : RemoteConnector) (path : String) (content : ByteArray) :
    Action Wire (Except ConnectorError Unit) :=
  c.runSilently (c.privileged (writeCommand path)) (some content)

/-- **The content of a configuration file.** -/
def read (c : RemoteConnector) (name : String) : Action Wire (Except ConnectorError ByteArray) := do
  match ← c.readPath (c.pathOf name) (.error (.io (c.pathOf name) .missing)) with
  | .ok result => return .ok result.output
  | .error e => return .error e

/-- **A new content for a configuration file.** -/
def write (c : RemoteConnector) (name : String) (content : ByteArray) :
    Action Wire (Except ConnectorError Unit) := do
  match ← c.writePath (c.pathOf name) content with
  | .error e => return .error e
  | .ok _ =>
    Action.event .remoteHost .debug s!"{c.entry.name}: wrote {name} ({content.size} bytes)"
    return .ok ()

/-- **Removes a configuration file.** -/
def delete (c : RemoteConnector) (name : String) : Action Wire (Except ConnectorError Unit) :=
  c.runSilently (c.privileged (deleteCommand (c.pathOf name))) none

/-- **The global configuration.** -/
def readGlobal (c : RemoteConnector) : Action Wire (Except ConnectorError String) := do
  match ← c.readPath c.globalConfig
      (.ok { output := bytesOf Connector.globalPlaceholder }) with
  | .ok result => return .ok result.stdout
  | .error e => return .error e

/-- **A new global configuration.** -/
def writeGlobal (c : RemoteConnector) (text : String) : Action Wire (Except ConnectorError Unit) :=
  c.writePath c.globalConfig (bytesOf text)

/-! ## The system -/

/-- **Makes the host use its configuration.** -/
def apply (c : RemoteConnector) (devices : List String) :
    Action Wire (Except ConnectorError Unit) :=
  c.runSilently (c.privileged (applyCommand devices)) none

/-- **The links.** -/
def links (c : RemoteConnector) : Action Wire (Except ConnectorError (List Link)) :=
  Link.gather fun argv => c.exec (commandLine argv) none

/-- Says why there is no version. -/
def versionFailed (c : RemoteConnector) (why : String) : Action Wire String := do
  Action.event .remoteHost .debug s!"{c.entry.name}: version probe failed: {why}"
  return ""

/-- **What the version command prints**; nothing if it fails. -/
def version (c : RemoteConnector) : Action Wire String := do
  match ← c.exec (commandLine Connector.versionCommand) none with
  | .ok result =>
    if result.success then return result.stdout
    else c.versionFailed (Text.trim result.combined)
  | .error e => c.versionFailed e.message

/-- **Reloads the configuration.** -/
def reload (c : RemoteConnector) : Action Wire (Except ConnectorError String) :=
  c.outputOf (c.privileged (commandLine Connector.reloadCommand))

end RemoteConnector

end NetUnits
