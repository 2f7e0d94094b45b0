import NetUnits.Action.Files
import NetUnits.Command.Run
import NetUnits.Connector.Command
import NetUnits.Link.Gather
import NetUnits.Path

/-!
# This machine

* **`LocalConnector`** — the files and programs of this machine.
-/

namespace NetUnits

/-- **The connector for this machine.** -/
structure LocalConnector where
  /-- The directory of configuration files. -/
  configDir : String
  /-- The file of the global configuration. -/
  globalConfig : String
deriving DecidableEq, Inhabited

namespace LocalConnector

variable {σ α : Type}

/-- The path of a configuration file. -/
def pathOf (c : LocalConnector) (name : String) : String :=
  Path.join c.configDir name

/-- A result of the machine; a fault is an error at a path. -/
def atPath (path : String) : Except Fault α → Except ConnectorError α
  | .ok a => .ok a
  | .error fault => .error (.io path fault)

/-- **The entries of the configuration directory.** -/
def entries (c : LocalConnector) : Action σ (Except ConnectorError (List DirEntry)) := do
  return atPath c.configDir (← Action.request (.entries c.configDir))

/-- **The content of a configuration file.** -/
def read (c : LocalConnector) (name : String) : Action σ (Except ConnectorError ByteArray) := do
  return atPath (c.pathOf name) (← Action.request (.load (c.pathOf name)))

/-- **A new content for a configuration file.** -/
def write (c : LocalConnector) (name : String) (content : ByteArray) :
    Action σ (Except ConnectorError Unit) := do
  match ← Action.request (.save (c.pathOf name) content) with
  | .error fault => return .error (.io (c.pathOf name) fault)
  | .ok _ =>
    Action.event .localHost .debug s!"wrote {c.pathOf name} ({content.size} bytes)"
    return .ok ()

/-- **Removes a configuration file.** -/
def delete (c : LocalConnector) (name : String) : Action σ (Except ConnectorError Unit) := do
  match ← Action.request (.remove (c.pathOf name)) with
  | .error fault => return .error (.io (c.pathOf name) fault)
  | .ok _ =>
    Action.event .localHost .debug s!"removed {c.pathOf name}"
    return .ok ()

/-- Runs a command, given with its arguments. -/
def runCommand : List String → Action σ (Except ConnectorError CommandResult)
  | program :: args => Program.run program args
  | [] => return .ok {}

/-- All output of a command that must succeed. -/
def outputOf (argv : List String) : Action σ (Except ConnectorError String) := do
  match Program.checked (commandLine argv) (← runCommand argv) with
  | .ok result => return .ok result.combined
  | .error e => return .error e

/-- **Makes the machine use its configuration.** -/
def apply (devices : List String) : Action σ (Except ConnectorError Unit) := do
  match ← Program.runChecked "networkctl" (Connector.applyArgs devices) with
  | .ok _ => return .ok ()
  | .error e => return .error e

/-- **The links.** -/
def links : Action σ (Except ConnectorError (List Link)) :=
  Link.gather runCommand

/-- **What the version command prints**; nothing if it fails. -/
def version : Action σ String := do
  match Program.checked (commandLine Connector.versionCommand)
      (← runCommand Connector.versionCommand) with
  | .ok result => return result.stdout
  | .error e =>
    Action.event .localHost .debug s!"local version probe failed: {e.message}"
    return ""

/-- **The global configuration.** -/
def readGlobal (c : LocalConnector) : Action σ (Except ConnectorError String) := do
  match ← Action.loadText c.globalConfig with
  | .ok text => return .ok text
  | .error fault =>
    if fault.isNotFound then return .ok Connector.globalPlaceholder
    else return .error (.io c.globalConfig fault)

/-- **A new global configuration.** -/
def writeGlobal (c : LocalConnector) (text : String) : Action σ (Except ConnectorError Unit) := do
  return atPath c.globalConfig (← Action.saveText c.globalConfig text)

end LocalConnector

end NetUnits
