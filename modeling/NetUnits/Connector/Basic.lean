import NetUnits.Connector.Local
import NetUnits.Connector.State

/-!
# Connectors

A **connector** is the way to this machine or to a remote host. Both have the same operations.

* **`Connector`** — this machine or a remote host.
* `Connector.entries`, `Connector.read` and so on — the operations.
-/

namespace NetUnits

/-- **The way to a host.** -/
inductive Connector where
  /-- This machine. -/
  | here (c : LocalConnector)
  /-- A remote host. -/
  | remote (c : RemoteConnector)
deriving DecidableEq, Inhabited

namespace Connector

/-- The name of the host. -/
def host : Connector → String
  | here _ => localName
  | remote c => c.entry.name

/-- An operation on either kind of host. -/
def either {α : Type} (c : Connector) (onHere : LocalConnector → Action PoolState α)
    (onRemote : RemoteConnector → Action Wire α) : Action PoolState α :=
  match c with
  | here c => onHere c
  | remote c => (onRemote c).inside (PoolState.wire c.number)

/-- **The entries of the configuration directory.** -/
def entries (c : Connector) : Action PoolState (Except ConnectorError (List DirEntry)) :=
  c.either LocalConnector.entries RemoteConnector.entries

/-- **The content of a configuration file.** -/
def read (c : Connector) (name : String) : Action PoolState (Except ConnectorError ByteArray) :=
  c.either (·.read name) (·.read name)

/-- **A new content for a configuration file.** -/
def write (c : Connector) (name : String) (content : ByteArray) :
    Action PoolState (Except ConnectorError Unit) :=
  c.either (·.write name content) (·.write name content)

/-- **Removes a configuration file.** -/
def delete (c : Connector) (name : String) : Action PoolState (Except ConnectorError Unit) :=
  c.either (·.delete name) (·.delete name)

/-- **Makes the host use its configuration.** -/
def apply (c : Connector) (devices : List String) : Action PoolState (Except ConnectorError Unit) :=
  c.either (fun _ => LocalConnector.apply devices) (·.apply devices)

/-- **The links.** -/
def links (c : Connector) : Action PoolState (Except ConnectorError (List Link)) :=
  c.either (fun _ => LocalConnector.links) RemoteConnector.links

/-- **What the version command prints**; nothing if it fails. -/
def version (c : Connector) : Action PoolState String :=
  c.either (fun _ => LocalConnector.version) RemoteConnector.version

/-- **The global configuration.** -/
def readGlobal (c : Connector) : Action PoolState (Except ConnectorError String) :=
  c.either LocalConnector.readGlobal RemoteConnector.readGlobal

/-- **A new global configuration.** -/
def writeGlobal (c : Connector) (text : String) : Action PoolState (Except ConnectorError Unit) :=
  c.either (·.writeGlobal text) (·.writeGlobal text)

/-- **Reloads the configuration.** -/
def reload (c : Connector) : Action PoolState (Except ConnectorError String) :=
  c.either (fun _ => LocalConnector.outputOf reloadCommand) RemoteConnector.reload

/-- All output of a command that needs no privileges and must succeed. -/
def outputOf (c : Connector) (argv : List String) :
    Action PoolState (Except ConnectorError String) :=
  c.either (fun _ => LocalConnector.outputOf argv) (·.outputOf (commandLine argv))

/-- **The routing tables.** -/
def routes (c : Connector) : Action PoolState (Except ConnectorError String) :=
  c.outputOf routesCommand

/-- **The routing rules.** -/
def rules (c : Connector) : Action PoolState (Except ConnectorError String) :=
  c.outputOf rulesCommand

/-- **The newest lines of the journal.** -/
def logs (c : Connector) : Action PoolState (Except ConnectorError String) :=
  c.outputOf logsCommand

end Connector

end NetUnits
