import NetUnits.Command.Result
import NetUnits.Host.Entry
import NetUnits.Schema.Basic
import NetUnits.UnitFile.Error

/-!
# Errors of the service

* **`ServiceError`** — an error of one of the parts, a file name that is refused, or a kind that
  does not exist.
* **`ServiceError.message`** — the wording, which says where the error comes from.
-/

namespace NetUnits

/-- **Why an operation of the service failed.** -/
inductive ServiceError where
  /-- A schema generation cannot be used. -/
  | schema (e : SchemaError)
  /-- A unit file cannot be read or written. -/
  | unitFile (e : UnitFile.Error)
  /-- An operation on a host failed. -/
  | connector (e : ConnectorError)
  /-- The registry of hosts cannot be used. -/
  | host (e : HostError)
  /-- The name does not belong to a file of the configuration directory. -/
  | invalidFilename (name : String)
  /-- There is no such kind of configuration for this purpose. -/
  | unknownKind (name : String)
deriving DecidableEq

/-- The wording of an error. -/
def ServiceError.message : ServiceError → String
  | .schema e => s!"Schema error: {e.message}"
  | .unitFile e => s!"Parse error: {e.message}"
  | .connector e => s!"Connector error: {e.message}"
  | .host e => s!"Host registry error: {e.message}"
  | .invalidFilename name => s!"Invalid filename '{name}'"
  | .unknownKind name =>
    s!"Unknown config kind '{name}': must be one of network, netdev, link, networkd-conf"

/-- The kind with a name, which must exist. -/
def Kind.ofName (name : String) : Except ServiceError Kind :=
  match Kind.ofName? name with
  | some kind => .ok kind
  | none => .error (.unknownKind name)

/-- The kind of a file of the configuration directory, whose name must be safe. -/
def Kind.ofSafeFilename (filename : String) : Except ServiceError Kind :=
  match Kind.ofSafeFilename? filename with
  | some kind => .ok kind
  | none => .error (.invalidFilename filename)

end NetUnits
