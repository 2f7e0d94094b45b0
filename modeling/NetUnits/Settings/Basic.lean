import NetUnits.Json.Record
import NetUnits.Path
import NetUnits.Schema.Version
import NetUnits.Text.Numeral
import NetUnits.Toml.Basic

/-!
# Settings

Where schemas and configuration are, and how remote hosts are reached. Every setting has a
default, so that settings may be written in part.

* **`Settings`** — all settings; **`RemoteSettings`** — those for remote hosts.
* **`Settings.ofToml?`**, **`Settings.ofJson?`** — settings written over others.
* **`Settings.toJson`** — all settings as JSON.
-/

namespace NetUnits

/-- The directory of configuration files. -/
def systemConfigDir : String := "/etc/systemd/network"

/-- The file of the global configuration. -/
def systemGlobalConfig : String := "/etc/systemd/networkd.conf"

/-- **Settings for remote hosts.** -/
structure RemoteSettings where
  /-- The directory of configuration files on the host. -/
  configDir : String := systemConfigDir
  /-- The file of the global configuration on the host. -/
  globalConfig : String := systemGlobalConfig
  /-- What is put before commands that need privileges. -/
  privilege : String := "sudo"
  /-- How many seconds a connection may take. -/
  connectTimeout : Nat := 5
  /-- How many seconds an operation may take. -/
  commandTimeout : Nat := 60
  /-- The directory of the sockets of connections. -/
  controlDir : String := "/tmp/networkd-manager-ssh"
deriving DecidableEq, Inhabited

/-- **All settings.** -/
structure Settings where
  /-- The directory of the schema generations. -/
  schemaDir : String := "/usr/share/networkd-manager/schemas"
  /-- The directory of configuration files. -/
  configDir : String := systemConfigDir
  /-- The file of the global configuration. -/
  globalConfig : String := systemGlobalConfig
  /-- The directory of the registry of hosts. -/
  dataDir : String := "/var/lib/networkd-manager"
  /-- The generation assumed when nothing better is known. -/
  defaultGeneration : Nat := Version.defaultGeneration
  /-- Sections that may always be written several times. -/
  repeatable : List String := ["Address", "Route", "RoutingPolicyRule"]
  /-- Settings for remote hosts. -/
  remote : RemoteSettings := {}
deriving DecidableEq, Inhabited

/-- The default settings, where the directory for temporary files is given. -/
def Settings.defaults (temporary : String) : Settings where
  remote := { controlDir := Path.join temporary "networkd-manager-ssh" }

open NetUnits.Text

/-- The names of the settings for remote hosts, in order. -/
def RemoteSettings.fieldNames : List String :=
  ["config_dir", "global_config_path", "privilege_prefix", "connect_timeout_secs",
    "command_timeout_secs", "control_dir"]

/-- The names of the settings, in order. -/
def Settings.fieldNames : List String :=
  ["schema_dir", "config_dir", "global_config_path", "data_dir", "default_schema_version",
    "repeatable_sections", "remote"]

/-! ## From TOML -/

namespace Toml

/-- The text of a string. -/
def text? : Toml → Option String
  | string s => some s
  | _ => none

/-- The value of an integer from 0 to a limit. -/
def natUpTo? (limit : Nat) : Toml → Option Nat
  | integer i => if 0 ≤ i ∧ i ≤ limit then some i.toNat else none
  | _ => none

/-- The texts of an array of strings. -/
def texts? : Toml → Option (List String)
  | array items => items.mapM text?
  | tables [] => some []
  | _ => none

/-- The fields of a record that are given: by name in a table, or in order in an array. A time has
no known fields. -/
def record? (names : List String) : Toml → Option (List (String × Toml))
  | table _ members => some members
  | array items => some (names.zip items)
  | tables items => some (names.zip items)
  | time => some []
  | _ => none

/-- A field with a default: if it is there, it must have its form. -/
def fieldOr {α : Type} (fields : List (String × Toml)) (name : String) (fallback : α)
    (decode : Toml → Option α) : Option α :=
  match find? name fields with
  | some t => decode t
  | none => some fallback

end Toml

/-- **Settings for remote hosts, written in TOML** over others. -/
def RemoteSettings.ofToml? (base : RemoteSettings) (t : Toml) : Option RemoteSettings := do
  let fields ← t.record? fieldNames
  return {
    configDir := ← Toml.fieldOr fields "config_dir" base.configDir Toml.text?
    globalConfig := ← Toml.fieldOr fields "global_config_path" base.globalConfig Toml.text?
    privilege := ← Toml.fieldOr fields "privilege_prefix" base.privilege Toml.text?
    connectTimeout := ← Toml.fieldOr fields "connect_timeout_secs" base.connectTimeout
      (Toml.natUpTo? maxNat64)
    commandTimeout := ← Toml.fieldOr fields "command_timeout_secs" base.commandTimeout
      (Toml.natUpTo? maxNat64)
    controlDir := ← Toml.fieldOr fields "control_dir" base.controlDir Toml.text? }

/-- **Settings written in TOML** over others. -/
def Settings.ofToml? (base : Settings) (t : Toml) : Option Settings := do
  let fields ← t.record? fieldNames
  return {
    schemaDir := ← Toml.fieldOr fields "schema_dir" base.schemaDir Toml.text?
    configDir := ← Toml.fieldOr fields "config_dir" base.configDir Toml.text?
    globalConfig := ← Toml.fieldOr fields "global_config_path" base.globalConfig Toml.text?
    dataDir := ← Toml.fieldOr fields "data_dir" base.dataDir Toml.text?
    defaultGeneration := ← Toml.fieldOr fields "default_schema_version" base.defaultGeneration
      (Toml.natUpTo? maxNat32)
    repeatable := ← Toml.fieldOr fields "repeatable_sections" base.repeatable Toml.texts?
    remote := ← Toml.fieldOr fields "remote" base.remote (RemoteSettings.ofToml? base.remote) }

/-! ## From and to JSON -/

/-- The texts of a JSON array of strings. -/
def Json.texts? (j : Json) : Option (List String) :=
  j.items?.bind fun items => items.mapM Json.string?

/-- **Settings for remote hosts, written in JSON** over others. -/
def RemoteSettings.ofJson? (base : RemoteSettings) (j : Json) : Option RemoteSettings := do
  let r ← j.record? fieldNames
  return {
    configDir := ← r.fieldOr "config_dir" base.configDir Json.string?
    globalConfig := ← r.fieldOr "global_config_path" base.globalConfig Json.string?
    privilege := ← r.fieldOr "privilege_prefix" base.privilege Json.string?
    connectTimeout := ← r.fieldOr "connect_timeout_secs" base.connectTimeout
      (Json.natUpTo? maxNat64)
    commandTimeout := ← r.fieldOr "command_timeout_secs" base.commandTimeout
      (Json.natUpTo? maxNat64)
    controlDir := ← r.fieldOr "control_dir" base.controlDir Json.string? }

/-- **Settings written in JSON** over others. -/
def Settings.ofJson? (base : Settings) (j : Json) : Option Settings := do
  let r ← j.record? fieldNames
  return {
    schemaDir := ← r.fieldOr "schema_dir" base.schemaDir Json.string?
    configDir := ← r.fieldOr "config_dir" base.configDir Json.string?
    globalConfig := ← r.fieldOr "global_config_path" base.globalConfig Json.string?
    dataDir := ← r.fieldOr "data_dir" base.dataDir Json.string?
    defaultGeneration := ← r.fieldOr "default_schema_version" base.defaultGeneration
      (Json.natUpTo? maxNat32)
    repeatable := ← r.fieldOr "repeatable_sections" base.repeatable Json.texts?
    remote := ← r.fieldOr "remote" base.remote (RemoteSettings.ofJson? base.remote) }

/-- The JSON of settings for remote hosts. -/
def RemoteSettings.toJson (s : RemoteSettings) : Json :=
  .object [("config_dir", .string s.configDir), ("global_config_path", .string s.globalConfig),
    ("privilege_prefix", .string s.privilege), ("connect_timeout_secs", .int s.connectTimeout),
    ("command_timeout_secs", .int s.commandTimeout), ("control_dir", .string s.controlDir)]

/-- The JSON of settings. -/
def Settings.toJson (s : Settings) : Json :=
  .object [("schema_dir", .string s.schemaDir), ("config_dir", .string s.configDir),
    ("global_config_path", .string s.globalConfig), ("data_dir", .string s.dataDir),
    ("default_schema_version", .int s.defaultGeneration),
    ("repeatable_sections", .array (s.repeatable.map .string)), ("remote", s.remote.toJson)]

end NetUnits
