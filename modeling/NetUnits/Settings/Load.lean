import NetUnits.Action.Files
import NetUnits.Settings.Basic
import NetUnits.Toml.Parser

/-!
# The settings file

* **`Settings.load`** — the settings of a file; without a file the defaults.
* **`Failure`** — an error as it is reported at the end of a command: its text and its causes.
-/

namespace NetUnits

/-- **A reported error**: its text, then those of its causes. -/
structure Failure where
  /-- The text of the error. -/
  text : String
  /-- The texts of what caused it, the nearest first. -/
  causes : List String := []
deriving DecidableEq, Inhabited

/-- The texts of an error and its causes. -/
def Failure.chain (f : Failure) : List String :=
  f.text :: f.causes

namespace Settings

variable {σ : Type}

/-- The file of the settings, if no other is named. -/
def defaultPath : String := "/etc/networkd-manager/config.toml"

/-- What is said in place of the words of a TOML reader. -/
def tomlComplaint : String := "<toml>"

/-- The settings of the content of a file. -/
def ofContent (base : Settings) (path : String) : Except Fault String → Except Failure Settings
  | .error fault => .error ⟨s!"Failed to read config file: {path}", [fault.message]⟩
  | .ok text =>
    match (Toml.parse? text).bind base.ofToml? with
    | some settings => .ok settings
    | none => .error ⟨s!"Failed to parse TOML config: {path}", [tomlComplaint]⟩

/-- The default settings in this environment. -/
def defaultsHere : Action σ Settings := do
  return defaults ((← Action.request (.environment "TMPDIR")).getD "/tmp")

/-- **The settings of a file**; without a file the defaults. -/
def load (path : String) : Action σ (Except Failure Settings) := do
  let base ← defaultsHere
  if ← Action.request (.isPresent path) then
    return ofContent base path (← Action.loadText path)
  else
    Action.event .settings .debug s!"config file {path} not found, using defaults"
    return .ok base

end Settings

end NetUnits
