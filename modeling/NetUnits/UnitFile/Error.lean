import NetUnits.Fault
import NetUnits.Text.Quoted

/-!
# What can be wrong with a unit file

* **`Error`** — the causes: four for text that has not the form of a unit file, one for sections
  that cannot be written, one for a file that cannot be read.
* **`Error.message`** — their wording.
-/

namespace NetUnits.UnitFile

/-- **Why a name, key or value cannot be written**: the file would read back differently. -/
inductive Refusal where
  /-- A section name or key is empty, or has blanks around it. -/
  | emptyOrPadded
  /-- A section name or key holds a control character or a bracket. -/
  | controlOrBracket
  /-- A key holds `=` or would begin a comment. -/
  | notAKey
  /-- A value holds a line feed or a carriage return. -/
  | lineBreak
  /-- A value ends in a backslash. -/
  | trailingBackslash
deriving DecidableEq

/-- The wording of a refusal. -/
def Refusal.message : Refusal → String
  | .emptyOrPadded => "empty or padded name"
  | .controlOrBracket => "control character or bracket in name"
  | .notAKey => "not a valid key"
  | .lineBreak => "line break in value"
  | .trailingBackslash => "trailing backslash continues the line"

/-- **What can be wrong with a unit file.** Line numbers are those of the first physical line. -/
inductive Error where
  /-- A header lacks its closing bracket. -/
  | unterminatedHeader (line : Nat) (text : String)
  /-- A header has no name. -/
  | emptyHeader (line : Nat)
  /-- An entry stands before the first header. -/
  | entryOutsideSection (line : Nat) (text : String)
  /-- An entry has no `=`. -/
  | missingSeparator (line : Nat) (text : String)
  /-- A name, key or value of the section cannot be written. -/
  | unrenderable (header text : String) (reason : Refusal)
  /-- The file cannot be read. -/
  | unreadable (path : String) (fault : Fault)
deriving DecidableEq

/-- The wording of an error. -/
def Error.message : Error → String
  | .unterminatedHeader line text => s!"Unterminated section header at line {line}: {text}"
  | .emptyHeader line => s!"Empty section header at line {line}"
  | .entryOutsideSection line text => s!"Entry outside of section at line {line}: {text}"
  | .missingSeparator line text => s!"Missing '=' at line {line}: {text}"
  | .unrenderable header text reason =>
    s!"Cannot render {Text.quoted text} in [{header}]: {reason.message}"
  | .unreadable path fault => s!"IO error reading {path}: {fault.message}"

end NetUnits.UnitFile
