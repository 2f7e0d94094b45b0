import NetUnits.Action.Basic
import NetUnits.Text.Utf8

/-!
# Files as text

* **`Action.loadText`** — the content of a file that must be UTF-8.
* **`Action.saveText`**, **`Action.appendText`** — text into a file.
-/

namespace NetUnits.Action

variable {σ : Type}

/-- The text of bytes read from a file. -/
def textOf : Except Fault ByteArray → Except Fault String
  | .error fault => .error fault
  | .ok bytes =>
    match Text.strict? bytes with
    | some text => .ok text
    | none => .error .invalidText

/-- **The content of a file that must be UTF-8.** -/
def loadText (path : String) : Action σ (Except Fault String) :=
  ask (.load path) fun content => done (textOf content)

/-- A new text for a file. -/
def saveText (path text : String) : Action σ (Except Fault Unit) :=
  request (.save path (Text.bytesOf text))

/-- More text at the end of a file. -/
def appendText (path text : String) : Action σ (Except Fault Unit) :=
  request (.append path (Text.bytesOf text))

@[simp] theorem textOf_bytesOf (text : String) : textOf (.ok (Text.bytesOf text)) = .ok text := by
  simp [textOf]

end NetUnits.Action
