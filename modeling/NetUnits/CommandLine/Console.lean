import NetUnits.Action.Files
import NetUnits.CommandLine.Error
import NetUnits.Json.Printer
import NetUnits.Path

/-!
# Input and output of commands

* **`readInput`** — the text of a file or of standard input.
* **`printText`**, **`printJson`** — text and JSON on standard output.
-/

namespace NetUnits.CommandLine

variable {σ : Type}

/-- Whether an input means standard input. -/
def isStandardInput (input : String) : Bool :=
  input.toList.head? == some '-' && Path.parts input == ["-"]

/-- The text of an input, whose bytes or fault are given. -/
def inputText (source : String) : Except Fault String → Except CommandError String
  | .ok text => .ok text
  | .error fault => .error (.input source fault)

/-- The text of standard input. -/
def readStandardInput : Action σ (Except CommandError String) := do
  return inputText "stdin" (Action.textOf (.ok (← Action.request .input)))

/-- **The text of a file or of standard input.** -/
def readInput (input : Option String) : Action σ (Except CommandError String) :=
  match input.filter fun path => !isStandardInput path with
  | some path => do return inputText path (← Action.loadText path)
  | none => readStandardInput

/-- **Text on standard output**, with a line end unless it is empty. -/
def printText (text : String) : Action σ Unit :=
  if text.isEmpty then return ()
  else if text.toList.getLast? == some '\n' then Action.request (.output text)
  else Action.request (.output (text ++ "\n"))

/-- **JSON on standard output**, over several lines. -/
def printJson (j : Json) : Action σ Unit :=
  Action.request (.output (j.pretty ++ "\n"))

end NetUnits.CommandLine
