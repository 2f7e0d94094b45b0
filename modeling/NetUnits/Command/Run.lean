import NetUnits.Action.Basic

/-!
# Running programs

* **`Program.run`** — a program, whatever its exit code.
* **`Program.runWithInput`** — the same, with bytes on its standard input.
* **`Program.runChecked`** — a program that must succeed.
-/

namespace NetUnits.Program

variable {σ : Type}

/-- The result of a program; one that cannot be started is an error. -/
def resultOf (program : String) : Except Fault CommandResult → Except ConnectorError CommandResult
  | .ok result => .ok result
  | .error fault => .error (.io program fault)

/-- **A program, whatever its exit code.** -/
def run (program : String) (args : List String) :
    Action σ (Except ConnectorError CommandResult) := do
  Action.event .programs .debug s!"exec: {commandLine (program :: args)}"
  return resultOf program (← Action.request (.run program args none))

/-- **A program with bytes on its standard input**, whatever its exit code. -/
def runWithInput (program : String) (args : List String) (input : ByteArray) :
    Action σ (Except ConnectorError CommandResult) := do
  Action.event .programs .debug s!"exec: {commandLine (program :: args)} (stdin {input.size} bytes)"
  return resultOf program (← Action.request (.run program args (some input)))

/-- The result that must be a success. -/
def checked (command : String) :
    Except ConnectorError CommandResult → Except ConnectorError CommandResult
  | .ok result => result.check command
  | .error e => .error e

/-- **A program that must succeed.** -/
def runChecked (program : String) (args : List String) :
    Action σ (Except ConnectorError CommandResult) := do
  return checked (commandLine (program :: args)) (← run program args)

end NetUnits.Program
