import NetUnits.CommandLine.Execution
import NetUnits.Log.Sink

/-!
# The program

* **`program`** — what the program does with its arguments, up to its exit code.
-/

namespace NetUnits.CommandLine

/-- The name of the program, and how it is used. -/
def usageText : String :=
  "Usage: networkd-manager [OPTIONS] <COMMAND>\n\nCommands: " ++
    ", ".intercalate (grammar.verbs.map Verb.name) ++ "\n"

/-- What is written when there is nothing to do. -/
def Refusal.tell {σ : Type} : Refusal → Action σ Unit
  | .help => Action.request (.output usageText)
  | .version => printVersion
  | .usage => Action.request (.report usageText)

/-- The exit code for a result. An error is reported. -/
def exitCodeOf {σ : Type} : Except CommandError Unit → Action σ Nat
  | .ok _ => return 0
  | .error e => do
    Action.request (.report e.failure.report)
    return 1

/-- What an invocation does after its log was opened. Only the version needs no settings. -/
def Invocation.perform (i : Invocation) : Action ServiceState (Except CommandError Unit) :=
  match i.command with
  | .version => do return .ok (← printVersion)
  | _ => i.execute

/-- **The program**: its exit code. The log is opened for a build of the program, which is named in
its header. -/
def program (build : String) (args : List String) : Action ServiceState Nat :=
  match Invocation.ofArgs args with
  | .error refusal => do
    refusal.tell
    return refusal.exitCode
  | .ok i => do
    let sink ← LogSink.openFor build i.command.name i.verbose
    exitCodeOf (← i.perform.traced sink.handle)

end NetUnits.CommandLine
