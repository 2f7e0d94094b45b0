import NetUnits.Fault
import NetUnits.Text.Trim
import NetUnits.Text.Utf8

/-!
# Results of commands, and errors of hosts

* **`CommandResult`** — what a command has printed, and how it ended.
* **`CommandResult.combined`** — all that was printed, as shown to users.
* **`ConnectorError`** — why an operation on a host failed.
* **`CommandResult.check`** — a command that did not succeed is such an error.
-/

namespace NetUnits

/-- **The result of a command.** -/
structure CommandResult where
  /-- Standard output, byte for byte. -/
  output : ByteArray := .empty
  /-- Standard error, as text. -/
  stderr : String := ""
  /-- Exit code; none if a signal ended the command. -/
  code : Option Int := some 0
deriving DecidableEq, Inhabited

namespace CommandResult

/-- Standard output, as text. -/
def stdout (r : CommandResult) : String :=
  Text.lenient r.output

/-- Whether the command succeeded. -/
def success (r : CommandResult) : Bool :=
  r.code == some 0

/-- **All output**: standard output, and standard error on a line of its own. -/
def combined (r : CommandResult) : String :=
  let out := r.stdout
  if r.stderr.isEmpty then out
  else if out.isEmpty || out.toList.getLast? == some '\n' then out ++ r.stderr
  else out ++ "\n" ++ r.stderr

end CommandResult

/-- **Why an operation on a host failed.** -/
inductive ConnectorError where
  /-- The host is not registered. -/
  | unknownHost (host : String)
  /-- The session could not be established, or it was lost. -/
  | connection (host message : String)
  /-- A command did not succeed; the code is -1 if a signal ended it. -/
  | commandFailed (command : String) (code : Int) (output : String)
  /-- A file or program of this machine could not be used. -/
  | io (path : String) (fault : Fault)
  /-- The operation took longer than its deadline. -/
  | timeout (host : String) (secs : Nat)
  /-- A command succeeded, but its output cannot be understood. -/
  | invalidOutput (command message : String)
  /-- The worker for the host cannot be named: a name holds no NUL. The caller is stopped. -/
  | crashed (host : String)
deriving DecidableEq

namespace ConnectorError

/-- The wording of an error. -/
def message : ConnectorError → String
  | unknownHost host => s!"Unknown host '{host}'"
  | connection host message => s!"Connection to {host} failed: {message}"
  | commandFailed command code output => s!"command '{command}' failed (exit {code}): {output}"
  | io path fault => s!"IO error on {path}: {fault.message}"
  | timeout host secs => s!"Operation on {host} timed out after {secs}s"
  | invalidOutput command message => s!"Unparsable output from '{command}': {message}"
  | crashed host => s!"worker thread for {host} cannot be named"

/-- Whether the session cannot be used any more. -/
def isConnection : ConnectorError → Bool
  | connection _ _ | timeout _ _ => true
  | _ => false

/-- Whether a file does not exist. -/
def isNotFound : ConnectorError → Bool
  | io _ fault => fault.isNotFound
  | _ => false

end ConnectorError

/-- **The result of a command that succeeded**; one that did not is an error with its output. -/
def CommandResult.check (r : CommandResult) (command : String) :
    Except ConnectorError CommandResult :=
  if r.success then .ok r
  else .error (.commandFailed command (r.code.getD (-1)) (Text.trim r.combined))

/-- A program with its arguments, as shown to users. -/
def commandLine (argv : List String) : String :=
  " ".intercalate argv

end NetUnits
