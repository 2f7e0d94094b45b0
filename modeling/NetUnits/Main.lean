import NetUnits.CommandLine.Program
import NetUnits.Log.Calendar
import Std.Time.DateTime.Timestamp

/-!
# The program on a real machine

Requests are answered by the system. Programs cannot be started here, and sessions are opened by
the `ssh` client only.

* **`Surroundings.answer`** — the reply of the system to a request.
* **`main`** — the program.
-/

namespace NetUnits.Surroundings

/-- The fault of an error of the system. -/
def faultOf : IO.Error → Fault
  | .noFileOrDirectory _ _ _ | .noSuchThing _ _ _ => .notFound
  | .permissionDenied _ _ _ => .denied
  | .alreadyExists _ _ _ => .alreadyExists
  | .inappropriateType _ code _ => if code = 20 then .notDirectory else .isDirectory
  | _ => .unsupported

/-- The result of an operation of the system; its error is a fault. -/
def attempt {α : Type} (operation : IO α) : IO (Except Fault α) := do
  match ← operation.toBaseIO with
  | .ok a => return .ok a
  | .error e => return .error (faultOf e)

/-- The entry for a name in a directory. -/
def entryOf (dir name : String) : IO.FS.DirEntry where
  root := dir
  fileName := name

/-- The entries of a directory. -/
def entries (dir : String) : IO (List DirEntry) := do
  let found ← (entryOf dir "").root.readDir
  found.toList.mapM fun e => return ⟨e.fileName, ← e.path.isDir⟩

/-- More content at the end of a file. -/
def append (path : String) (content : ByteArray) : IO Unit :=
  IO.FS.withFile path .append fun h => h.write content

/-- The parts of a text between colons. -/
def fields (text : String) : List String :=
  (text.splitOn ":").filter fun field => !field.isEmpty

/-- Whether there is a program with a name. -/
def findProgram (name : String) : IO Bool := do
  if name.toList.contains '/' then (entryOf name "").root.pathExists
  else (fields ((← IO.getEnv "PATH").getD "")).anyM fun dir => (entryOf dir name).path.pathExists

/-- The time, as text. -/
def now : IO String := do
  let moment ← Std.Time.Timestamp.now
  return Calendar.momentText moment.toSecondsSinceUnixEpoch.val.toNat

/-- What a host that needs other means than the client answers. -/
def unreachable (host : String) : ConnectorError :=
  .connection host "no such session"

/-- **The reply of the system** to a request. -/
def answer : (r : Request) → IO r.Reply
  | .environment name => IO.getEnv name
  | .processId => return 0
  | .clock => now
  | .input => do (← IO.getStdin).readBinToEnd
  | .output text => IO.print text
  | .report text => IO.eprint text
  | .event _ => return ()
  | .isPresent path => (entryOf path "").root.pathExists
  | .entries path => attempt (entries path)
  | .load path => attempt (IO.FS.readBinFile path)
  | .save path content => attempt (IO.FS.writeBinFile path content)
  | .append path content => attempt (append path content)
  | .makeDirs path => attempt (IO.FS.createDirAll path)
  | .remove path => attempt (IO.FS.removeFile path)
  | .findProgram name => findProgram name
  | .run _ _ _ => return .error .unsupported
  | .connect host => return .error (unreachable host.name)
  | .exec _ _ _ => return .error (unreachable "")
  | .isAlive _ => return false
  | .startWorker _ => return .ok ()
  | .awaitWorker _ => return .inTime
  | .acquire _ | .release _ => return ()

end NetUnits.Surroundings

/-- **The program.** -/
def main (args : List String) : IO UInt32 := do
  let build := "dev-" ++ NetUnits.CommandLine.programVersion
  let (code, _) ← NetUnits.Action.interpret NetUnits.Surroundings.answer
    (NetUnits.CommandLine.program build args) default
  return code.toUInt32
