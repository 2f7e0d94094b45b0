import NetUnits.Action.Basic
import NetUnits.Machine.Files
import NetUnits.Text.Lines

/-!
# A machine that answers requests

A **machine** is a small closed world in which actions can be carried out without any effect
outside: files, programs and hosts that answer by rules, an environment, and a record of what was
asked of them.

* **`Machine`** — the world and the record.
* **`Machine.answer`** — the reply to a request.
* **`Machine.perform`** — an action carried out in a machine.
-/

namespace NetUnits

/-- **What a program does to the socket** that its arguments name. -/
inductive SocketEffect where
  /-- It makes the socket. -/
  | create
  /-- It removes the socket. -/
  | remove
deriving DecidableEq

/-- **How a program answers** when its arguments hold a text. -/
structure ProgramRule where
  /-- What must occur in the arguments, which are separated by spaces. -/
  needle : String
  /-- The result. -/
  result : CommandResult
  /-- What happens to the socket. -/
  socket : Option SocketEffect := none

/-- **How a host answers** commands that begin with a text. -/
structure SessionRule where
  /-- What the command must begin with. -/
  start : String
  /-- How many times the rule can still be used, if that is limited. -/
  uses : Option Nat := none
  /-- Whether the session cannot be used after the command. -/
  kills : Bool := false
  /-- The result of the command. -/
  reply : Except ConnectorError CommandResult

/-- **A session** that is open. -/
structure OpenSession where
  /-- The name of the host. -/
  host : String
  /-- How commands are answered: by the first rule that fits and can be used. -/
  rules : List SessionRule
  /-- Whether it can carry commands. -/
  alive : Bool := true

/-- **What was asked** of programs and hosts. -/
inductive Call where
  /-- A program was run. -/
  | program (argv : List String) (input : Option ByteArray)
  /-- A session was wanted. -/
  | connect (host : String)
  /-- A command was sent. -/
  | command (host text : String) (input : Option ByteArray)

/-- **A machine.** -/
structure Machine where
  /-- The files. -/
  files : FileTree := ∅
  /-- The directory from which relative paths start. -/
  directory : String := "/"
  /-- The programs, with their rules. -/
  programs : Dict (List ProgramRule) := ∅
  /-- The environment. -/
  environment : Dict String := ∅
  /-- What standard input still holds. -/
  input : ByteArray := .empty
  /-- What was written to standard output. -/
  output : String := ""
  /-- What was written to standard error. -/
  errors : String := ""
  /-- The number of the process. -/
  processId : Nat := 1
  /-- The time. -/
  time : String := "TIME"
  /-- What each host offers to the next wishes for a session. -/
  offers : Dict (List (Except ConnectorError (List SessionRule))) := ∅
  /-- The sessions opened so far. -/
  sessions : List OpenSession := []
  /-- What becomes of workers. -/
  fate : Fate := .inTime
  /-- What was asked of hosts, last first. -/
  hostCalls : List Call := []
  /-- What was asked of programs, last first. -/
  programCalls : List Call := []

namespace Machine

/-- An absolute path: a relative one starts from the directory of the machine. -/
def absolute (w : Machine) (path : String) : String :=
  if path.isEmpty then path else Path.join w.directory path

/-- The machine with a change of its files, and the reply. -/
def withFiles (w : Machine) (change : Except Fault FileTree) : Except Fault Unit × Machine :=
  match change with
  | .ok files => (.ok (), { w with files })
  | .error fault => (.error fault, w)

/-- The machine with a directory made, and the reply. -/
def withDirs (w : Machine) (path : String) : Except Fault Unit × Machine :=
  match w.files.makeDirs (w.absolute path) with
  | (files, none) => (.ok (), { w with files })
  | (files, some fault) => (.error fault, { w with files })

/-! ## Programs -/

/-- What introduces the path of a socket in an argument. -/
def socketOption : List Char := "ControlPath=".toList

/-- The path of the socket that arguments name. -/
def socketPath? (args : List String) : Option String :=
  args.findSome? fun arg =>
    if socketOption.isPrefixOf arg.toList then
      some (String.ofList (arg.toList.drop socketOption.length))
    else none

/-- The files after what a program does to its socket. -/
def afterSocket (w : Machine) (rule : ProgramRule) (args : List String) : FileTree :=
  match rule.socket, socketPath? args with
  | some .create, some path =>
    match w.files.save (w.absolute path) .empty with
    | .ok files => files
    | .error _ => w.files
  | some .remove, some path =>
    match w.files.remove (w.absolute path) with
    | .ok files => files
    | .error _ => w.files
  | _, _ => w.files

/-- The rule for arguments: the first that fits, else success without output. -/
def ruleFor (rules : List ProgramRule) (args : List String) : ProgramRule :=
  let text := (" ".intercalate args).toList
  (rules.find? fun rule => Text.occursIn rule.needle.toList text).getD ⟨"", {}, none⟩

/-- Whether a text holds the character that ends texts for the system. -/
def hasNul (text : String) : Bool :=
  text.toList.contains '\x00'

/-- **A program run to its end.** -/
def run (w : Machine) (program : String) (args : List String) (input : Option ByteArray) :
    Except Fault CommandResult × Machine :=
  if (program :: args).any hasNul then (.error .nulByte, w)
  else if program.toList.contains '/' then
    match w.files.load (w.absolute program) with
    | .ok _ | .error .isDirectory => (.error .denied, w)
    | .error fault => (.error fault, w)
  else if FileTree.maxName < program.utf8ByteSize then (.error .nameTooLong, w)
  -- among the programs these are directories, which cannot be run
  else if program = "." || program = ".." then (.error .denied, w)
  else
    match w.programs.get? program with
    | none => (.error .notFound, w)
    | some rules =>
      let rule := ruleFor rules args
      (.ok rule.result, { w with
        files := w.afterSocket rule args
        programCalls := .program (program :: args) input :: w.programCalls })

/-! ## Hosts -/

/-- **A session with a host**: the next one it offers. -/
def connect (w : Machine) (host : String) : Except ConnectorError Nat × Machine :=
  let w := { w with hostCalls := .connect host :: w.hostCalls }
  match w.offers.get? host with
  | some (offer :: rest) =>
    let w := { w with offers := w.offers.insert host rest }
    match offer with
    | .ok rules =>
      let session := { host := host, rules := rules }
      (.ok w.sessions.length, { w with sessions := w.sessions ++ [session] })
    | .error e => (.error e, w)
  | _ => (.error (.connection host "no session left"), w)

/-- Whether a rule answers a command. -/
def answers (command : String) (rule : SessionRule) : Bool :=
  rule.start.toList.isPrefixOf command.toList && rule.uses != some 0

/-- The first rule that answers a command, and the rules after its use. -/
def useRule (command : String) : List SessionRule → Option SessionRule × List SessionRule
  | [] => (none, [])
  | rule :: rest =>
    if answers command rule then
      (some rule, { rule with uses := rule.uses.map (· - 1) } :: rest)
    else
      let (found, rest) := useRule command rest
      (found, rule :: rest)

/-- **A command on an open session**, and the session after it. -/
def execOn (session : OpenSession) (command : String) :
    Except ConnectorError CommandResult × OpenSession :=
  if session.alive then
    match useRule command session.rules with
    | (some rule, rules) =>
      (rule.reply, { session with rules, alive := !rule.kills })
    | (none, _) => (.ok {}, session)
  else (.error (.connection session.host "session is dead"), session)

/-- **A command on a session.** -/
def exec (w : Machine) (id : Nat) (command : String) (input : Option ByteArray) :
    Except ConnectorError CommandResult × Machine :=
  match w.sessions[id]? with
  | none => (.error (.connection "" "no such session"), w)
  | some session =>
    let (reply, session) := execOn session command
    (reply, { w with
      sessions := w.sessions.set id session
      hostCalls := .command session.host command input :: w.hostCalls })

/-- Makes a session unusable, if there is one with the number. -/
def kill (w : Machine) (id : Nat) : Machine :=
  { w with sessions := w.sessions.modify id fun session => { session with alive := false } }

/-! ## Requests -/

/-- **The reply to a request**, and the machine after it. -/
def answer : (r : Request) → Machine → r.Reply × Machine
  | .environment name, w => (w.environment.get? name, w)
  | .processId, w => (w.processId, w)
  | .clock, w => (w.time, w)
  | .input, w => (w.input, { w with input := .empty })
  | .output text, w => ((), { w with output := w.output ++ text })
  | .report text, w => ((), { w with errors := w.errors ++ text })
  | .event _, w => ((), w)
  | .isPresent path, w => (w.files.isPresent (w.absolute path), w)
  | .entries path, w => (w.files.entries (w.absolute path), w)
  | .load path, w => (w.files.load (w.absolute path), w)
  | .save path content, w => w.withFiles (w.files.save (w.absolute path) content)
  | .append path content, w => w.withFiles (w.files.append (w.absolute path) content)
  | .makeDirs path, w => w.withDirs path
  | .remove path, w => w.withFiles (w.files.remove (w.absolute path))
  | .findProgram name, w => (w.programs.contains name, w)
  | .run program args input, w => w.run program args input
  | .connect host, w => w.connect host.name
  | .exec id command input, w => w.exec id command input
  | .isAlive id, w => ((w.sessions[id]?).any (·.alive), w)
  | .startWorker _, w => (.ok (), w)
  | .awaitWorker _, w => (w.fate, w)
  | .acquire _, w => ((), w)
  | .release _, w => ((), w)

/-- **An action carried out in a machine**: its result, and state and machine after it. -/
def perform {σ α : Type} (x : Action σ α) (s : σ) : StateM Machine (α × σ) :=
  Action.interpret (m := StateM Machine) (fun r w => answer r w) x s

end Machine

end NetUnits
