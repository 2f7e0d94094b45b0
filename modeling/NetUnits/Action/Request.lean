import NetUnits.Command.Result
import NetUnits.Host.Entry

/-!
# Requests

What an action wants from its surroundings is a **request**, and each request has a type of
replies. Requests are the only way in which actions see files, programs, the environment and the
time.

* **`Request`** — the requests; **`Request.Reply`** their replies.
* **`Event`** — what the log is told, with its **`Level`** and the part of the program it comes
  from.
* **`Fate`** — what becomes of a worker.
* **`Lock`** — what at most one action holds at a time.
-/

namespace NetUnits

/-- **The importance of an event**, from the most important on. -/
inductive Level where
  /-- Something failed. -/
  | error
  /-- Something is not as it should be. -/
  | warn
  /-- Something was done. -/
  | info
  /-- Details. -/
  | debug
deriving DecidableEq

/-- **The part of the program that an event comes from.** -/
inductive EventSource where
  /-- The preparation of every command. -/
  | commands
  /-- The commands on unit files. -/
  | fileCommands
  /-- The commands on the running system. -/
  | systemCommands
  /-- The settings. -/
  | settings
  /-- Programs run on this machine. -/
  | programs
  /-- The registry of hosts. -/
  | registry
  /-- The store of schemas. -/
  | schemas
  /-- The types of keys in a schema. -/
  | schemaIndex
  /-- The service. -/
  | service
  /-- The connectors that are kept for hosts. -/
  | pool
  /-- The connector of this machine. -/
  | localHost
  /-- The connectors of remote hosts. -/
  | remoteHost
  /-- The sessions of the secure shell. -/
  | sessions
  /-- The listing of network links. -/
  | links
deriving DecidableEq

/-- **An event**: what the log is told. -/
structure Event where
  /-- Where it comes from. -/
  source : EventSource
  /-- How important it is. -/
  level : Level
  /-- What is said. -/
  message : String
deriving DecidableEq

/-- **An entry of a directory.** -/
structure DirEntry where
  /-- The name, without path. -/
  name : String
  /-- Whether the entry is a directory. -/
  isDir : Bool
deriving DecidableEq, Inhabited

/-- **What becomes of a worker** that carries out an operation. -/
inductive Fate where
  /-- It ends before its deadline. -/
  | inTime
  /-- It is still busy at its deadline. -/
  | late
  /-- It ends without a result. -/
  | gone
deriving DecidableEq

/-- **What at most one action holds at a time.** -/
inductive Lock where
  /-- The registry of hosts. -/
  | registry
  /-- The connectors that are kept for hosts. -/
  | connectors
  /-- The session of a connector. -/
  | session (connector : Nat)
  /-- The schemas that are loaded. -/
  | schemas
deriving DecidableEq

/-- **A request** of an action to its surroundings. -/
inductive Request where
  /-- The value of a variable of the environment. -/
  | environment (name : String)
  /-- The number of this process. -/
  | processId
  /-- The time, as text. -/
  | clock
  /-- All of standard input. -/
  | input
  /-- Text to standard output. -/
  | output (text : String)
  /-- Text to standard error. -/
  | report (text : String)
  /-- An event for the log. -/
  | event (event : Event)
  /-- Whether there is a file or directory. -/
  | isPresent (path : String)
  /-- The entries of a directory. -/
  | entries (path : String)
  /-- The content of a file. -/
  | load (path : String)
  /-- A new content for a file, which is made if it is missing. -/
  | save (path : String) (content : ByteArray)
  /-- More content at the end of a file, which is made if it is missing. -/
  | append (path : String) (content : ByteArray)
  /-- A directory, with those above it. -/
  | makeDirs (path : String)
  /-- No file any more. -/
  | remove (path : String)
  /-- Whether there is a program. -/
  | findProgram (name : String)
  /-- A program, run to its end, with or without something on its standard input. -/
  | run (program : String) (args : List String) (input : Option ByteArray)
  /-- A session with a host, opened by the surroundings. -/
  | connect (host : HostEntry)
  /-- A command on such a session. -/
  | exec (session : Nat) (command : String) (input : Option ByteArray)
  /-- Whether such a session can still carry commands. -/
  | isAlive (session : Nat)
  /-- A worker with a name. -/
  | startWorker (name : String)
  /-- The end of a worker, but no longer than some seconds. -/
  | awaitWorker (secs : Nat)
  /-- A lock, as soon as nobody else holds it. -/
  | acquire (lock : Lock)
  /-- A lock given back. -/
  | release (lock : Lock)

/-- **The replies** to a request. -/
abbrev Request.Reply : Request → Type
  | environment _ => Option String
  | processId => Nat
  | clock => String
  | input => ByteArray
  | output _ | report _ | event _ => Unit
  | isPresent _ => Bool
  | entries _ => Except Fault (List DirEntry)
  | load _ => Except Fault ByteArray
  | save _ _ | append _ _ | makeDirs _ | remove _ => Except Fault Unit
  | findProgram _ => Bool
  | run _ _ _ => Except Fault CommandResult
  | connect _ => Except ConnectorError Nat
  | exec _ _ _ => Except ConnectorError CommandResult
  | isAlive _ => Bool
  | startWorker _ => Except Fault Unit
  | awaitWorker _ => Fate
  | acquire _ | release _ => Unit

end NetUnits
