import NetUnits.Action.Files
import NetUnits.Log.Filter
import NetUnits.Log.Line
import NetUnits.Path

/-!
# Where events go

* **`logPath`** — the log file of a command, in a directory of the cache that is made for it.
* **`LogSink`** — the console with a filter, and maybe a log file.
* **`LogSink.openFor`** — the sink of a command; **`LogSink.handle`** an event in it.
-/

namespace NetUnits

variable {σ : Type}

/-- The directory of cached files in this environment. -/
def cacheBase : Action σ String := do
  match ← Action.request (.environment "XDG_CACHE_HOME") with
  | some dir => return dir
  | none => return Path.join ((← Action.request (.environment "HOME")).getD ".") ".cache"

/-- **The log file of a command**, unless its directory cannot be made. -/
def logPath (command : String) : Action σ (Option String) := do
  let dir := Path.join (← cacheBase) "networkd-manager"
  match ← Action.request (.makeDirs dir) with
  | .ok _ => return some (Path.join dir (command ++ ".log"))
  | .error _ => return none

/-- **Where events go.** -/
structure LogSink where
  /-- What the console shows. -/
  filter : LogFilter
  /-- The log file, if it can be written. -/
  file : Option String

namespace LogSink

/-- Begins a log file anew. -/
def startFile (version path : String) : Action σ (Option String) := do
  let time ← Action.request .clock
  match ← Action.saveText path (logHeader version time) with
  | .ok _ => return some path
  | .error _ => return none

/-- **The sink of a command**: the console shows information, or also details. -/
def openFor (version command : String) (verbose : Bool) : Action σ LogSink := do
  let text := (← Action.request (.environment "RUST_LOG")).getD ""
  let filter := LogFilter.ofText text (if verbose then Level.rank .debug else Level.rank .info)
  for complaint in filter.complaints do
    Action.request (.report complaint)
  match ← logPath command with
  | none => return { filter := filter, file := none }
  | some path => return { filter := filter, file := ← startFile version path }

/-- **An event in a sink.** -/
def handle (sink : LogSink) (event : Event) : Action σ Unit := do
  if sink.filter.shows event then
    Action.request (.report (event.level.consoleLine event.message))
  match sink.file with
  | none => return ()
  | some path =>
    let time ← Action.request .clock
    let _ ← Action.appendText path (event.level.fileLine (timeOfDay time) event.message)
    return ()

end LogSink

end NetUnits
