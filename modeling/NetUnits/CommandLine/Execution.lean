import NetUnits.CommandLine.Command
import NetUnits.CommandLine.Console
import NetUnits.Document.Json
import NetUnits.Service.Files
import NetUnits.Service.System

/-!
# Carrying out commands

* **`Command.execute`** — a command on a service.
* **`Invocation.execute`** — a command with settings and a service of its own.
-/

namespace NetUnits.CommandLine

variable {α : Type}

/-- An operation of the service. -/
def ofService (x : Action ServiceState (Except ServiceError α)) :
    Action ServiceState (Except CommandError α) := do
  match ← x with
  | .ok a => return .ok a
  | .error e => return .error (.service e)

/-- Prints a result as text. -/
def showText (x : Action ServiceState (Except ServiceError String)) :
    Action ServiceState (Except CommandError Unit) :=
  (ofService x).andThen fun text => do return .ok (← printText text)

/-- Prints a result as JSON. -/
def showJson (toJson : α → Json) (x : Action ServiceState (Except ServiceError α)) :
    Action ServiceState (Except CommandError Unit) :=
  (ofService x).andThen fun a => do return .ok (← printJson (toJson a))

/-- Says what was done. -/
def announce (source : EventSource) (message : String) :
    Action ServiceState (Except CommandError Unit) := do
  Action.event source .info message
  return .ok ()

/-! ## Conversion -/

/-- The document of a text in JSON. -/
def documentOf (text : String) : Except CommandError Document :=
  match (Json.read? text).bind Document.ofJson? with
  | some document => .ok document
  | none => .error .notDocument

/-- The generation of schemas for a conversion. -/
def generationFor (s : Service) (host : String) (options : ConvertOptions) :
    Action ServiceState (Except CommandError Nat) :=
  match options.schema with
  | some generation => return .ok generation
  | none => ofService (s.hostGeneration host)

/-- Makes a document of the input. -/
def convert (s : Service) (host : String) (options : ConvertOptions) :
    Action ServiceState (Except CommandError Unit) :=
  Action.andThen (readInput options.input) fun text =>
  (generationFor s host options).andThen fun version =>
  showJson Document.toJson (s.convert text options.kind version)

/-- Makes text of the input. -/
def render (s : Service) (host : String) (options : ConvertOptions) :
    Action ServiceState (Except CommandError Unit) :=
  Action.andThen (readInput options.input) fun text =>
  Action.andThen (return documentOf text) fun document =>
  (generationFor s host options).andThen fun version =>
  showText (s.render document options.kind version)

/-- What is shown of the generation that fits a host or a version. -/
def versionJson (s : Service) (host detected : Option String) (generation : Nat) : Json :=
  let text (o : Option String) := match o with
    | some t => Json.string t
    | none => .null
  .object [("host", text host), ("detected", text detected), ("generation", .int generation),
    ("available", .array (s.store.available.map fun (n : Nat) => .int n))]

/-- Shows the generation that fits a version or the host. -/
def schemaVersion (s : Service) (host : String) (detected : Option String) :
    Action ServiceState (Except CommandError Unit) :=
  match detected with
  | some version => do
    return .ok (← printJson (versionJson s none (some version) (s.store.resolve version)))
  | none => showJson (versionJson s (some host) none) (s.hostGeneration host)

/-! ## Files -/

/-- The order of a listing of several kinds. -/
def byFilename (a b : FileSummary) : Bool :=
  a.filename ≤ b.filename

/-- The files of a kind or of all kinds, in name order. -/
def listFiles (s : Service) (host : String) (kind : Option Kind) (criteria : MatchCriteria) :
    Action ServiceState (Except ServiceError (List FileSummary)) :=
  let kinds := match kind with
    | some kind => [kind]
    | none => Kind.fileKinds
  (Action.forEach (fun kind => s.list host kind (some criteria)) kinds).andThen fun files =>
    return .ok (files.flatten.mergeSort byFilename)

/-- Writes a file from the input. -/
def writeFile (s : Service) (host filename : String) (input : Option String) (raw : Bool) :
    Action ServiceState (Except CommandError Unit) :=
  Action.andThen (readInput input) fun text =>
  let written := if raw then ofService (s.writeText host filename text)
    else Action.andThen (return documentOf text) fun document =>
      ofService (s.write host filename document)
  written.andThen fun _ => announce .fileCommands s!"wrote {filename}"

/-- Does something with configuration files. -/
def FilesCommand.execute (s : Service) (host : String) : FilesCommand →
    Action ServiceState (Except CommandError Unit)
  | .list kind criteria =>
    showJson (fun files => .array (files.map FileSummary.toJson)) (listFiles s host kind criteria)
  | .show filename => showJson (fun r => r.2.toJson) (s.read host filename)
  | .cat filename => showText (s.readText host filename)
  | .write filename input raw => writeFile s host filename input raw
  | .delete filename =>
    (ofService (s.delete host filename)).andThen fun _ =>
      announce .fileCommands s!"deleted {filename}"

/-! ## The system -/

/-- What is said when a host uses its configuration. -/
def appliedText (host : String) (devices : List String) : String :=
  if devices.isEmpty then s!"reloaded systemd-networkd on {host}"
  else "reconfigured " ++ ", ".intercalate devices

/-- Makes the host use its configuration. -/
def apply (s : Service) (host : String) (devices : List String) :
    Action ServiceState (Except CommandError Unit) :=
  (ofService (s.apply host devices)).andThen fun _ =>
    announce .systemCommands (appliedText host devices)

/-- Does something with the global configuration. -/
def GlobalCommand.execute (s : Service) (host : String) : GlobalCommand →
    Action ServiceState (Except CommandError Unit)
  | .show true => showText (s.global host)
  | .show false => showJson Document.toJson (s.globalDocument host)
  | .set input =>
    Action.andThen (readInput input) fun text =>
    (ofService (s.setGlobal host text)).andThen fun _ =>
    announce .systemCommands s!"updated networkd.conf on {host}"

/-! ## Hosts -/

/-- A change of the registry. -/
def ofRegistry (x : Action Registry (Except HostError α)) :
    Action ServiceState (Except CommandError α) := do
  match ← Service.onRegistry x with
  | .ok a => return .ok a
  | .error e => return .error (.registry e)

/-- Does something with registered hosts. A host that changed is forgotten by the service. -/
def HostsCommand.execute : HostsCommand → Action ServiceState (Except CommandError Unit)
  | .list => do
    let hosts ← Service.onRegistry Registry.list
    return .ok (← printJson (.array (hosts.map HostEntry.toJson)))
  | .add entry => (ofRegistry (Registry.add entry)).andThen fun _ => do
    return .ok (← Service.invalidate entry.name)
  | .remove name => (ofRegistry (Registry.remove name)).andThen fun wasThere =>
    if wasThere then do return .ok (← Service.invalidate name)
    else return .error (.notRegistered name)

/-! ## All commands -/

/-- The version of the program. -/
def programVersion : String := "0.1.0"

/-- Shows the version. -/
def printVersion {σ : Type} : Action σ Unit :=
  printText s!"networkd-manager {programVersion}"

/-- **A command on a service.** -/
def Command.execute (s : Service) (host : String) : Command →
    Action ServiceState (Except CommandError Unit)
  | .convert options => CommandLine.convert s host options
  | .render options => CommandLine.render s host options
  | .schemaVersion detected => CommandLine.schemaVersion s host detected
  | .files command => command.execute s host
  | .apply devices => CommandLine.apply s host devices
  | .links => showJson (fun links => .array (links.map Link.toJson)) (s.links host)
  | .global command => command.execute s host
  | .reload => showText (s.reload host)
  | .routes => showText (s.routes host)
  | .rules => showText (s.rules host)
  | .logs => showText (s.logs host)
  | .hosts command => command.execute
  | .version => do return .ok (← printVersion)

/-- The variable that names the settings file. -/
def settingsVariable : String := "NETWORKD_MANAGER_CONFIG"

/-- The settings file: the one that is named, else that of the environment, else the default. -/
def settingsPath {σ : Type} (named : Option String) : Action σ String :=
  match named with
  | some path => return path
  | none => do return (← Action.request (.environment settingsVariable)).getD Settings.defaultPath

/-- The service for a command. -/
def startService (config : Option String) : Action ServiceState (Except CommandError Service) := do
  let path ← settingsPath config
  match ← Settings.load path with
  | .error f => return .error (.settings f)
  | .ok settings => do
    Action.event .commands .debug s!"settings from {path}"
    Action.event .commands .debug s!"schema directory {settings.schemaDir}"
    ofService (Service.start settings)

/-- **A command with settings and a service of its own**, which ends with the command. -/
def Invocation.execute (i : Invocation) : Action ServiceState (Except CommandError Unit) :=
  (startService i.config).andThen fun s => do
    let result ← i.command.execute s i.host
    Service.shutDown
    return result

end NetUnits.CommandLine
