import NetUnits.CommandLine.Parser
import NetUnits.Document.Summary
import NetUnits.Host.Entry

/-!
# Commands

* **`Command`** — what the program can be asked to do.
* **`Invocation`** — a command with the options that every command has.
* **`grammar`** — the command lines; **`Invocation.ofArgs`** the command of a command line.
-/

namespace NetUnits.CommandLine

open NetUnits.Text

/-- **What to convert.** -/
structure ConvertOptions where
  /-- The kind of configuration. -/
  kind : Kind
  /-- The generation of schemas; none for that of the host. -/
  schema : Option Nat
  /-- The input; none for standard input. -/
  input : Option String
deriving DecidableEq

/-- **What to do with configuration files.** -/
inductive FilesCommand where
  /-- List those of a kind, or of all. -/
  | list (kind : Option Kind) (criteria : MatchCriteria)
  /-- Show one as a document. -/
  | show (filename : String)
  /-- Print one as it is. -/
  | cat (filename : String)
  /-- Write one from a document or from text. -/
  | write (filename : String) (input : Option String) (raw : Bool)
  /-- Remove one. -/
  | delete (filename : String)

/-- **What to do with the global configuration.** -/
inductive GlobalCommand where
  /-- Show it as a document or as text. -/
  | show (raw : Bool)
  /-- Replace it. -/
  | set (input : Option String)

/-- **What to do with registered hosts.** -/
inductive HostsCommand where
  /-- List them. -/
  | list
  /-- Add or replace one. -/
  | add (entry : HostEntry)
  /-- Remove one. -/
  | remove (name : String)

/-- **What the program can be asked to do.** -/
inductive Command where
  /-- Make a document of text. -/
  | convert (options : ConvertOptions)
  /-- Make text of a document. -/
  | render (options : ConvertOptions)
  /-- Show which generation of schemas fits. -/
  | schemaVersion (detected : Option String)
  /-- Do something with configuration files. -/
  | files (command : FilesCommand)
  /-- Make a host use its configuration. -/
  | apply (devices : List String)
  /-- List the links. -/
  | links
  /-- Do something with the global configuration. -/
  | global (command : GlobalCommand)
  /-- Reload the configuration. -/
  | reload
  /-- Show the routing tables. -/
  | routes
  /-- Show the routing rules. -/
  | rules
  /-- Show the newest lines of the journal. -/
  | logs
  /-- Do something with registered hosts. -/
  | hosts (command : HostsCommand)
  /-- Show the version. -/
  | version

/-- The name of a command. -/
def Command.name : Command → String
  | convert _ => "convert"
  | render _ => "render"
  | schemaVersion _ => "schema-version"
  | files _ => "files"
  | apply _ => "apply"
  | links => "links"
  | global _ => "global"
  | reload => "reload"
  | routes => "routes"
  | rules => "rules"
  | logs => "logs"
  | hosts _ => "hosts"
  | version => "version"

/-- **A command with the options that every command has.** -/
structure Invocation where
  /-- The command. -/
  command : Command
  /-- Whether the console shows details. -/
  verbose : Bool
  /-- The settings file, if one is named. -/
  config : Option String
  /-- The host. -/
  host : String

/-! ## The grammar -/

/-- The switches of every verb. -/
def commonSwitches : List Switch :=
  [⟨"verbose", some 'v', .flag, false⟩, ⟨"config", some 'c', .value .path, false⟩,
    ⟨"host", some 'H', .value .text, false⟩, ⟨"help", some 'h', .help, false⟩]

/-- A verb without further ones. -/
def leaf (name : String) (switches : List Switch) (operands : List Operand) : Verb where
  name := name
  switches := switches ++ commonSwitches
  operands := operands

/-- A verb with further ones. -/
def branch (name : String) (verbs : List Verb) : Verb where
  name := name
  switches := commonSwitches
  verbs := verbs

/-- The operand for an input. -/
def inputOperand : Operand := ⟨"input", .path, false, false⟩

/-- An operand for a text that must be given. -/
def textOperand (name : String) : Operand := ⟨name, .text, true, false⟩

/-- The switches of conversions. -/
def convertSwitches : List Switch :=
  [⟨"kind", some 'k', .value .kind, true⟩, ⟨"schema", some 's', .value (.number maxNat32), false⟩]

/-- The verbs for configuration files. -/
def filesVerbs : List Verb :=
  [leaf "list" [⟨"kind", some 'k', .value .kind, false⟩, ⟨"name", none, .value .text, false⟩,
      ⟨"mac", none, .value .text, false⟩, ⟨"type", none, .value .text, false⟩] [],
    leaf "show" [] [textOperand "filename"],
    leaf "cat" [] [textOperand "filename"],
    leaf "write" [⟨"raw", none, .flag, false⟩] [textOperand "filename", inputOperand],
    leaf "delete" [] [textOperand "filename"]]

/-- The verbs for the global configuration. -/
def globalVerbs : List Verb :=
  [leaf "show" [⟨"raw", none, .flag, false⟩] [], leaf "set" [] [inputOperand]]

/-- The verbs for registered hosts. -/
def hostsVerbs : List Verb :=
  [leaf "list" [] [],
    leaf "add" [⟨"user", some 'u', .value .text, false⟩,
      ⟨"port", some 'p', .value (.number maxNat16), false⟩,
      ⟨"key-file", some 'i', .value .path, false⟩] [textOperand "name", textOperand "address"],
    leaf "remove" [] [textOperand "name"]]

/-- **The command lines of the program.** -/
def grammar : Verb where
  name := "networkd-manager"
  switches := commonSwitches ++ [⟨"version", some 'V', .version, false⟩]
  verbs := [leaf "convert" convertSwitches [inputOperand],
    leaf "render" convertSwitches [inputOperand],
    leaf "schema-version" [] [⟨"detected", .text, false, false⟩],
    branch "files" filesVerbs,
    leaf "apply" [] [⟨"devices", .text, false, true⟩],
    leaf "links" [] [],
    branch "global" globalVerbs,
    leaf "reload" [] [],
    leaf "routes" [] [],
    leaf "rules" [] [],
    leaf "logs" [] [],
    branch "hosts" hostsVerbs,
    leaf "version" [] []]

/-! ## From what is given -/

/-- The options of a conversion. -/
def ConvertOptions.ofGiven? (g : Given) : Option ConvertOptions := do
  return {
    kind := ← g.kind? "kind"
    schema := g.number? "schema" maxNat32
    input := g.value? "input" }

/-- The entry of a host to add. -/
def entryOfGiven? (g : Given) : Option HostEntry := do
  return {
    name := ← g.value? "name"
    address := ← g.value? "address"
    user := (g.value? "user").getD ""
    port := (g.number? "port" maxNat16).getD 22
    keyFile := g.value? "key-file" }

/-- The criteria of a listing. -/
def criteriaOfGiven (g : Given) : MatchCriteria where
  name := g.value? "name"
  mac := g.value? "mac"
  linkType := g.value? "type"

/-- **The command** that is given. -/
def Command.ofGiven? (g : Given) : Option Command :=
  match g.verbs with
  | ["convert"] => (ConvertOptions.ofGiven? g).map convert
  | ["render"] => (ConvertOptions.ofGiven? g).map render
  | ["schema-version"] => some (schemaVersion (g.value? "detected"))
  | ["files", "list"] => some (files (.list (g.kind? "kind") (criteriaOfGiven g)))
  | ["files", "show"] => (g.value? "filename").map fun name => files (.show name)
  | ["files", "cat"] => (g.value? "filename").map fun name => files (.cat name)
  | ["files", "write"] =>
    (g.value? "filename").map fun name => files (.write name (g.value? "input") (g.hasFlag "raw"))
  | ["files", "delete"] => (g.value? "filename").map fun name => files (.delete name)
  | ["apply"] => some (apply (g.valuesOf "devices"))
  | ["links"] => some links
  | ["global", "show"] => some (global (.show (g.hasFlag "raw")))
  | ["global", "set"] => some (global (.set (g.value? "input")))
  | ["reload"] => some reload
  | ["routes"] => some routes
  | ["rules"] => some rules
  | ["logs"] => some logs
  | ["hosts", "list"] => some (hosts .list)
  | ["hosts", "add"] => (entryOfGiven? g).map fun entry => hosts (.add entry)
  | ["hosts", "remove"] => (g.value? "name").map fun name => hosts (.remove name)
  | ["version"] => some version
  | _ => none

/-- **The command of a command line**, given without the name of the program. -/
def Invocation.ofArgs (args : List String) : Except Refusal Invocation := do
  let g ← grammar.scan {} args
  match Command.ofGiven? g with
  | none => .error .usage
  | some command =>
    return {
      command := command
      verbose := g.hasFlag "verbose"
      config := g.value? "config"
      host := (g.value? "host").getD localName }

end NetUnits.CommandLine
