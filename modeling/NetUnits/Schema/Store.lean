import NetUnits.Action.Files
import NetUnits.Json.Parser
import NetUnits.Path
import NetUnits.Schema.Generation
import NetUnits.Schema.Version
import NetUnits.Text.Numeral

/-!
# The store of schemas

Schemas are installed under one directory, a directory `v<number>` for each generation. Which
generations there are is found out once; a generation is loaded when it is first wanted, and then
kept.

* **`SchemaStore.openAt`** — the store of a directory.
* **`SchemaStore.resolve`** — the generation for what a host reports.
* **`SchemaStore.generation`** — a generation; **`SchemaStore.document`** a schema of it.
-/

namespace NetUnits

/-- **A store of schemas.** -/
structure SchemaStore where
  /-- The directory of the generations. -/
  directory : String
  /-- The generation assumed when nothing better is known. -/
  fallback : Nat
  /-- The generations that are installed, in ascending order. -/
  available : List Nat
deriving Inhabited

/-- The generations loaded so far, in the order in which they were loaded. -/
abbrev LoadedSchemas := List Generation

namespace SchemaStore

open NetUnits.Text

variable {σ : Type}

/-! ## Installed generations -/

/-- The generation of a directory name. -/
def generationOf? (name : String) : Option Nat :=
  match name.toList with
  | 'v' :: digits => natUpTo? maxNat32 digits
  | _ => none

/-- Adds a number at its place in an ascending list, unless it is there. -/
def insertAscending (n : Nat) : List Nat → List Nat
  | [] => [n]
  | m :: rest =>
    if n < m then n :: m :: rest else if n = m then m :: rest else m :: insertAscending n rest

/-- **The generations of directory entries**, in ascending order. -/
def generationsOf (entries : List DirEntry) : List Nat :=
  (entries.filterMap fun e => if e.isDir then generationOf? e.name else none).foldr
    insertAscending []

/-- The text of a list of generations. -/
def availableText (available : List Nat) : String :=
  "\x7b" ++ ", ".intercalate (available.map toString) ++ "\x7d"

/-- **The store of a directory**; if it cannot be listed, no generation is installed. -/
def openAt (directory : String) (fallback : Nat) : Action σ SchemaStore := do
  let available := match ← Action.request (.entries directory) with
    | .ok entries => generationsOf entries
    | .error _ => []
  if available.isEmpty then
    Action.event .schemas .warn s!"no schema generations found under {directory}"
  else
    Action.event .schemas .debug s!"schema generations under {directory}: {availableText available}"
  return { directory := directory, fallback := fallback, available := available }

/-- **The generation for what a host reports**, or for a version. -/
def resolve (store : SchemaStore) (report : String) : Nat :=
  Version.resolveReport report store.available store.fallback

/-! ## Loading -/

/-- The directory of a generation. -/
def directoryOf (store : SchemaStore) (version : Nat) : String :=
  Path.join store.directory s!"v{version}"

/-- The document of a file. -/
def documentOf (path : String) : Except Fault String → Except SchemaError Json
  | .error fault => .error (.unreadable path fault)
  | .ok text =>
    match Json.read? text with
    | some document => .ok document
    | none => .error (.invalidJson path)

/-- The document of a kind, if its file can be read; else the log says why not. -/
def loadDocument (store : SchemaStore) (version : Nat) (kind : Kind) : Action σ (Option Json) := do
  let path := Path.join (store.directoryOf version) kind.schemaFile
  match documentOf path (← Action.loadText path) with
  | .ok document => return some document
  | .error e =>
    Action.event .schemas .warn s!"schema for {kind.name} in v{version} unavailable: {e.message}"
    return none

/-- Says what the log should know of the types of a kind. -/
def reportIndex (kind : Kind) (document : Json) : Action σ Unit := do
  match SchemaIndex.ofSchema kind document with
  | .error e =>
    Action.event .schemaIndex .warn
      s!"using empty type index for {kind.name}: {e.message}"
  | .ok index =>
    for header in SchemaIndex.shapeless document do
      Action.event .schemaIndex .debug s!"{kind.name}: section {header} has no object shape"
    Action.event .schemaIndex .debug
      s!"{kind.name}: indexed {index.types.size} sections, {index.repeatable.size} repeatable"

/-- Says what the log should know of all kinds with a document. -/
def reportDocuments (documents : PerKind (Option Json)) : Action σ Unit := do
  for kind in Kind.all do
    match documents.get kind with
    | some document => reportIndex kind document
    | none => pure ()

/-- The documents of a generation. -/
def loadDocuments (store : SchemaStore) (version : Nat) : Action σ (PerKind (Option Json)) := do
  return {
    network := ← store.loadDocument version .network
    netdev := ← store.loadDocument version .netdev
    link := ← store.loadDocument version .link
    networkdConf := ← store.loadDocument version .networkdConf }

/-- Loads a generation and keeps it. -/
def loadGeneration (store : SchemaStore) (version : Nat) : Action LoadedSchemas Generation := do
  let documents ← store.loadDocuments version
  reportDocuments documents
  Action.event .schemas .info s!"loaded schema generation v{version}"
  Action.change fun loaded =>
    let generation := Generation.ofDocuments version loaded.length documents
    (generation, loaded ++ [generation])

/-- **A generation**, which must be installed. It is loaded at most once. -/
def generation (store : SchemaStore) (version : Nat) :
    Action LoadedSchemas (Except SchemaError Generation) :=
  if store.available.contains version then
    .withLock .schemas do
      match (← Action.look).find? (·.version == version) with
      | some generation =>
        Action.event .schemas .debug s!"schema generation v{version} served from cache"
        return .ok generation
      | none => return .ok (← store.loadGeneration version)
  else return .error (.unknownGeneration version)

/-- **The schema of a kind** in a generation. -/
def document (store : SchemaStore) (version : Nat) (kind : Kind) :
    Action LoadedSchemas (Except SchemaError Json) :=
  (store.generation version).andThen fun generation =>
    return match generation.document? kind with
      | some document => .ok document
      | none => .error (.missingProperties kind)

end SchemaStore

end NetUnits
