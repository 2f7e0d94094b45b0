import NetUnits.Document.Summary
import NetUnits.Service.Basic

/-!
# Configuration files of hosts

* **`Service.list`** — the files of a kind, with summaries.
* **`Service.read`**, **`Service.write`** — files as documents.
* **`Service.readText`**, **`Service.writeText`** — files as text; **`Service.delete`**.
-/

namespace NetUnits.Service

/-! ## Listing -/

/-- The names of the files of a kind, in order. -/
def namesOf (kind : Kind) (entries : List DirEntry) : List String :=
  ((entries.filter fun e => !e.isDir && Kind.ofFilename? e.name == some kind).map
    DirEntry.name).mergeSort (· ≤ ·)

/-- The content of each file, as far as it can be read. -/
def readEach (c : Connector) : List String →
    Action PoolState (List (String × Except ConnectorError ByteArray))
  | [] => return []
  | name :: rest => do
    -- the files may be read at the same time; each content is that of its own file and stands in
    -- the place of its name, so reading them one after the other comes to the same
    let content ← c.read name
    return (name, content) :: (← readEach c rest)

/-- The files of a kind on a host, with their contents. -/
def readAll (kind : Kind) (c : Connector) :
    Action PoolState (Except ConnectorError (List (String × Except ConnectorError ByteArray))) :=
  c.entries.andThen fun entries => return .ok (← readEach c (namesOf kind entries))

/-- The document of the content of a file, or why there is none. -/
def summarized (s : Service) (generation : Generation) (kind : Kind) :
    Except ConnectorError ByteArray → Except String Document
  | .error e => .error e.message
  | .ok bytes =>
    match s.documentOf generation kind (Text.lenient bytes) with
    | .ok document => .ok document
    | .error e => .error e.message

/-- The criteria by which files of a kind are chosen, if there are any. -/
def filterOf (kind : Kind) (criteria : Option MatchCriteria) : Option MatchCriteria :=
  criteria.filter fun c => !c.isEmpty && kind != .netdev

/-- The summary of a file, unless the criteria leave it out. A file without a document is never
left out. -/
def summaryOf (kind : Kind) (filter : Option MatchCriteria) (name : String) :
    Except String Document → Action ServiceState (Option FileSummary)
  | .ok document =>
    -- without criteria nothing is left out
    if filter.any fun c => !c.accepts document then return none
    else return some ((FileSummary.bare name kind).describe document)
  | .error why => do
    Action.event .service .debug s!"{name}: no summary: {why}"
    return some (.bare name kind)

/-- The summaries of files that are not left out. -/
def summaries (s : Service) (generation : Generation) (kind : Kind)
    (filter : Option MatchCriteria) :
    List (String × Except ConnectorError ByteArray) → Action ServiceState (List FileSummary)
  | [] => return []
  | (name, content) :: rest => do
    -- this may go on for all files at the same time, too: a summary depends on one content only,
    -- and only the order of what the log is told could differ
    let first ← summaryOf kind filter name (s.summarized generation kind content)
    return first.toList ++ (← summaries s generation kind filter rest)

/-- **The files of a kind on a host**, in name order. Criteria leave out files that match none of
what they name. -/
def list (s : Service) (host : String) (kind : Kind) (criteria : Option MatchCriteria) :
    Action ServiceState (Except ServiceError (List FileSummary)) :=
  if kind.isFileKind then
    (s.hostGeneration host).andThen fun version =>
    (s.schemasOf version).andThen fun generation =>
    (s.call host (readAll kind)).andThen fun contents => do
      let files ← s.summaries generation kind (filterOf kind criteria) contents
      Action.event .service .debug s!"{hostKey host}: {files.length} {kind.name} file(s)"
      return .ok files
  else return .error (.unknownKind kind.name)

/-! ## Single files -/

/-- **The text of a file**; bytes that are not UTF-8 are replaced. -/
def readText (s : Service) (host filename : String) :
    Action ServiceState (Except ServiceError String) :=
  match Kind.ofSafeFilename filename with
  | .error e => return .error e
  | .ok _ => (s.call host (·.read filename)).andThen fun bytes => return .ok (Text.lenient bytes)

/-- **A new text for a file.** -/
def writeText (s : Service) (host filename text : String) :
    Action ServiceState (Except ServiceError Unit) :=
  match Kind.ofSafeFilename filename with
  | .error e => return .error e
  | .ok _ => (s.call host (·.write filename (Text.bytesOf text))).andThen fun _ => do
    Action.event .service .info s!"wrote {filename} on {hostKey host}"
    return .ok ()

/-- **The document of a file**, with its kind. -/
def read (s : Service) (host filename : String) :
    Action ServiceState (Except ServiceError (Kind × Document)) :=
  match Kind.ofSafeFilename filename with
  | .error e => return .error e
  | .ok kind =>
    (s.readText host filename).andThen fun text =>
    (s.hostGeneration host).andThen fun version =>
    (s.convert text kind version).andThen fun document => return .ok (kind, document)

/-- **A new document for a file.** -/
def write (s : Service) (host filename : String) (document : Document) :
    Action ServiceState (Except ServiceError Unit) :=
  match Kind.ofSafeFilename filename with
  | .error e => return .error e
  | .ok kind =>
    (s.hostGeneration host).andThen fun version =>
    (s.render document kind version).andThen fun text => s.writeText host filename text

/-- **Removes a file.** -/
def delete (s : Service) (host filename : String) :
    Action ServiceState (Except ServiceError Unit) :=
  match Kind.ofSafeFilename filename with
  | .error e => return .error e
  | .ok _ => (s.call host (·.delete filename)).andThen fun _ => do
    Action.event .service .info s!"deleted {filename} on {hostKey host}"
    return .ok ()

end NetUnits.Service
