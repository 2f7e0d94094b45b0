import NetUnits.Action.Files
import NetUnits.Dict
import NetUnits.Host.Entry
import NetUnits.Json.Parser
import NetUnits.Json.Printer
import NetUnits.Path

/-!
# The registry of hosts

The remote hosts are kept by name, and in a JSON file from which they are read again. A change
that cannot be written is undone.

* **`Registry`** — the hosts, and where they are kept.
* **`Registry.load`** — the registry of a data directory.
* **`Registry.get`**, **`Registry.list`**, **`Registry.add`**, **`Registry.remove`** — its use;
  **`Registry.addition`**, **`Registry.removal`** — what is done under the lock.
-/

namespace NetUnits

/-- **The registry of hosts.** -/
structure Registry where
  /-- The file in which the hosts are kept. -/
  path : String
  /-- The hosts by name. -/
  hosts : Dict HostEntry := ∅
deriving Inhabited

namespace Registry

variable {σ : Type}

/-- The name of the file in the data directory. -/
def filename : String := "hosts.json"

/-! ## Text of the file -/

/-- **The entries of a text**: a JSON array of records. -/
def entriesOf? (text : String) : Option (List HostEntry) :=
  ((Json.parse? text).bind Json.items?).bind fun items => items.mapM HostEntry.ofJson?

/-- **The text of hosts**: a JSON array in name order, over several lines. -/
def textOf (hosts : Dict HostEntry) : String :=
  (Json.array (hosts.values.map HostEntry.toJson)).pretty ++ "\n"

/-- Whether an entry can be used. -/
def isUsable (e : HostEntry) : Bool :=
  match e.validate with
  | .ok _ => true
  | .error _ => false

/-- **The hosts of a list of entries**: those that can be used, the last with a name. -/
def hostsOf (entries : List HostEntry) : Dict HostEntry :=
  Dict.ofList ((entries.filter isUsable).map fun e => (e.name, e))

/-! ## Loading -/

/-- Says of each entry that cannot be used why it is left out. -/
def reportUnusable (path : String) : List HostEntry → Action σ Unit
  | [] => return ()
  | e :: rest => do
    match e.validate with
    | .ok _ => pure ()
    | .error why => Action.event .registry .warn s!"skipping entry in {path}: {why.message}"
    reportUnusable path rest

/-- The registry of the content of its file. -/
def ofContent (path : String) : Except Fault String → Action σ (Except HostError Registry)
  | .error fault => return .error (.io path fault)
  | .ok text =>
    match entriesOf? text with
    | none => return .error (.invalidJson path)
    | some entries => do
      reportUnusable path entries
      return .ok { path := path, hosts := hostsOf entries }

/-- **The registry of a data directory**; without a file it is empty. -/
def load (dir : String) : Action σ (Except HostError Registry) := do
  let path := Path.join dir filename
  if ← Action.request (.isPresent path) then
    ofContent path (← Action.loadText path)
  else
    Action.event .registry .debug s!"no host registry at {path}"
    return .ok { path := path }

/-! ## Use -/

/-- The host with a name. -/
def get (name : String) : Action Registry (Option HostEntry) :=
  .withLock .registry (return (← Action.look).hosts.get? name)

/-- All hosts, in name order. -/
def list : Action Registry (List HostEntry) :=
  .withLock .registry (return (← Action.look).hosts.values)

/-- Writes the hosts to the file, in a directory that is made if it is missing. -/
def persist : Action Registry (Except HostError Unit) := do
  let r ← Action.look
  match ← Action.request (.makeDirs (Path.parent r.path)) with
  | .error fault => return .error (.io r.path fault)
  | .ok _ =>
    match ← Action.saveText r.path (textOf r.hosts) with
    | .error fault => return .error (.io r.path fault)
    | .ok _ => return .ok ()

/-- Holds an entry under a name, and gives the entry that it replaces, if there was one. -/
def put (name : String) (e : HostEntry) : Action Registry (Option HostEntry) :=
  Action.change fun r => (r.hosts.get? name, { r with hosts := r.hosts.insert name e })

/-- Takes the entry under a name away, and gives it, if there was one. -/
def take (name : String) : Action Registry (Option HostEntry) :=
  Action.change fun r => (r.hosts.get? name, { r with hosts := r.hosts.erase name })

/-- Undoes that an entry is held under a name: the one that it has replaced is held again, or the
name is taken away again. -/
def putBack (name : String) : Option HostEntry → Action Registry (Option HostEntry)
  | some old => put name old
  | none => take name

/-- **What is done under the lock to add a host.** If the hosts cannot be written, the addition is
undone. -/
def addition (e : HostEntry) : Action Registry (Except HostError Unit) := do
  let previous ← put e.name e
  match ← persist with
  | .error why =>
    let _ ← putBack e.name previous
    return .error why
  | .ok _ =>
    Action.event .registry .info s!"registered host {e.name}"
    return .ok ()

/-- **Adds a host**, or replaces the one with its name. The entry must be usable. -/
def add (e : HostEntry) : Action Registry (Except HostError Unit) :=
  match e.validate with
  | .error why => return .error why
  | .ok _ => .withLock .registry (addition e)

/-- **What is done under the lock to remove a host.** If the hosts cannot be written, the entry that
was taken away is held again. -/
def removal (name : String) : Action Registry (Except HostError Bool) := do
  match ← take name with
  | none => return .ok false
  | some removed =>
    match ← persist with
    | .error why =>
      let _ ← put name removed
      return .error why
    | .ok _ =>
      Action.event .registry .info s!"removed host {name}"
      return .ok true

/-- **Removes a host**, and says whether there was one with the name. -/
def remove (name : String) : Action Registry (Except HostError Bool) :=
  .withLock .registry (removal name)

end Registry

end NetUnits
