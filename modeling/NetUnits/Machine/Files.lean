import NetUnits.Action.Request
import NetUnits.Dict
import NetUnits.Path

/-!
# A tree of files

A **file tree** maps absolute paths, written without empty parts, to files and directories. Its
operations answer as a file system does, without links and without permissions: names on the way
must be directories, and the fault says what was met instead.

* **`FileTree.locate`** — where a path leads.
* **`FileTree.load`**, **`FileTree.save`**, **`FileTree.append`**, **`FileTree.remove`** — files.
* **`FileTree.entries`**, **`FileTree.makeDirs`** — directories.
-/

namespace NetUnits

/-- **What a path leads to.** -/
inductive Node where
  /-- A file with its content. -/
  | file (content : ByteArray)
  /-- A directory. -/
  | directory
deriving DecidableEq, Inhabited

/-- **A tree of files**: what stands at each path below the root directory. -/
abbrev FileTree := Dict Node

/-- **The place that a path leads to**: its written form, and what stands there. -/
structure Place where
  /-- The absolute path without empty parts; empty for the root directory. -/
  path : String
  /-- What stands there, if anything. -/
  node : Option Node

namespace FileTree

/-- The longest name in a directory, in bytes. -/
def maxName : Nat := 255

/-- The longest path, in bytes. -/
def maxPath : Nat := 4095

/-- A name in a directory. -/
def child (dir name : String) : String :=
  dir ++ "/" ++ name

/-- The directory around a path. -/
def parent (path : String) : String :=
  String.ofList ((path.toList.reverse.dropWhile (· != '/')).drop 1).reverse

/-- What stands at a path that is written without empty parts. -/
def at? (tree : FileTree) (path : String) : Option Node :=
  if path.isEmpty then some .directory else tree.get? path

/-- The place that the steps of a path lead to from a directory. All but the last must lead to
directories. -/
def locateFrom (tree : FileTree) (dir : String) : List String → Except Fault Place
  | [] => .ok ⟨dir, some .directory⟩
  | name :: rest =>
    if name = "." then locateFrom tree dir rest
    else if name = ".." then locateFrom tree (parent dir) rest
    else if maxName < name.utf8ByteSize then .error .nameTooLong
    else
      match tree.at? (child dir name), rest with
      | some .directory, rest => locateFrom tree (child dir name) rest
      | node, [] => .ok ⟨child dir name, node⟩
      | some (.file _), _ :: _ => .error .notDirectory
      | none, _ :: _ => .error .notFound

/-- Whether the system accepts a path at all. -/
def checkPath (path : String) : Except Fault Unit :=
  if path.toList.contains '\x00' then .error .nulInPath
  else if path.isEmpty then .error .notFound
  else if maxPath < path.utf8ByteSize then .error .nameTooLong
  else .ok ()

/-- The place that a path leads to, whether or not the path ends with a slash. -/
def reach (tree : FileTree) (path : String) : Except Fault Place := do
  checkPath path
  locateFrom tree "" (Path.steps path)

/-- **The place that a path leads to.** The path of a file cannot end with a slash. -/
def locate (tree : FileTree) (path : String) : Except Fault Place := do
  let place ← tree.reach path
  match place.node with
  | some (.file _) => if path.endsWith "/" then .error .notDirectory else .ok place
  | _ => .ok place

/-- Whether there is a file or directory at a path. -/
def isPresent (tree : FileTree) (path : String) : Bool :=
  match tree.locate path with
  | .ok place => place.node.isSome
  | .error _ => false

/-- **The content of a file.** -/
def load (tree : FileTree) (path : String) : Except Fault ByteArray := do
  let place ← tree.locate path
  match place.node with
  | some (.file content) => .ok content
  | some .directory => .error .isDirectory
  | none => .error .notFound

/-- The tree with a file whose content is made from the one before, if there was one. What ends
with a slash is taken for a directory, whatever stands there. -/
def write (tree : FileTree) (path : String) (content : Option ByteArray → ByteArray) :
    Except Fault FileTree := do
  let place ← tree.reach path
  if path.endsWith "/" then .error .isDirectory
  else
    match place.node with
    | some (.file before) => .ok (tree.insert place.path (.file (content (some before))))
    | some .directory => .error .isDirectory
    | none => .ok (tree.insert place.path (.file (content none)))

/-- **The tree with a new content for a file.** -/
def save (tree : FileTree) (path : String) (content : ByteArray) : Except Fault FileTree :=
  tree.write path fun _ => content

/-- **The tree with more content at the end of a file.** -/
def append (tree : FileTree) (path : String) (content : ByteArray) : Except Fault FileTree :=
  tree.write path fun before => (before.getD .empty) ++ content

/-- **The tree without a file.** -/
def remove (tree : FileTree) (path : String) : Except Fault FileTree := do
  let place ← tree.locate path
  match place.node with
  | some (.file _) => .ok (tree.erase place.path)
  | some .directory => .error .isDirectory
  | none => .error .notFound

/-- The name of a path in a directory, if it stands there directly. -/
def nameIn? (dir path : String) : Option String :=
  let lead := (dir ++ "/").toList
  let cs := path.toList
  if lead.isPrefixOf cs then
    let name := cs.drop lead.length
    if name.isEmpty || name.contains '/' then none else some (String.ofList name)
  else none

/-- The entries of a directory at a path written without empty parts, in name order. -/
def entriesAt (tree : FileTree) (dir : String) : List DirEntry :=
  (Dict.entries tree).filterMap fun e =>
    (nameIn? dir e.1).map fun name => ⟨name, decide (e.2 = .directory)⟩

/-- **The entries of a directory**, in name order. -/
def entries (tree : FileTree) (path : String) : Except Fault (List DirEntry) := do
  let place ← tree.locate path
  match place.node with
  | some .directory => .ok (tree.entriesAt place.path)
  | some (.file _) => .error .notDirectory
  | none => .error .notFound

/-- The tree with one new directory, where nothing stands yet. -/
def makeDir (tree : FileTree) (path : String) : Except Fault FileTree := do
  let place ← tree.reach path
  match place.node with
  | some _ => .error .alreadyExists
  | none => .ok (tree.insert place.path .directory)

/-- Whether a path leads to a directory. -/
def isDirectory (tree : FileTree) (path : String) : Bool :=
  match tree.locate path with
  | .ok place => place.node = some .directory
  | .error _ => false

/-- The tree with a directory that may stand there already, and what stopped it. -/
def ensureDir (tree : FileTree) (path : String) : FileTree × Option Fault :=
  match tree.makeDir path with
  | .ok tree => (tree, none)
  | .error fault =>
    if fault = .alreadyExists && tree.isDirectory path then (tree, none) else (tree, some fault)

/-- The tree with a directory, and with those around it as far as they are missing; of those
around it, at most so many are tried. -/
def ensureDirs (tree : FileTree) : Nat → String → FileTree × Option Fault
  | 0, path => tree.ensureDir path
  | around + 1, path =>
    match tree.ensureDir path with
    | (tree, some .notFound) =>
      match tree.ensureDirs around (Path.parent path) with
      -- where a path goes on after its last name, the directory around it is not enough
      | (tree, none) => tree.ensureDir path
      | stopped => stopped
    | reached => reached

/-- **The tree with a directory and all above it**, as far as they can be made, and what stopped
it. -/
def makeDirs (tree : FileTree) (path : String) : FileTree × Option Fault :=
  if path.isEmpty then (tree, none) else tree.ensureDirs (Path.steps path).length path

/-- The tree without what stands at a path or below it. -/
def removeAll (tree : FileTree) (path : String) : FileTree :=
  match tree.locate path with
  | .error _ => tree
  | .ok place => tree.filter fun key _ =>
    key != place.path && !(place.path ++ "/").toList.isPrefixOf key.toList

end FileTree

end NetUnits
