import NetUnits.Text.Class

/-!
# Kinds of configuration

systemd-networkd reads four kinds of configuration: `.network`, `.netdev` and `.link` files in one
directory, and one global file of its own.

* **`Kind`** — the four kinds, with their names, file extensions and schema files.
* **`Kind.ofName?`** — a kind by its name, in any letter case.
* **`Kind.ofFilename?`** — the kind of a file by its extension.
* **`Kind.ofSafeFilename?`** — the same, for names that stay inside the directory.
-/

namespace NetUnits

/-- **A kind of configuration.** -/
inductive Kind where
  /-- `.network` files. -/
  | network
  /-- `.netdev` files. -/
  | netdev
  /-- `.link` files. -/
  | link
  /-- The global `networkd.conf`. -/
  | networkdConf
deriving DecidableEq, Inhabited

namespace Kind

/-- Every kind, in the order in which schemas are loaded. -/
def all : List Kind := [network, netdev, link, networkdConf]

/-- The kinds that are stored as single files of the configuration directory. -/
def fileKinds : List Kind := [network, netdev, link]

/-- The name of a kind, in arguments and answers. -/
def name : Kind → String
  | network => "network"
  | netdev => "netdev"
  | link => "link"
  | networkdConf => "networkd-conf"

/-- The extension of the files of a kind, with its dot. -/
def extension : Kind → String
  | network => ".network"
  | netdev => ".netdev"
  | link => ".link"
  | networkdConf => ".conf"

/-- The file of a schema generation that describes a kind. -/
def schemaFile : Kind → String
  | network => "systemd.network.schema.json"
  | netdev => "systemd.netdev.schema.json"
  | link => "systemd.link.schema.json"
  | networkdConf => "systemd.networkd.conf.schema.json"

/-- Whether the files of a kind are stored in the configuration directory. -/
def isFileKind (kind : Kind) : Bool :=
  fileKinds.contains kind

/-- **The kind with a name**, whose ASCII letters may be in either case. -/
def ofName? (text : String) : Option Kind :=
  all.find? fun kind => Text.equalFold kind.name.toList text.toList

/-- The kind with exactly this name. -/
def ofExactName? (text : String) : Option Kind :=
  all.find? fun kind => kind.name == text

/-- Whether a file name is an extension with something before it. -/
def hasExtension (filename extension : String) : Bool :=
  extension.toList.length < filename.toList.length &&
    extension.toList.isSuffixOf filename.toList

/-- **The kind of a file**, by its extension. -/
def ofFilename? (filename : String) : Option Kind :=
  fileKinds.find? fun kind => hasExtension filename kind.extension

/-- Whether `..` occurs in a text. -/
def hasTwoDots : List Char → Bool
  | '.' :: '.' :: _ => true
  | _ :: cs => hasTwoDots cs
  | [] => false

/-- Whether a file name cannot lead out of its directory: it holds no `/`, no `..` and no NUL. -/
def staysInside (filename : String) : Bool :=
  let cs := filename.toList
  !cs.contains '/' && !hasTwoDots cs && !cs.contains '\x00'

/-- **The kind of a file in the configuration directory**: the name must stay inside and carry
the extension of a file kind. -/
def ofSafeFilename? (filename : String) : Option Kind :=
  if !filename.isEmpty && staysInside filename then ofFilename? filename else none

@[simp] theorem mem_all (kind : Kind) : kind ∈ all := by
  cases kind <;> decide

/-- Every name names its kind. -/
@[simp] theorem ofName?_name (kind : Kind) : ofName? kind.name = some kind := by
  cases kind <;> decide

@[simp] theorem ofExactName?_name (kind : Kind) : ofExactName? kind.name = some kind := by
  cases kind <;> decide

end Kind

end NetUnits
