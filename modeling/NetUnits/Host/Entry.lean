import NetUnits.Fault
import NetUnits.Json.Printer
import NetUnits.Json.Record
import NetUnits.Text.Numeral
import NetUnits.Text.Quoted
import NetUnits.Text.Trim

/-!
# Entries of remote hosts

An entry says how a host is reached by `ssh`. Name and address must be given; neither address nor
user may be read as an option or as another destination.

* **`HostEntry`** — an entry; `HostEntry.ofJson?` and `HostEntry.toJson`.
* **`HostEntry.validate`** — whether it can be used.
* **`HostEntry.destination`** — `user@address`, or the address alone.
* **`HostError`** — what can be wrong with an entry or with the registry.
-/

namespace NetUnits

open NetUnits.Text

/-- The name that stands for this machine. -/
def localName : String := "local"

/-- **How a remote host is reached.** -/
structure HostEntry where
  /-- The name by which the host is chosen. -/
  name : String
  /-- Host name or address. -/
  address : String
  /-- Login name; empty for the client's own choice. -/
  user : String := ""
  /-- Port of the secure shell. -/
  port : Nat := 22
  /-- File of the private key. -/
  keyFile : Option String := none
deriving DecidableEq, Inhabited

/-- **What can be wrong with a host entry or the registry of hosts.** -/
inductive HostError where
  /-- The name stands for this machine. -/
  | reserved (name : String)
  /-- The name is blank. -/
  | emptyName
  /-- The client would misread a field of the entry. -/
  | invalidField (name field value : String)
  /-- The registry cannot be read or written. -/
  | io (path : String) (fault : Fault)
  /-- The registry is no list of entries. -/
  | invalidJson (path : String)
deriving DecidableEq

/-- The wording of an error. What a JSON reader says about a text is left open. -/
def HostError.message : HostError → String
  | .reserved name => s!"Host name '{name}' is reserved"
  | .emptyName => "Host name must not be empty"
  | .invalidField name field value => s!"Invalid {field} {quoted value} for host '{name}'"
  | .io path fault => s!"IO error on host registry {path}: {fault.message}"
  | .invalidJson path => s!"Invalid host registry {path}: <json>"

namespace HostEntry

/-- Whether a text can be a part of a destination: it does not begin with a dash, and holds no
`@`, blank or control character. -/
def isDestinationPart (text : String) : Bool :=
  let cs := text.toList
  cs.head? != some '-' && !cs.any fun c => c == '@' || isBlank c || isControl c

/-- **Whether an entry can be used**: its name is neither blank nor that of this machine, and
address and user are parts of a destination. -/
def validate (e : HostEntry) : Except HostError Unit :=
  if (trimChars e.name.toList).isEmpty then .error .emptyName
  else if e.name = localName then .error (.reserved e.name)
  else if e.address.isEmpty || !isDestinationPart e.address then
    .error (.invalidField e.name "address" e.address)
  else if !e.user.isEmpty && !isDestinationPart e.user then
    .error (.invalidField e.name "user" e.user)
  else .ok ()

/-- **The destination**: `user@address`, or the address alone. -/
def destination (e : HostEntry) : String :=
  if e.user.isEmpty then e.address else e.user ++ "@" ++ e.address

/-! ## As JSON -/

/-- The fields of an entry, in order. -/
def fieldNames : List String := ["name", "host", "user", "port", "key_file"]

/-- **The entry of a JSON record.** -/
def ofJson? (j : Json) : Option HostEntry := do
  let r ← j.record? fieldNames
  return {
    name := ← r.field? "name" Json.string?
    address := ← r.field? "host" Json.string?
    user := ← r.fieldOr "user" "" Json.string?
    port := ← r.fieldOr "port" 22 (Json.natUpTo? maxNat16)
    keyFile := ← r.fieldOr "key_file" none (Record.nullable Json.string?) }

/-- The JSON of an entry; a key file that is not set is left out. -/
def toJson (e : HostEntry) : Json :=
  .object ([("name", .string e.name), ("host", .string e.address), ("user", .string e.user),
    ("port", .int e.port)] ++
    match e.keyFile with
    | some file => [("key_file", .string file)]
    | none => [])

end HostEntry

end NetUnits
