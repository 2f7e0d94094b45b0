import NetUnits.Json.Parser
import NetUnits.Json.Record
import NetUnits.Text.Lines
import NetUnits.Text.Numeral

/-!
# Network links

`networkctl list` prints the links of a host as JSON, or as a table; `ip -j addr` prints their
addresses.

* **`Link`** — a link.
* **`Link.ofJsonListing?`**, **`Link.ofTextListing`** — the links of either listing.
* **`Link.addressesOf?`** — the addresses by link number.
* **`Link.withAddresses`** — links with their addresses.
-/

namespace NetUnits

open NetUnits.Text

/-- **A network link.** -/
structure Link where
  /-- The number of the interface. -/
  index : Nat
  /-- The name of the interface. -/
  name : String
  /-- The operational state. -/
  state : String := ""
  /-- The `.network` file that applies to the link. -/
  networkFile : Option String := none
  /-- The addresses, with their lengths. -/
  addresses : List String := []
deriving DecidableEq, Inhabited

namespace Link

/-! ## The JSON listing -/

/-- The fields of a link in a listing, in order. -/
def fieldNames : List String := ["Index", "Name", "OperationalState", "NetworkFile"]

/-- The link of a JSON record; an empty file name is none. -/
def ofJson? (j : Json) : Option Link := do
  let r ← j.record? fieldNames
  let file ← r.fieldOr "NetworkFile" none (Record.nullable Json.string?)
  return {
    index := ← r.field? "Index" (Json.natUpTo? maxNat32)
    name := ← r.field? "Name" Json.string?
    state := ← r.fieldOr "OperationalState" "" Json.string?
    networkFile := file.filter (!·.isEmpty) }

/-- The links of a JSON array. -/
def ofArray? (j : Json) : Option (List Link) :=
  j.items?.bind fun items => items.mapM ofJson?

/-- The links of a JSON value: the array under `Interfaces` of an object, or a bare array. Here an
array is never the object's fields in order. -/
def ofListing? : Json → Option (List Link)
  | .array items => items.mapM ofJson?
  | j => (j.record? ["Interfaces"]).bind (·.field? "Interfaces" ofArray?)

/-- **The links of a JSON listing.** -/
def ofJsonListing? (output : String) : Option (List Link) :=
  (Json.read? output).bind ofListing?

/-- What is said in place of the words of a JSON reader. -/
def jsonComplaint : String := "<json>"

/-- **What is said of an output that is no JSON listing.** A value of another form is found before
what follows it is looked at. -/
def listingComplaint (output : String) : String :=
  if (Json.readFirst? output).any fun j => (ofListing? j).isNone then
    "data did not match any variant of untagged enum NetworkctlList"
  else jsonComplaint

/-! ## The table -/

/-- The link of a row: number, name, type, operational state and setup, and maybe more. -/
def ofRow? (row : List Char) : Option Link :=
  match wordsOf row with
  | index :: name :: _ :: state :: _ :: _ =>
    ((natUpTo? maxNat32 index).filter (0 < ·)).map fun index =>
      { index, name := String.ofList name, state := String.ofList state }
  | _ => none

/-- **The links of a table.** Rows that are too short or have no positive number do not count. -/
def ofTextListing (output : String) : List Link :=
  (linesOf output.toList).filterMap ofRow?

/-! ## Addresses -/

/-- The text of an address, if there is one: with its length, if that is known. -/
def addressOf? (j : Json) : Option (Option String) := do
  let r ← j.record? ["local", "prefixlen"]
  let address ← r.nullableField? "local" Json.string?
  let length ← r.nullableField? "prefixlen" (Json.natUpTo? maxNat8)
  return address.map fun a =>
    match length with
    | some n => a ++ "/" ++ toString n
    | none => a

/-- The addresses of a JSON array. -/
def addressList? (j : Json) : Option (List String) :=
  j.items?.bind fun items => (items.mapM addressOf?).map (·.filterMap id)

/-- The number of an interface with its addresses. -/
def interfaceOf? (j : Json) : Option (Nat × List String) := do
  let r ← j.record? ["ifindex", "addr_info"]
  let index ← r.field? "ifindex" (Json.natUpTo? maxNat32)
  let addresses ← r.fieldOr "addr_info" [] addressList?
  return (index, addresses)

/-- **The addresses by link number**, in the order of the listing. -/
def addressesOf? (output : String) : Option (List (Nat × List String)) :=
  ((Json.parse? output).bind Json.items?).bind fun items => items.mapM interfaceOf?

/-- The addresses of a link number: those of its last entry. -/
def addressesAt? (index : Nat) : List (Nat × List String) → Option (List String)
  | [] => none
  | (i, addresses) :: rest =>
    (addressesAt? index rest).or (if i = index then some addresses else none)

/-- A link with the addresses of its number, if there are any. -/
def withAddresses (table : List (Nat × List String)) (link : Link) : Link :=
  match addressesAt? link.index table with
  | some addresses => { link with addresses }
  | none => link

/-- The JSON of a link; a file that is not known is left out. -/
def toJson (link : Link) : Json :=
  .object ([("index", .int link.index), ("name", .string link.name),
    ("operational_state", .string link.state)] ++
    (match link.networkFile with
      | some file => [("network_file", .string file)]
      | none => []) ++
    [("addresses", .array (link.addresses.map .string))])

end Link

end NetUnits
