import NetUnits.Document.Basic
import NetUnits.Json.Parser

/-!
# Documents as JSON

A document is an object of sections, a section an object of values or an array of such objects,
and a value a truth value, an integer of 64 bits, a string or an array of values. Nothing else is
a document; of repeated keys the last counts.

* **`Document.toJson`**, **`Document.ofJson?`** — between documents and JSON values.
* **`Document.read?`** — the document of a JSON text.
-/

namespace NetUnits

namespace Value

mutual

/-- The JSON of a value. -/
def toJson : Value → Json
  | bool b => .bool b
  | int i => .int i.toInt
  | text s => .string s
  | list items => .array (toJsonItems items)

/-- The JSON of each value of a list. -/
def toJsonItems : List Value → List Json
  | [] => []
  | v :: rest => toJson v :: toJsonItems rest

end

mutual

/-- **The value of a JSON value**, if it has the form of one. -/
def ofJson? : Json → Option Value
  | .bool b => some (bool b)
  | .int i => if Text.fitsInt64 i then some (int (Int64.ofInt i)) else none
  | .string s => some (text s)
  | .array items => (ofJsonItems? items).map list
  | _ => none

/-- The values of a list of JSON values. -/
def ofJsonItems? : List Json → Option (List Value)
  | [] => some []
  | j :: rest => do
    let v ← ofJson? j
    let vs ← ofJsonItems? rest
    return v :: vs

end

end Value

namespace Block

/-- The JSON of a block. -/
def toJson (b : Block) : Json :=
  .object (b.entries.map fun e => (e.1, e.2.toJson))

/-- **The block of a JSON object** of values. -/
def ofJson? : Json → Option Block
  | .object members =>
    (members.mapM fun (m : String × Json) => (Value.ofJson? m.2).map (m.1, ·)).map Dict.ofList
  | _ => none

end Block

namespace Document

/-- The JSON of a section. -/
def Section.toJson : Document.Section → Json
  | .single block => block.toJson
  | .repeated blocks => .array (blocks.map Block.toJson)

/-- **The section of a JSON value**: a block, or an array of blocks. -/
def Section.ofJson? : Json → Option Document.Section
  | .object members => (Block.ofJson? (.object members)).map .single
  | .array items => (items.mapM Block.ofJson?).map .repeated
  | _ => none

/-- The JSON of a document. -/
def toJson (d : Document) : Json :=
  .object (d.entries.map fun e => (e.1, e.2.toJson))

/-- **The document of a JSON object** of sections. -/
def ofJson? : Json → Option Document
  | .object members =>
    (members.mapM fun (m : String × Json) => (Section.ofJson? m.2).map (m.1, ·)).map Dict.ofList
  | _ => none

/-- **The document of a JSON text.** -/
def read? (text : String) : Option Document :=
  (Json.read? text).bind ofJson?

end Document

end NetUnits
