import NetUnits.Json.Basic

/-!
# Records in JSON

A record has known fields in a known order. It is written as an object, whose unknown members do
not count, or as an array of its fields in order.

* **`Json.record?`** — the fields of a record; a known field may not be repeated, and an array may
  not be longer than the fields.
* **`Record.field?`** — a field that must be there; **`Record.fieldOr`** one with a default.
-/

namespace NetUnits

/-- **The fields of a record** that are given. -/
structure Record where
  /-- Whether the record is written as an array. -/
  positional : Bool
  /-- The fields that are given, by name. -/
  fields : List (String × Json)

/-- Whether no name occurs twice. -/
def Json.distinctNames : List String → Bool
  | [] => true
  | name :: rest => !rest.contains name && distinctNames rest

/-- **The record** with the given field names that a value writes. -/
def Json.record? (names : List String) : Json → Option Record
  | .object members =>
    let known := members.filter fun m => names.contains m.1
    if distinctNames (known.map (·.1)) then some ⟨false, known⟩ else none
  | .array items => if items.length ≤ names.length then some ⟨true, names.zip items⟩ else none
  | _ => none

namespace Record

variable {α : Type}

/-- **A field that must be there.** -/
def field? (r : Record) (name : String) (decode : Json → Option α) : Option α :=
  (Json.lastOf? name r.fields).bind decode

/-- **A field with a default**: if it is there, it must have its form. -/
def fieldOr (r : Record) (name : String) (fallback : α) (decode : Json → Option α) : Option α :=
  match Json.lastOf? name r.fields with
  | some j => decode j
  | none => some fallback

/-- Decodes a value that may be `null`. -/
def nullable (decode : Json → Option α) : Json → Option (Option α)
  | .null => some none
  | j => (decode j).map some

/-- A field without a default that may be `null`: an object may leave it out, an array may not. -/
def nullableField? (r : Record) (name : String) (decode : Json → Option α) :
    Option (Option α) :=
  match Json.lastOf? name r.fields with
  | some j => nullable decode j
  | none => if r.positional then none else some none

end Record

end NetUnits
