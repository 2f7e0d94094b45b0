import NetUnits.Dict
import NetUnits.Fault
import NetUnits.Kind

/-!
# Types of keys

A schema says of each key whether it may be written several times, and whether its values are
truth values or integers. A key without any of these marks holds one text.

* **`KeyType`** — the marks of a key; `KeyType.union` collects marks.
* **`PerKind`** — one thing for each kind of configuration.
* **`KeyTypes`**, **`Repeatable`** — types of the keys of each section, and the sections that may
  be written several times, for each kind.
* **`SchemaError`** — what can be wrong with a schema.
-/

namespace NetUnits

/-- **The type of a key**, as marks. -/
structure KeyType where
  /-- The key may be written several times. -/
  isArray : Bool
  /-- Its values are truth values. -/
  isBool : Bool
  /-- Its values are integers. -/
  isInt : Bool
deriving DecidableEq, Inhabited

namespace KeyType

/-- One text: no mark is set. -/
def plain : KeyType := ⟨false, false, false⟩

/-- The marks of either type. -/
def union (a b : KeyType) : KeyType :=
  ⟨a.isArray || b.isArray, a.isBool || b.isBool, a.isInt || b.isInt⟩

/-- The marks of all types. -/
def unionAll (ts : List KeyType) : KeyType :=
  ts.foldr union plain

/-- The mark for a type name of a schema. -/
def ofTypeName (name : String) : KeyType :=
  ⟨name == "array", name == "boolean", name == "integer"⟩

@[simp] theorem unionAll_nil : unionAll [] = plain := rfl

@[simp] theorem unionAll_cons (t : KeyType) (ts : List KeyType) :
    unionAll (t :: ts) = t.union (unionAll ts) := rfl

end KeyType

/-- **A set of names**: a dictionary without values. -/
abbrev NameSet := Dict Unit

/-- The set with the names of a list added. -/
def NameSet.addAll (set : NameSet) (names : List String) : NameSet :=
  names.foldl (fun s name => s.insert name ()) set

/-- **One thing for each kind** of configuration. -/
structure PerKind (α : Type) where
  /-- For `.network` files. -/
  network : α
  /-- For `.netdev` files. -/
  netdev : α
  /-- For `.link` files. -/
  link : α
  /-- For `networkd.conf`. -/
  networkdConf : α
deriving Inhabited

namespace PerKind

variable {α β : Type}

/-- The thing for a kind. -/
def get (p : PerKind α) : Kind → α
  | .network => p.network
  | .netdev => p.netdev
  | .link => p.link
  | .networkdConf => p.networkdConf

/-- The things that a function gives. -/
def ofFn (f : Kind → α) : PerKind α :=
  ⟨f .network, f .netdev, f .link, f .networkdConf⟩

/-- The things changed by a function. -/
def map (f : α → β) (p : PerKind α) : PerKind β :=
  ofFn fun kind => f (p.get kind)

@[simp] theorem get_ofFn (f : Kind → α) (kind : Kind) : (ofFn f).get kind = f kind := by
  cases kind <;> rfl

end PerKind

/-- **The types of the keys of each section**, for each kind. -/
abbrev KeyTypes := PerKind (Dict (Dict KeyType))

namespace KeyTypes

/-- No key has a type other than one text. -/
def none : KeyTypes := PerKind.ofFn fun _ => ∅

/-- **The type of a key**; a key that is not known holds one text. -/
def lookup (types : KeyTypes) (kind : Kind) (header key : String) : KeyType :=
  (((types.get kind).get? header).bind (·.get? key)).getD .plain

/-- The number of keys that have a type recorded for a kind. -/
def keyCount (types : KeyTypes) (kind : Kind) : Nat :=
  (types.get kind).values.foldr (fun keys count => keys.size + count) 0

@[simp] theorem lookup_none (kind : Kind) (header key : String) :
    none.lookup kind header key = .plain := by
  simp [lookup, none]

end KeyTypes

/-- **The sections that may be written several times**, for each kind. -/
abbrev Repeatable := PerKind NameSet

namespace Repeatable

/-- No section may be written several times. -/
def none : Repeatable := PerKind.ofFn fun _ => ∅

/-- Whether a section may be written several times. -/
def allows (r : Repeatable) (kind : Kind) (header : String) : Bool :=
  (r.get kind).contains header

/-- The sections together with further ones, which count for every kind. -/
def mergedWith (r : Repeatable) (names : List String) : Repeatable :=
  r.map fun set => set.addAll names

end Repeatable

/-- **What can be wrong with a schema.** -/
inductive SchemaError where
  /-- The file of a schema cannot be read. -/
  | unreadable (path : String) (fault : Fault)
  /-- The file of a schema is no JSON. -/
  | invalidJson (path : String)
  /-- The schema of a kind has no properties at its top, or none was loaded. -/
  | missingProperties (kind : Kind)
  /-- The generation is not installed. -/
  | unknownGeneration (version : Nat)
deriving DecidableEq

/-- The wording of an error. What a JSON reader says about a text is left open. -/
def SchemaError.message : SchemaError → String
  | .unreadable path fault => s!"IO error reading schema {path}: {fault.message}"
  | .invalidJson path => s!"Invalid schema JSON in {path}: <json>"
  | .missingProperties kind => s!"Schema for '{kind.name}' has no top-level properties"
  | .unknownGeneration version => s!"Schema generation v{version} is not available"

end NetUnits
