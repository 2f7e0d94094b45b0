import NetUnits.Json.Basic
import NetUnits.Schema.Basic

/-!
# Types from a schema

A schema of a kind describes sections by its top-level properties. The type of a key is collected
from its definition and all that the definition leads to; the keys of a section are those of the
first properties that its definition leads to. References are followed by name, and a name that is
already on the way is not followed again.

* **`resolve`** — the type of a key definition.
* **`findShape`** — the properties that a section definition leads to first.
* **`SchemaIndex`** — key types and repeatable sections of a kind; `SchemaIndex.ofSchema` builds
  it.
-/

namespace NetUnits

namespace Schema

/-- The greatest number of steps from a definition. -/
def maxSteps : Nat := 32

/-- The definitions of a schema by name. -/
abbrev Definitions := List (String × Json)

/-- What references to a definition begin with. -/
def definitionsPath : String := "#/definitions/"

/-- **The definition name of a reference**: what follows the path to the definitions, or all of
it. -/
def referenceName (reference : String) : String :=
  let cs := reference.toList
  let path := definitionsPath.toList
  if path.isPrefixOf cs then String.ofList (cs.drop path.length) else reference

/-- The reference of a node, if it is one. -/
def reference? (node : Json) : Option String :=
  (node.get? "$ref").bind Json.string?

/-- **The definition that a reference leads to**, with its name, unless the name is on the way
already. -/
def follow? (definitions : Definitions) (path : List String) (reference : String) :
    Option (String × Json) :=
  let name := referenceName reference
  if path.contains name then none else (Json.lastOf? name definitions).map (name, ·)

/-- **The type names of a node**: one string, or the strings of a list. -/
def typeNames (node : Json) : List String :=
  match node.get? "type" with
  | some (.string name) => [name]
  | some (.array names) => names.filterMap Json.string?
  | _ => []

/-- The marks that a node sets itself. -/
def ownType (node : Json) : KeyType :=
  KeyType.unionAll ((typeNames node).map KeyType.ofTypeName)

/-- The nodes that a node without a reference leads to for its type. -/
def typeBranches (node : Json) : List Json :=
  node.itemsAt "oneOf" ++ node.itemsAt "anyOf" ++ node.itemsAt "allOf" ++
    (node.get? "items").toList

/-- The nodes that a node without a reference leads to for its shape. -/
def shapeBranches (node : Json) : List Json :=
  node.itemsAt "oneOf" ++ (node.get? "items").toList

/-- **The type of a definition**: the marks of all nodes within the given number of steps. The
names of the references on the way are `path`. -/
def resolveWithin (definitions : Definitions) : Nat → List String → Json → KeyType
  | 0, _, _ => .plain
  | steps + 1, path, node =>
    match reference? node with
    | some reference =>
      -- beside a reference nothing else counts
      match follow? definitions path reference with
      | some (name, target) => resolveWithin definitions steps (name :: path) target
      | none => .plain
    | none =>
      (ownType node).union
        (.unionAll ((typeBranches node).map (resolveWithin definitions steps path)))

/-- **The type of a key definition.** -/
def resolve (definitions : Definitions) (node : Json) : KeyType :=
  resolveWithin definitions (maxSteps + 1) [] node

/-- The properties of a node, if it has any. -/
def properties? (node : Json) : Option (List (String × Json)) :=
  (node.get? "properties").bind Json.members?

/-- **The first properties** within the given number of steps: those of the node, else those its
reference leads to, else those of its branches in order. -/
def findShapeWithin (definitions : Definitions) :
    Nat → List String → Json → Option (List (String × Json))
  | 0, _, _ => none
  | steps + 1, path, node =>
    match properties? node with
    | some properties => some properties
    | none =>
      match reference? node with
      | some reference =>
        match follow? definitions path reference with
        | some (name, target) => findShapeWithin definitions steps (name :: path) target
        | none => none
      | none => (shapeBranches node).findSome? (findShapeWithin definitions steps path)

/-- **The properties that a section definition leads to first.** -/
def findShape (definitions : Definitions) (node : Json) : Option (List (String × Json)) :=
  findShapeWithin definitions (maxSteps + 1) [] node

/-- **Whether a section may be written several times**: one of its alternatives is an array. -/
def hasArrayAlternative (node : Json) : Bool :=
  (node.itemsAt "oneOf").any fun alternative => (typeNames alternative).contains "array"

/-- The definitions of a schema. -/
def definitionsOf (schema : Json) : Definitions :=
  ((schema.get? "definitions").bind Json.members?).getD []

/-- The types of the keys that are defined by objects. -/
def keyTypes (definitions : Definitions) (shape : List (String × Json)) : Dict KeyType :=
  ((Dict.ofList shape).filter fun _ node => node.isObject).mapValues fun _ node =>
    resolve definitions node

/-- The section definitions of a schema that are objects, in name order. -/
def sectionDefinitions (schema : Json) : Option (Dict Json) :=
  (properties? schema).map fun properties =>
    (Dict.ofList properties).filter fun _ node => node.isObject

end Schema

/-- **What a schema says of one kind**: the key types of each section with a shape, and the
sections that may be written several times. -/
structure SchemaIndex where
  /-- The types of the keys of each section. -/
  types : Dict (Dict KeyType)
  /-- The sections that may be written several times. -/
  repeatable : NameSet

namespace SchemaIndex

/-- Nothing is known of any section. -/
def empty : SchemaIndex := ⟨∅, ∅⟩

instance : Inhabited SchemaIndex := ⟨empty⟩

/-- The sections of definitions that have a shape, with the types of their keys. -/
def typesOf (definitions : Schema.Definitions) (headers : Dict Json) : Dict (Dict KeyType) :=
  Dict.ofList (headers.entries.filterMap fun e =>
    (Schema.findShape definitions e.2).map fun shape => (e.1, Schema.keyTypes definitions shape))

/-- **The index of a schema**, which must have properties at its top. -/
def ofSchema (kind : Kind) (schema : Json) : Except SchemaError SchemaIndex :=
  match Schema.sectionDefinitions schema with
  | none => .error (.missingProperties kind)
  | some headers =>
    .ok {
      types := typesOf (Schema.definitionsOf schema) headers
      repeatable := (headers.filter fun _ node => Schema.hasArrayAlternative node).mapValues
        fun _ _ => () }

/-- The index of a schema; one without properties says nothing of any section. -/
def ofSchemaOrEmpty (kind : Kind) (schema : Json) : SchemaIndex :=
  match ofSchema kind schema with
  | .ok index => index
  | .error _ => empty

/-- The sections of a schema that have no shape, in name order. -/
def shapeless (schema : Json) : List String :=
  match Schema.sectionDefinitions schema with
  | none => []
  | some headers =>
    (headers.filter fun _ node =>
      (Schema.findShape (Schema.definitionsOf schema) node).isNone).keys

end SchemaIndex

end NetUnits
