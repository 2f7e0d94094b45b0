import NetUnits.Proofs.Dict
import NetUnits.Proofs.Schema.Walk

/-! # What the type of a key collects

The type of a key definition has a mark exactly if a walk of at most 32 steps leads from the
definition to a node that sets the mark. The collection never follows a name that is on the way
already, and it misses no mark by that, since every walk can be cut to one without a repetition.

* **`Reaches`** — a short walk leads from a node to one with a type name.
* **`isSet_resolveWithin_iff`** — the marks that are collected within a number of steps.
* **`resolve_iff_reaches`** — the marks of all key definitions of a schema. -/

namespace NetUnits

/-! ## Marks -/

/-- **One of the marks** of a type. -/
inductive KeyType.Mark where
  /-- The key may be written several times. -/
  | array
  /-- Its values are truth values. -/
  | bool
  /-- Its values are integers. -/
  | int

namespace KeyType.Mark

/-- Whether a type has a mark. -/
def isSet : Mark → KeyType → Bool
  | array, t => t.isArray
  | bool, t => t.isBool
  | int, t => t.isInt

/-- The type name that sets a mark. -/
def typeName : Mark → String
  | array => "array"
  | bool => "boolean"
  | int => "integer"

@[simp] theorem isSet_plain (mark : Mark) : mark.isSet .plain = false := by
  cases mark <;> rfl

@[simp] theorem isSet_union (mark : Mark) (a b : KeyType) :
    mark.isSet (a.union b) = (mark.isSet a || mark.isSet b) := by
  cases mark <;> rfl

@[simp] theorem isSet_ofTypeName (mark : Mark) (name : String) :
    mark.isSet (.ofTypeName name) = (name == mark.typeName) := by
  cases mark <;> rfl

/-- Types together have the marks of each. -/
theorem isSet_unionAll {mark : Mark} {ts : List KeyType} :
    mark.isSet (.unionAll ts) = true ↔ ∃ t ∈ ts, mark.isSet t = true := by
  induction ts with
  | nil => simp
  | cons t ts ih => simp [ih]

end KeyType.Mark

namespace Schema

open NetUnits.KeyType

/-! ## Type names -/

/-- **A node gives a type name**, alone or in a list. -/
def NamesType (node : Json) (name : String) : Prop :=
  node.get? "type" = some (.string name) ∨
    ∃ names, node.get? "type" = some (.array names) ∧ .string name ∈ names

theorem mem_typeNames_iff {node : Json} {name : String} :
    name ∈ typeNames node ↔ NamesType node name := by
  have hstring : ∀ j : Json, j.string? = some name ↔ j = .string name := fun j => by
    cases j <;> simp [Json.string?]
  unfold typeNames NamesType
  cases hget : node.get? "type" with
  | none => simp
  | some value => cases value <;> simp [hstring, eq_comm]

/-- A node sets the marks of its type names. -/
theorem isSet_ownType {mark : Mark} {node : Json} :
    mark.isSet (ownType node) = true ↔ NamesType node mark.typeName := by
  rw [ownType, Mark.isSet_unionAll, ← mem_typeNames_iff]
  simp

/-! ## One step -/

/-- The keys of the alternatives that count for a type. -/
def typeKeys : List String := ["oneOf", "anyOf", "allOf"]

theorem mem_typeBranches_iff {node next : Json} :
    next ∈ typeBranches node ↔ Branch typeKeys node next := by
  rw [branch_iff_mem, typeBranches]
  simp [typeKeys]

theorem follow?_eq_some_iff {definitions : Definitions} {path : List String}
    {reference name : String} {target : Json} :
    follow? definitions path reference = some (name, target) ↔
      name = referenceName reference ∧ name ∉ path ∧
        Json.lastOf? name definitions = some target := by
  unfold follow?
  by_cases hmem : referenceName reference ∈ path
  · simp only [List.contains_iff_mem, hmem, if_true, reduceCtorEq, false_iff]
    rintro ⟨rfl, hfresh, -⟩
    exact hfresh hmem
  · simp only [List.contains_iff_mem, hmem, if_false, Option.map_eq_some_iff, Prod.mk.injEq]
    constructor
    · rintro ⟨target, htarget, rfl, rfl⟩
      exact ⟨rfl, hmem, htarget⟩
    · rintro ⟨rfl, -, htarget⟩
      exact ⟨target, htarget, rfl, rfl⟩

variable {definitions : Definitions} {mark : Mark} {steps : Nat} {path : List String} {node : Json}

/-- **Beside a reference nothing else counts**: the marks are those of the definition, unless its
name is on the way already. -/
theorem isSet_resolveWithin_of_reference {reference : String}
    (href : reference? node = some reference) :
    mark.isSet (resolveWithin definitions (steps + 1) path node) = true ↔
      referenceName reference ∉ path ∧
        ∃ target, Json.lastOf? (referenceName reference) definitions = some target ∧
          mark.isSet (resolveWithin definitions steps (referenceName reference :: path) target) =
            true := by
  cases hfollow : follow? definitions path reference with
  | none =>
    simp only [resolveWithin, href, hfollow, Mark.isSet_plain, Bool.false_eq_true, false_iff]
    rintro ⟨hfresh, target, htarget, -⟩
    rw [follow?_eq_some_iff.2 ⟨rfl, hfresh, htarget⟩] at hfollow
    cases hfollow
  | some found =>
    obtain ⟨name, target⟩ := found
    obtain ⟨rfl, hfresh, htarget⟩ := follow?_eq_some_iff.1 hfollow
    simp only [resolveWithin, href, hfollow]
    constructor
    · intro hset
      exact ⟨hfresh, target, htarget, hset⟩
    · rintro ⟨-, target', htarget', hset⟩
      obtain rfl : target = target' := Option.some.inj (htarget.symm.trans htarget')
      exact hset

/-- **Without a reference**, the marks are those of the node and of all nodes that it leads to. -/
theorem isSet_resolveWithin_of_branch (href : reference? node = none) :
    mark.isSet (resolveWithin definitions (steps + 1) path node) = true ↔
      NamesType node mark.typeName ∨
        ∃ next, Branch typeKeys node next ∧
          mark.isSet (resolveWithin definitions steps path next) = true := by
  rw [resolveWithin, href, Mark.isSet_union, Bool.or_eq_true, isSet_ownType, Mark.isSet_unionAll]
  simp only [List.mem_map, exists_exists_and_eq_and, mem_typeBranches_iff]

/-! ## All steps -/

/-- **A node sets a type name itself**: it is no reference, and it gives the type name. -/
def Sets (node : Json) (name : String) : Prop :=
  reference? node = none ∧ NamesType node name

/-- **What is collected is reached**: a mark comes from a node at the end of a walk. -/
theorem exists_walk_of_isSet
    (h : mark.isSet (resolveWithin definitions steps path node) = true) :
    ∃ names length last, length < steps ∧ Walk definitions typeKeys node names length last ∧
      Sets last mark.typeName := by
  induction steps generalizing path node with
  | zero => simp [resolveWithin] at h
  | succ steps ih =>
    cases href : reference? node with
    | some reference =>
      obtain ⟨-, target, htarget, hset⟩ := (isSet_resolveWithin_of_reference href).1 h
      obtain ⟨names, length, last, hlt, hwalk, hlast⟩ := ih hset
      exact ⟨_, length + 1, last, by omega, .follow href htarget hwalk, hlast⟩
    | none =>
      rcases (isSet_resolveWithin_of_branch href).1 h with hown | ⟨next, hbranch, hset⟩
      · exact ⟨[], 0, node, by omega, .stop node, href, hown⟩
      · obtain ⟨names, length, last, hlt, hwalk, hlast⟩ := ih hset
        exact ⟨names, length + 1, last, by omega, .branch href hbranch hwalk, hlast⟩

/-- **What is reached without a repetition is collected**: by a walk that follows no name twice, and
none that is on the way already. -/
theorem isSet_of_walk {names : List String} {length : Nat} {last : Json}
    (h : Walk definitions typeKeys node names length last) (hlast : Sets last mark.typeName)
    (hlt : length < steps) (hnodup : names.Nodup) (hfresh : ∀ name ∈ names, name ∉ path) :
    mark.isSet (resolveWithin definitions steps path node) = true := by
  induction h generalizing steps path with
  | stop node =>
    obtain ⟨steps, rfl⟩ := Nat.exists_eq_add_of_lt hlt
    obtain ⟨href, hown⟩ := hlast
    rw [Nat.zero_add]
    exact (isSet_resolveWithin_of_branch href).2 (.inl hown)
  | @follow _ target _ reference names length href htarget walk ih =>
    obtain ⟨hnew, hnodup⟩ := List.nodup_cons.1 hnodup
    obtain ⟨hfirst, hfresh⟩ := List.forall_mem_cons.1 hfresh
    cases steps with
    | zero => omega
    | succ steps =>
      have hset : mark.isSet (resolveWithin definitions steps (referenceName reference :: path)
          target) = true := by
        -- the name that is now on the way does not come again
        refine ih hlast (by omega) hnodup fun name hname => ?_
        rw [List.mem_cons, not_or]
        exact ⟨fun heq => hnew (heq ▸ hname), hfresh name hname⟩
      exact (isSet_resolveWithin_of_reference href).2 ⟨hfirst, target, htarget, hset⟩
  | @branch _ next _ names length href hbranch walk ih =>
    cases steps with
    | zero => omega
    | succ steps =>
      have hset : mark.isSet (resolveWithin definitions steps path next) = true :=
        ih hlast (by omega) hnodup hfresh
      exact (isSet_resolveWithin_of_branch href).2 (.inr ⟨next, hbranch, hset⟩)

/-- **The marks collected within a number of steps** are those that some shorter walk leads to,
whatever names it follows how often. -/
theorem isSet_resolveWithin_iff :
    mark.isSet (resolveWithin definitions steps [] node) = true ↔
      ∃ names length last, length < steps ∧ Walk definitions typeKeys node names length last ∧
        Sets last mark.typeName := by
  refine ⟨exists_walk_of_isSet, ?_⟩
  -- a walk with repetitions is cut first, and the cut one is short enough
  rintro ⟨names, length, last, hlt, hwalk, hlast⟩
  obtain ⟨rest, steps', hnodup, -, hle, hcut⟩ := hwalk.exists_nodup
  exact isSet_of_walk hcut hlast (by omega) hnodup fun name _ => List.not_mem_nil

/-- **A walk of at most 32 steps leads from a node to one that sets a type name.** -/
def Reaches (definitions : Definitions) (node : Json) (name : String) : Prop :=
  ∃ names length last, length ≤ 32 ∧ Walk definitions typeKeys node names length last ∧
    Sets last name

/-- The marks of a key definition are those that it reaches. -/
theorem isSet_resolve_iff (mark : Mark) (definitions : Definitions) (node : Json) :
    mark.isSet (resolve definitions node) = true ↔ Reaches definitions node mark.typeName := by
  rw [resolve, isSet_resolveWithin_iff, Reaches]
  simp only [maxSteps, Nat.lt_succ_iff]

/-! ## The index of a schema -/

/-- The last member with a key is what the dictionary of the members has there. -/
theorem get?_ofList_members (members : List (String × Json)) (key : String) :
    (Dict.ofList members).get? key = Json.lastOf? key members := by
  rw [Dict.get?_ofList]
  induction members with
  | nil => rfl
  | cons member members ih =>
    rw [List.reverse_cons, Dict.find?_append, ih]
    rfl

/-- **The definition of a key**: the object under the key among the first properties that the
section definition leads to. -/
def keyDefinition? (schema : Json) (header key : String) : Option Json :=
  ((((sectionDefinitions schema).bind (·.get? header)).bind (findShape (definitionsOf schema))).bind
    (Json.lastOf? key)).filter Json.isObject

/-- The type of a key that is defined by an object. -/
theorem get?_keyTypes (definitions : Definitions) (shape : List (String × Json)) (key : String) :
    (keyTypes definitions shape).get? key =
      ((Json.lastOf? key shape).filter Json.isObject).map (resolve definitions) := by
  rw [keyTypes, Dict.get?_mapValues, Dict.get?_filter, get?_ofList_members]

end Schema

namespace SchemaIndex

open NetUnits.Schema

/-- The type of a key, if the index knows it. -/
def keyType? (index : SchemaIndex) (header key : String) : Option KeyType :=
  (index.types.get? header).bind (·.get? key)

/-- The keys of a section are those of its shape. -/
theorem get?_typesOf (definitions : Definitions) (headers : Dict Json) (header : String) :
    (typesOf definitions headers).get? header =
      ((headers.get? header).bind (findShape definitions)).map (keyTypes definitions) := by
  have hdict := Dict.ofList_filterMap
    (fun _ node => (findShape definitions node).map (keyTypes definitions)) headers
  simp only [Option.map_map] at hdict
  have htypes : typesOf definitions headers = headers.filterMap
      fun _ node => (findShape definitions node).map (keyTypes definitions) := hdict
  rw [htypes, Dict.get?_filterMap]
  cases headers.get? header <;> rfl

/-- **The index has the types of the keys that are defined**, and of no others. -/
theorem keyType?_ofSchema {kind : Kind} {schema : Json} {index : SchemaIndex}
    (h : ofSchema kind schema = .ok index) (header key : String) :
    index.keyType? header key =
      (keyDefinition? schema header key).map (resolve (definitionsOf schema)) := by
  unfold ofSchema at h
  cases hsections : sectionDefinitions schema with
  | none => rw [hsections] at h; cases h
  | some headers =>
    rw [hsections] at h
    obtain rfl := Except.ok.inj h
    rw [keyType?, keyDefinition?, hsections, get?_typesOf, Option.bind_some]
    cases (headers.get? header).bind (findShape (definitionsOf schema)) with
    | none => rfl
    | some shape => exact get?_keyTypes (definitionsOf schema) shape key

end SchemaIndex

namespace Schema

/-- **The type of a key definition has a mark exactly if a walk of at most 32 steps leads to a node
that sets it**, for any schema and any node of it, and whatever names the walk follows how often.
The index has the type that is resolved so for each key that is defined. -/
theorem resolve_iff_reaches (schema : Json) :
    (∀ node,
      ((resolve (definitionsOf schema) node).isBool = true ↔
        Reaches (definitionsOf schema) node "boolean") ∧
      ((resolve (definitionsOf schema) node).isInt = true ↔
        Reaches (definitionsOf schema) node "integer") ∧
      ((resolve (definitionsOf schema) node).isArray = true ↔
        Reaches (definitionsOf schema) node "array")) ∧
    ∀ kind index, SchemaIndex.ofSchema kind schema = .ok index → ∀ header key,
      index.keyType? header key =
        (keyDefinition? schema header key).map (resolve (definitionsOf schema)) := by
  constructor
  · intro node
    exact ⟨isSet_resolve_iff .bool _ node, isSet_resolve_iff .int _ node,
      isSet_resolve_iff .array _ node⟩
  · intro kind index h header key
    exact SchemaIndex.keyType?_ofSchema h header key

/-- Two definitions that lead to each other, one of which sets a mark beside the other one. -/
theorem resolve_iff_reaches_cycle :
    let a : Json := .object [("oneOf", .array
      [.object [("$ref", .string "#/definitions/b")], .object [("type", .string "boolean")]])]
    let b : Json := .object [("anyOf", .array
      [.object [("$ref", .string "a")], .object [("type", .array [.string "integer", .null])]])]
    let key : Json := .object [("$ref", .string "#/definitions/b")]
    let schema : Json := .object
      [("definitions", .object [("a", a), ("b", b)]),
        ("properties", .object [("Link", .object [("properties", .object [("Mode", key)])])])]
    Reaches (definitionsOf schema) key "boolean" ∧ Reaches (definitionsOf schema) key "integer" ∧
      ¬ Reaches (definitionsOf schema) key "array" ∧
      ∃ index, SchemaIndex.ofSchema .link schema = .ok index ∧
        index.keyType? "Link" "Mode" = some (resolve (definitionsOf schema) key) := by
  intro a b key schema
  obtain ⟨hmarks, hindex⟩ := resolve_iff_reaches schema
  obtain ⟨hbool, hint, harray⟩ := hmarks key
  refine ⟨hbool.1 (by decide +kernel), hint.1 (by decide +kernel), mt harray.2 ?_, ?_⟩
  · decide +kernel
  · have hok : (SchemaIndex.ofSchema .link schema).toOption.isSome = true := by decide +kernel
    cases h : SchemaIndex.ofSchema .link schema with
    | error e =>
      rw [h] at hok
      cases hok
    | ok index =>
      have hkey : (keyDefinition? schema "Link" "Mode").map (resolve (definitionsOf schema)) =
          some (resolve (definitionsOf schema) key) := by decide +kernel
      exact ⟨index, rfl, (hindex .link index h "Link" "Mode").trans hkey⟩

end Schema

end NetUnits
