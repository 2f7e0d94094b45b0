import NetUnits.Proofs.Schema.Resolution

/-! # The properties that are found first

A section definition leads to properties by its reference or, without one, by its alternatives in
order and then by its items. Where several walks lead to properties, those count that come first in
**depth-first order**: a node comes before all that it leads to, and what lies behind a branch comes
before what lies behind a later one. The search goes back where a name would be followed again. It
hides nothing by that, since every walk can be cut to one without a repetition.

* **`Route`** — a walk with the places of its steps among the branches.
* **`FirstShape`** — the properties that come first in depth-first order.
* **`IsFirst`** — what a search must find; **`isFirst_findShapeWithin`** — the search finds it.
* **`findShape_eq_some_iff`**, **`isSome_findShape_iff`** — what is found, and when there is
  something to find.
* **`SchemaIndex.Describes`** — what an index has of a section; **`SchemaIndex.describes_ofSchema`**
  — so it is for every section of every schema. -/

namespace NetUnits

namespace Schema

variable {definitions : Definitions} {steps length : Nat} {path names names' : List String}
  {node next last last' : Json} {places rest : List Nat} {place : Nat}
  {shape : List (String × Json)}

/-! ## Routes -/

/-- The keys of the alternatives that count for a shape. -/
def shapeKeys : List String := ["oneOf"]

theorem mem_shapeBranches_iff : next ∈ shapeBranches node ↔ Branch shapeKeys node next := by
  rw [branch_iff_mem, shapeBranches]
  simp [shapeKeys]

/-- **A walk from a node to another with its places**: for each step the place of the branch that
it takes, from 0 on, which is 0 for a reference; and the names of the references. -/
inductive Route (definitions : Definitions) : Json → List Nat → List String → Json → Prop
  /-- The walk that stays where it is. -/
  | stop (node : Json) : Route definitions node [] [] node
  /-- A walk that begins with a reference. -/
  | follow {node target last : Json} {reference : String} {places : List Nat}
      {names : List String} (href : reference? node = some reference)
      (htarget : Json.lastOf? (referenceName reference) definitions = some target)
      (rest : Route definitions target places names last) :
      Route definitions node (0 :: places) (referenceName reference :: names) last
  /-- A walk that begins at a node without a reference. -/
  | branch {node next last : Json} {place : Nat} {places : List Nat} {names : List String}
      (href : reference? node = none) (hplace : (shapeBranches node)[place]? = some next)
      (rest : Route definitions next places names last) :
      Route definitions node (place :: places) names last

theorem Route.walk (h : Route definitions node places names last) :
    Walk definitions shapeKeys node names places.length last := by
  induction h with
  | stop node => exact .stop node
  | follow href htarget _ ih => exact .follow href htarget ih
  | branch href hplace _ ih =>
    exact .branch href (mem_shapeBranches_iff.1 (List.mem_of_getElem? hplace)) ih

theorem Walk.exists_route (h : Walk definitions shapeKeys node names length last) :
    ∃ places, places.length = length ∧ Route definitions node places names last := by
  induction h with
  | stop node => exact ⟨[], rfl, .stop node⟩
  | follow href htarget _ ih =>
    obtain ⟨places, rfl, hroute⟩ := ih
    exact ⟨0 :: places, rfl, .follow href htarget hroute⟩
  | branch href hbranch _ ih =>
    obtain ⟨places, rfl, hroute⟩ := ih
    obtain ⟨place, hplace⟩ := List.mem_iff_getElem?.1 (mem_shapeBranches_iff.2 hbranch)
    exact ⟨place :: places, rfl, .branch href hplace hroute⟩

/-- **Places lead to one node only.** -/
theorem Route.last_eq (h : Route definitions node places names last)
    (h' : Route definitions node places names' last') : last = last' := by
  induction h generalizing names' with
  | stop node =>
    cases h'
    rfl
  | follow href htarget _ ih =>
    cases h' with
    | follow href' htarget' rest =>
      obtain rfl := Option.some.inj (href.symm.trans href')
      obtain rfl := Option.some.inj (htarget.symm.trans htarget')
      exact ih rest
    | branch href' _ _ => exact nomatch href.symm.trans href'
  | branch href hplace _ ih =>
    cases h' with
    | follow href' _ _ => exact nomatch href.symm.trans href'
    | branch _ hplace' rest =>
      obtain rfl := Option.some.inj (hplace.symm.trans hplace')
      exact ih rest

/-! ## Shapes -/

/-- A node has properties exactly if there is an object under that key. -/
theorem properties?_eq_some_iff :
    properties? node = some shape ↔ node.get? "properties" = some (.object shape) := by
  unfold properties?
  cases node.get? "properties" with
  | none => simp
  | some value => cases value <;> simp [Json.members?]

/-- **Properties are reached** from a node by a walk of at most 32 steps. -/
def ReachesShape (definitions : Definitions) (node : Json) : Prop :=
  ∃ names length last shape, length ≤ 32 ∧ Walk definitions shapeKeys node names length last ∧
    last.get? "properties" = some (.object shape)

/-- **Properties lie at places**, at most 32 steps away and without following a name twice. -/
def LiesAt (definitions : Definitions) (node : Json) (places : List Nat)
    (shape : List (String × Json)) : Prop :=
  ∃ names last, Route definitions node places names last ∧ places.length ≤ 32 ∧ names.Nodup ∧
    last.get? "properties" = some (.object shape)

/-- **The properties that come first in depth-first order**: none lie before them, where lists of
places are compared like words in a dictionary. -/
def FirstShape (definitions : Definitions) (node : Json) (shape : List (String × Json)) : Prop :=
  ∃ places, LiesAt definitions node places shape ∧
    ∀ places' shape', LiesAt definitions node places' shape' → ¬ places' < places

/-- There is at most one shape at places. -/
theorem LiesAt.shape_eq {shape' : List (String × Json)} (h : LiesAt definitions node places shape)
    (h' : LiesAt definitions node places shape') : shape = shape' := by
  obtain ⟨_, _, hroute, -, -, hshape⟩ := h
  obtain ⟨_, _, hroute', -, -, hshape'⟩ := h'
  obtain rfl := hroute.last_eq hroute'
  exact Json.object.inj (Option.some.inj (hshape.symm.trans hshape'))

/-- At most one shape comes first. -/
theorem FirstShape.unique {shape' : List (String × Json)} (h : FirstShape definitions node shape)
    (h' : FirstShape definitions node shape') : shape = shape' := by
  obtain ⟨places, hlies, hfirst⟩ := h
  obtain ⟨places', hlies', hfirst'⟩ := h'
  obtain rfl : places = places' := List.le_antisymm (hfirst _ _ hlies') (hfirst' _ _ hlies)
  exact hlies.shape_eq hlies'

/-- A shape that is reached by any walk lies somewhere. -/
theorem exists_liesAt_iff :
    (∃ places shape, LiesAt definitions node places shape) ↔ ReachesShape definitions node := by
  constructor
  · rintro ⟨places, shape, names, last, hroute, hle, -, hshape⟩
    exact ⟨names, places.length, last, shape, hle, hroute.walk, hshape⟩
  · rintro ⟨names, length, last, shape, hle, hwalk, hshape⟩
    obtain ⟨names', length', hnodup, -, hle', hcut⟩ := hwalk.exists_nodup
    obtain ⟨places, rfl, hroute⟩ := hcut.exists_route
    exact ⟨places, shape, names', last, hroute, Nat.le_trans hle' hle, hnodup, hshape⟩

/-! ## Searches -/

/-- **A search finds the first**: nothing lies before what it finds, and if it finds nothing there
is nothing. -/
def IsFirst {α : Type} (lies : List Nat → α → Prop) : Option α → Prop
  | some a => ∃ places, lies places a ∧ ∀ places' a', lies places' a' → ¬ places' < places
  | none => ∀ places a, ¬ lies places a

section IsFirst

variable {α : Type} {lies : List Nat → α → Prop} {found : Option α}

theorem IsFirst.congr {lies' : List Nat → α → Prop} (h : IsFirst lies found)
    (heq : ∀ places a, lies' places a ↔ lies places a) : IsFirst lies' found := by
  obtain rfl : lies' = lies := funext fun places => funext fun a => propext (heq places a)
  exact h

/-- **Searching branches one after the other finds the first**, if the search of each branch does:
the place of the branch comes first. -/
theorem isFirst_findSome? {nodes : List Json} {search : Json → Option α}
    {lies : Json → List Nat → α → Prop} (h : ∀ node ∈ nodes, IsFirst (lies node) (search node)) :
    IsFirst (fun places a => ∃ place rest node, places = place :: rest ∧
      nodes[place]? = some node ∧ lies node rest a) (nodes.findSome? search) := by
  cases hfound : nodes.findSome? search with
  | none =>
    rintro _ a ⟨place, rest, node, rfl, hplace, hlies⟩
    have hmem : node ∈ nodes := List.mem_of_getElem? hplace
    have hnone := h node hmem
    rw [List.findSome?_eq_none_iff.1 hfound node hmem] at hnone
    exact hnone rest a hlies
  | some a =>
    obtain ⟨before, node, after, rfl, hnode, hbefore⟩ := List.findSome?_eq_some_iff.1 hfound
    have hsome := h node (List.mem_append_right _ List.mem_cons_self)
    rw [hnode] at hsome
    obtain ⟨rest, hlies, hfirst⟩ := hsome
    refine ⟨before.length :: rest, ⟨before.length, rest, node, rfl, by simp, hlies⟩, ?_⟩
    rintro _ a' ⟨place, rest', node', rfl, hplace, hlies'⟩
    rcases Nat.lt_trichotomy place before.length with hlt | rfl | hgt
    · -- nothing was found behind an earlier branch
      rw [List.getElem?_append_left hlt] at hplace
      have hmem : node' ∈ before := List.mem_of_getElem? hplace
      have hnone := h node' (List.mem_append_left _ hmem)
      rw [hbefore node' hmem] at hnone
      exact absurd hlies' (hnone rest' a')
    · obtain rfl : node = node' := by simpa using hplace
      rw [List.cons_lt_cons_iff]
      rintro (hlt | ⟨-, hlt⟩)
      · exact Nat.lt_irrefl _ hlt
      · exact hfirst rest' a' hlies' hlt
    · rw [List.cons_lt_cons_iff]
      omega

end IsFirst

/-- **Properties lie ahead**, fewer than some steps away and on a route that follows no name twice
and none that is on the way already. -/
def LiesAhead (definitions : Definitions) (steps : Nat) (path : List String) (node : Json)
    (places : List Nat) (shape : List (String × Json)) : Prop :=
  ∃ names last, Route definitions node places names last ∧ places.length < steps ∧
    names.Nodup ∧ (∀ name ∈ names, name ∉ path) ∧ properties? last = some shape

theorem liesAhead_iff_liesAt :
    LiesAhead definitions (maxSteps + 1) [] node places shape ↔
      LiesAt definitions node places shape := by
  simp only [LiesAhead, LiesAt, maxSteps, Nat.lt_succ_iff, List.not_mem_nil, not_false_eq_true,
    implies_true, true_and, properties?_eq_some_iff]

/-- Nothing lies ahead where no step is left. -/
theorem not_liesAhead_zero : ¬ LiesAhead definitions 0 path node places shape := by
  rintro ⟨_, _, -, hlt, -⟩
  exact Nat.not_lt_zero _ hlt

theorem liesAhead_nil_iff :
    LiesAhead definitions (steps + 1) path node [] shape ↔ properties? node = some shape := by
  constructor
  · rintro ⟨_, _, hroute, -, -, -, hshape⟩
    cases hroute
    exact hshape
  · exact fun hshape =>
      ⟨[], node, .stop node, Nat.succ_pos _, List.nodup_nil, by simp, hshape⟩

/-- **Behind a reference** lies what lies behind the definition that it leads to. -/
theorem liesAhead_cons_iff_of_reference {reference : String}
    (href : reference? node = some reference) :
    LiesAhead definitions (steps + 1) path node (place :: rest) shape ↔
      place = 0 ∧ ∃ name target, follow? definitions path reference = some (name, target) ∧
        LiesAhead definitions steps (name :: path) target rest shape := by
  constructor
  · rintro ⟨_, last, hroute, hlt, hnodup, hfresh, hshape⟩
    cases hroute with
    | branch href' _ _ => exact nomatch href.symm.trans href'
    | @follow _ target _ _ _ names href' htarget hroute =>
      obtain rfl := Option.some.inj (href.symm.trans href')
      obtain ⟨hnew, hnodup⟩ := List.nodup_cons.1 hnodup
      obtain ⟨hfirst, hfresh⟩ := List.forall_mem_cons.1 hfresh
      refine ⟨rfl, _, target, follow?_eq_some_iff.2 ⟨rfl, hfirst, htarget⟩, names, last, hroute,
        Nat.lt_of_succ_lt_succ hlt, hnodup, fun name hname => ?_, hshape⟩
      rw [List.mem_cons, not_or]
      exact ⟨fun heq => hnew (heq ▸ hname), hfresh name hname⟩
  · rintro ⟨rfl, _, target, hfollow, names, last, hroute, hlt, hnodup, hfresh, hshape⟩
    obtain ⟨rfl, hfirst, htarget⟩ := follow?_eq_some_iff.1 hfollow
    have hnew : referenceName reference ∉ names := fun hmem => hfresh _ hmem List.mem_cons_self
    exact ⟨_, last, .follow href htarget hroute, Nat.succ_lt_succ hlt,
      List.nodup_cons.2 ⟨hnew, hnodup⟩, List.forall_mem_cons.2 ⟨hfirst, fun name hname hmem =>
        hfresh name hname (List.mem_cons_of_mem _ hmem)⟩, hshape⟩

/-- **Without a reference** lies ahead what lies behind the branches. -/
theorem liesAhead_cons_iff_of_branch (href : reference? node = none) :
    LiesAhead definitions (steps + 1) path node (place :: rest) shape ↔
      ∃ next, (shapeBranches node)[place]? = some next ∧
        LiesAhead definitions steps path next rest shape := by
  constructor
  · rintro ⟨names, last, hroute, hlt, hnodup, hfresh, hshape⟩
    cases hroute with
    | follow href' _ _ => exact nomatch href.symm.trans href'
    | @branch _ next _ _ _ _ _ hplace hroute =>
      exact ⟨next, hplace, names, last, hroute, Nat.lt_of_succ_lt_succ hlt, hnodup, hfresh, hshape⟩
  · rintro ⟨next, hplace, names, last, hroute, hlt, hnodup, hfresh, hshape⟩
    exact ⟨names, last, .branch href hplace hroute, Nat.succ_lt_succ hlt, hnodup, hfresh, hshape⟩

section Step

variable (hproperties : properties? node = none)
  (ih : ∀ path node, IsFirst (LiesAhead definitions steps path node)
    (findShapeWithin definitions steps path node))

include hproperties

theorem not_liesAhead_nil : ¬ LiesAhead definitions (steps + 1) path node [] shape := by
  rw [liesAhead_nil_iff, hproperties]
  exact nofun

include ih

/-- **At a reference** the search goes on with the definition, unless its name is on the way. -/
theorem isFirst_of_reference {reference : String} (href : reference? node = some reference) :
    IsFirst (LiesAhead definitions (steps + 1) path node)
      (findShapeWithin definitions (steps + 1) path node) := by
  cases hfollow : follow? definitions path reference with
  | none =>
    simp only [findShapeWithin, hproperties, href, hfollow]
    rintro (_ | ⟨place, rest⟩) shape h
    · exact not_liesAhead_nil hproperties h
    · obtain ⟨-, _, _, hfollow', -⟩ := (liesAhead_cons_iff_of_reference href).1 h
      exact nomatch hfollow.symm.trans hfollow'
  | some found =>
    obtain ⟨name, target⟩ := found
    simp only [findShapeWithin, hproperties, href, hfollow]
    -- a reference is like a single branch, to the definition
    have hsearch : ∀ node ∈ [target], IsFirst (LiesAhead definitions steps (name :: path) node)
        (findShapeWithin definitions steps (name :: path) node) := fun node _ =>
      ih (name :: path) node
    have hsingle := isFirst_findSome? hsearch
    rw [List.findSome?_singleton] at hsingle
    refine hsingle.congr fun places shape => ?_
    cases places with
    | nil => simp [not_liesAhead_nil hproperties]
    | cons place rest =>
      rw [liesAhead_cons_iff_of_reference href, hfollow]
      cases place <;> simp

/-- **Without a reference** the search goes on with the branches. -/
theorem isFirst_of_branch (href : reference? node = none) :
    IsFirst (LiesAhead definitions (steps + 1) path node)
      (findShapeWithin definitions (steps + 1) path node) := by
  simp only [findShapeWithin, hproperties, href]
  refine (isFirst_findSome? fun node _ => ih path node).congr fun places shape => ?_
  cases places with
  | nil => simp [not_liesAhead_nil hproperties]
  | cons place rest =>
    rw [liesAhead_cons_iff_of_branch href]
    simp

end Step

/-- **The search finds the first shape that lies ahead.** -/
theorem isFirst_findShapeWithin (definitions : Definitions) (steps : Nat) (path : List String)
    (node : Json) :
    IsFirst (LiesAhead definitions steps path node)
      (findShapeWithin definitions steps path node) := by
  induction steps generalizing path node with
  | zero => exact fun _ _ => not_liesAhead_zero
  | succ steps ih =>
    cases hproperties : properties? node with
    | some shape =>
      rw [findShapeWithin, hproperties]
      exact ⟨[], liesAhead_nil_iff.2 hproperties, fun _ _ _ => List.not_lt_nil _⟩
    | none =>
      cases href : reference? node with
      | some reference => exact isFirst_of_reference hproperties ih href
      | none => exact isFirst_of_branch hproperties ih href

theorem isFirst_findShape (definitions : Definitions) (node : Json) :
    IsFirst (LiesAt definitions node) (findShape definitions node) :=
  (isFirst_findShapeWithin definitions (maxSteps + 1) [] node).congr fun _ _ =>
    liesAhead_iff_liesAt.symm

/-- **What is found comes first**, and what comes first is found. -/
theorem findShape_eq_some_iff :
    findShape definitions node = some shape ↔ FirstShape definitions node shape := by
  have hfirst := isFirst_findShape definitions node
  cases hfound : findShape definitions node with
  | none =>
    rw [hfound] at hfirst
    refine ⟨nofun, fun ⟨places, hlies, _⟩ => absurd hlies (hfirst places shape)⟩
  | some found =>
    rw [hfound] at hfirst
    constructor
    · rintro ⟨⟩
      exact hfirst
    · exact fun h => congrArg some (FirstShape.unique hfirst h)

/-- **A shape is found exactly if some walk reaches one**, whatever names it follows how often. -/
theorem isSome_findShape_iff :
    (findShape definitions node).isSome = true ↔ ReachesShape definitions node := by
  rw [← exists_liesAt_iff]
  have hfirst := isFirst_findShape definitions node
  cases hfound : findShape definitions node with
  | none =>
    rw [hfound] at hfirst
    refine ⟨nofun, fun ⟨places, shape, hlies⟩ => absurd hlies (hfirst places shape)⟩
  | some shape =>
    rw [hfound] at hfirst
    obtain ⟨places, hlies, -⟩ := hfirst
    exact ⟨fun _ => ⟨places, shape, hlies⟩, fun _ => rfl⟩

/-! ## Sections -/

/-- **A section may be written several times** if one of its own alternatives is an array. -/
theorem hasArrayAlternative_iff :
    hasArrayAlternative node = true ↔
      ∃ alternatives alternative, node.get? "oneOf" = some (.array alternatives) ∧
        alternative ∈ alternatives ∧ NamesType alternative "array" := by
  simp only [hasArrayAlternative, List.any_eq_true, List.contains_iff_mem, mem_typeNames_iff,
    mem_itemsAt_iff]
  constructor
  · rintro ⟨alternative, ⟨alternatives, harray, hmem⟩, htype⟩
    exact ⟨alternatives, alternative, harray, hmem, htype⟩
  · rintro ⟨alternatives, alternative, harray, hmem, htype⟩
    exact ⟨alternative, ⟨alternatives, harray, hmem⟩, htype⟩

/-- The keys of a shape are those that it defines by objects. -/
theorem mem_keys_keyTypes_iff {key : String} :
    key ∈ (keyTypes definitions shape).keys ↔
      ∃ members, Json.lastOf? key shape = some (.object members) := by
  rw [Dict.mem_keys_iff, get?_keyTypes]
  cases Json.lastOf? key shape with
  | none => simp
  | some node => cases node <;> simp [Option.filter, Json.isObject, Json.members?]

end Schema

namespace SchemaIndex

open NetUnits.Schema

/-- **What an index has of a section** with a definition. -/
structure Describes (index : SchemaIndex) (definitions : Definitions) (header : String)
    (node : Json) : Prop where
  /-- It knows the section exactly if some walk from the definition reaches properties. -/
  known : (∃ keys, index.types.get? header = some keys) ↔ ReachesShape definitions node
  /-- The keys are those that are defined by objects in one shape, the one that comes first. -/
  keys : ∀ keys, index.types.get? header = some keys →
    ∃ shape, (∀ shape', FirstShape definitions node shape' ↔ shape' = shape) ∧
      ∀ key, key ∈ keys.keys ↔ ∃ members, Json.lastOf? key shape = some (.object members)
  /-- The section may be written several times exactly if one of its own alternatives is an array,
  with or without properties. -/
  repeatable : index.repeatable.contains header = true ↔
    ∃ alternatives alternative, node.get? "oneOf" = some (.array alternatives) ∧
      alternative ∈ alternatives ∧ NamesType alternative "array"

/-- **Every schema with properties has an index, which describes all sections** that are defined by
objects. -/
theorem describes_ofSchema (kind : Kind) {schema : Json} {sections : List (String × Json)}
    (h : schema.get? "properties" = some (.object sections)) :
    ∃ index, ofSchema kind schema = .ok index ∧ ∀ header members,
      Json.lastOf? header sections = some (.object members) →
        index.Describes (definitionsOf schema) header (.object members) := by
  have hsections : sectionDefinitions schema =
      some ((Dict.ofList sections).filter fun _ node => node.isObject) := by
    rw [sectionDefinitions, properties?_eq_some_iff.2 h]
    rfl
  refine ⟨_, by rw [ofSchema, hsections], fun header members hdefined => ?_⟩
  have hheader : ((Dict.ofList sections).filter fun _ node => node.isObject).get? header =
      some (.object members) := by
    rw [Dict.get?_filter, get?_ofList_members, hdefined]
    rfl
  have htypes : ∀ keys, (typesOf (definitionsOf schema)
      ((Dict.ofList sections).filter fun _ node => node.isObject)).get? header = some keys ↔
        ∃ shape, findShape (definitionsOf schema) (.object members) = some shape ∧
          keyTypes (definitionsOf schema) shape = keys := fun keys => by
    rw [get?_typesOf, hheader, Option.bind_some, Option.map_eq_some_iff]
  refine ⟨?_, fun keys hkeys => ?_, ?_⟩
  · rw [← isSome_findShape_iff, Option.isSome_iff_exists]
    simp only [htypes]
    exact ⟨fun ⟨_, shape, hshape, _⟩ => ⟨shape, hshape⟩, fun ⟨shape, hshape⟩ =>
      ⟨_, shape, hshape, rfl⟩⟩
  · obtain ⟨shape, hshape, rfl⟩ := (htypes keys).1 hkeys
    have hfirst := findShape_eq_some_iff.1 hshape
    refine ⟨shape, fun shape' => ⟨fun h => h.unique hfirst, ?_⟩, fun _ => mem_keys_keyTypes_iff⟩
    rintro rfl
    exact hfirst
  · rw [← hasArrayAlternative_iff, Dict.contains, Dict.get?_mapValues, Dict.get?_filter, hheader]
    cases harray : hasArrayAlternative (.object members) <;> simp [Option.filter, harray]

/-- A definition that leads to itself before it leads to properties, and one that only leads to
itself and is an array otherwise. -/
theorem describes_ofSchema_cycle :
    let a : Json := .object [("oneOf", .array
      [.object [("$ref", .string "#/definitions/a")], .object [("$ref", .string "b")]])]
    let b : Json := .object [("items", .object
      [("properties", .object [("Name", .object []), ("Kind", .bool true)])])]
    let c : Json := .object [("items", .object [("$ref", .string "#/definitions/c")])]
    let link : List (String × Json) := [("$ref", .string "#/definitions/a")]
    let route : List (String × Json) := [("oneOf", .array
      [.object [("$ref", .string "#/definitions/c")], .object [("type", .string "array")]])]
    let schema : Json := .object
      [("definitions", .object [("a", a), ("b", b), ("c", c)]),
        ("properties", .object [("Link", .object link), ("Route", .object route)])]
    FirstShape (definitionsOf schema) (.object link)
        [("Name", .object []), ("Kind", .bool true)] ∧
      ¬ ReachesShape (definitionsOf schema) (.object route) ∧
        ∃ index, ofSchema .network schema = .ok index ∧
          index.Describes (definitionsOf schema) "Link" (.object link) ∧
            index.Describes (definitionsOf schema) "Route" (.object route) := by
  intro a b c link route schema
  have hsections : schema.get? "properties" =
      some (.object [("Link", .object link), ("Route", .object route)]) := by rfl
  obtain ⟨index, hindex, hdescribes⟩ := describes_ofSchema .network hsections
  refine ⟨findShape_eq_some_iff.1 (by rfl), ?_, index, hindex, hdescribes "Link" link (by rfl),
    hdescribes "Route" route (by rfl)⟩
  rw [← isSome_findShape_iff]
  decide +kernel

end SchemaIndex

end NetUnits
