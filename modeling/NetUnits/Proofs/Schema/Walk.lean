import Mathlib.Data.List.Basic
import NetUnits.Schema.Index

/-! # Walks through a schema

A node with a reference leads to the definition of that name and nowhere else. A node without one
leads to its alternatives, under certain keys, and to its items. A walk may follow the same name any
number of times, but it need not: what it reaches is also reached without a repetition.

* **`Branch`** — the nodes that a node leads to without a reference.
* **`Walk`** — the walks from a node, with the names that they follow and their length.
* **`Walk.exists_suffix`** — a walk goes on from the definition of each name that it follows.
* **`Walk.exists_nodup`** — every walk can be cut to one that follows no name twice. -/

namespace NetUnits.Schema

/-- **A node leads to another without a reference**: to an element of an array under one of the
keys, or to its items. -/
inductive Branch (keys : List String) (node : Json) : Json → Prop
  /-- An element of an array of alternatives. -/
  | alternative {key : String} {items : List Json} {next : Json} (hkey : key ∈ keys)
      (harray : node.get? key = some (.array items)) (hmem : next ∈ items) : Branch keys node next
  /-- The items. -/
  | items {next : Json} (hitems : node.get? "items" = some next) : Branch keys node next

/-- **A walk from a node to another**, with the names of the references that it follows, in order,
and its length. -/
inductive Walk (definitions : Definitions) (keys : List String) :
    Json → List String → Nat → Json → Prop
  /-- The walk that stays where it is. -/
  | stop (node : Json) : Walk definitions keys node [] 0 node
  /-- A walk that begins with a reference. -/
  | follow {node target last : Json} {reference : String} {names : List String} {length : Nat}
      (href : reference? node = some reference)
      (htarget : Json.lastOf? (referenceName reference) definitions = some target)
      (rest : Walk definitions keys target names length last) :
      Walk definitions keys node (referenceName reference :: names) (length + 1) last
  /-- A walk that begins at a node without a reference. -/
  | branch {node next last : Json} {names : List String} {length : Nat}
      (href : reference? node = none) (hbranch : Branch keys node next)
      (rest : Walk definitions keys next names length last) :
      Walk definitions keys node names (length + 1) last

variable {definitions : Definitions} {keys : List String}

/-- The elements under a key are those of the array there, if there is one. -/
theorem mem_itemsAt_iff {key : String} {node next : Json} :
    next ∈ node.itemsAt key ↔ ∃ items, node.get? key = some (.array items) ∧ next ∈ items := by
  unfold Json.itemsAt
  cases hget : node.get? key with
  | none => simp
  | some value => cases value <;> simp [Json.items?]

/-- **The nodes that a node leads to**, as a list. -/
theorem branch_iff_mem {node next : Json} :
    Branch keys node next ↔
      next ∈ keys.flatMap node.itemsAt ++ (node.get? "items").toList := by
  rw [List.mem_append, List.mem_flatMap, Option.mem_toList]
  constructor
  · rintro (⟨hkey, harray, hmem⟩ | hitems)
    · exact .inl ⟨_, hkey, mem_itemsAt_iff.2 ⟨_, harray, hmem⟩⟩
    · exact .inr hitems
  · rintro (⟨key, hkey, hmem⟩ | hitems)
    · obtain ⟨items, harray, hmem⟩ := mem_itemsAt_iff.1 hmem
      exact .alternative hkey harray hmem
    · exact .items hitems

namespace Walk

/-- **A walk goes on from the definition of each name that it follows**: behind the last place where
it follows the name, it is a shorter walk without this name and without further ones. -/
theorem exists_suffix {node last : Json} {names : List String} {length : Nat} {name : String}
    (h : Walk definitions keys node names length last) (hname : name ∈ names) :
    ∃ target rest steps, Json.lastOf? name definitions = some target ∧ name ∉ rest ∧
      rest ⊆ names ∧ steps < length ∧ Walk definitions keys target rest steps last := by
  induction h with
  | stop node => exact absurd hname List.not_mem_nil
  | @follow _ target _ reference names length href htarget walk ih =>
    -- a later place where the name is followed is better, since it comes closer to the end
    by_cases hlater : name ∈ names
    · obtain ⟨target, rest, steps, hdef, hfresh, hsub, hlt, hwalk⟩ := ih hlater
      exact ⟨target, rest, steps, hdef, hfresh, List.subset_cons_of_subset _ hsub, by omega, hwalk⟩
    · obtain rfl : name = referenceName reference := (List.mem_cons.1 hname).resolve_right hlater
      exact ⟨target, names, length, htarget, hlater, List.subset_cons_self _ _,
        Nat.lt_succ_self length, walk⟩
  | branch href hbranch walk ih =>
    obtain ⟨target, rest, steps, hdef, hfresh, hsub, hlt, hwalk⟩ := ih hname
    exact ⟨target, rest, steps, hdef, hfresh, hsub, by omega, hwalk⟩

/-- **A walk from the definition of a name need not follow this name.** -/
theorem exists_avoiding {name : String} {target last : Json} {names : List String} {length : Nat}
    (htarget : Json.lastOf? name definitions = some target)
    (h : Walk definitions keys target names length last) :
    ∃ rest steps, name ∉ rest ∧ rest ⊆ names ∧ steps ≤ length ∧
      Walk definitions keys target rest steps last := by
  by_cases hname : name ∈ names
  · obtain ⟨target', rest, steps, hdef, hfresh, hsub, hlt, hwalk⟩ := h.exists_suffix hname
    obtain rfl : target = target' := Option.some.inj (htarget.symm.trans hdef)
    exact ⟨rest, steps, hfresh, hsub, Nat.le_of_lt hlt, hwalk⟩
  · exact ⟨names, length, hname, List.Subset.refl names, Nat.le_refl length, h⟩

/-- **Every walk can be cut to one that follows no name twice**, is not longer and follows no
further names. -/
theorem exists_nodup {node last : Json} {names : List String} {length : Nat}
    (h : Walk definitions keys node names length last) :
    ∃ rest steps, rest.Nodup ∧ rest ⊆ names ∧ steps ≤ length ∧
      Walk definitions keys node rest steps last := by
  -- a walk is cut behind its first name before its rest is, so the induction is on the length
  induction length using Nat.strongRecOn generalizing node names with
  | ind length ih =>
    cases h with
    | stop _ => exact ⟨[], 0, List.nodup_nil, List.Subset.refl _, Nat.le_refl _, stop _⟩
    | @follow _ target _ reference names length href htarget walk =>
      obtain ⟨rest, steps, hfresh, hsub, hle, hwalk⟩ := walk.exists_avoiding htarget
      obtain ⟨rest', steps', hnodup, hsub', hle', hwalk'⟩ := ih steps (by omega) hwalk
      have hnew : referenceName reference ∉ rest' := fun hmem => hfresh (hsub' hmem)
      exact ⟨referenceName reference :: rest', steps' + 1, List.nodup_cons.2 ⟨hnew, hnodup⟩,
        List.cons_subset_cons _ (List.Subset.trans hsub' hsub), by omega,
        follow href htarget hwalk'⟩
    | branch href hbranch walk =>
      obtain ⟨rest, steps, hnodup, hsub, hle, hwalk⟩ := ih _ (Nat.lt_succ_self _) walk
      exact ⟨rest, steps + 1, hnodup, hsub, by omega, branch href hbranch hwalk⟩

end Walk

end NetUnits.Schema
