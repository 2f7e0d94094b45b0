import Mathlib.Data.List.Flatten
import Mathlib.Tactic.Common

/-! # A list in parts

A list is divided into parts from its first item to its last. What has been read of a part decides
whether the next item still belongs to it:

* **`Division`** — a division by such a test, as what holds between the items and the parts.
* **`divide`** — the parts, found item by item; **`division_divide`** says that they are a division.
* **`Division.eq_divide`** — there is no other division.
* **`Division.append`**, **`Division.of_append`** — divisions put together and taken apart;
  **`Division.exists_append_of_stops`** — behind an item with which no part goes on. -/

namespace NetUnits

variable {α : Type} {goesOn : List α → Bool}

/-! ## Parts and divisions -/

/-- **What is read of a part goes on** as long as an item of the part is still to come. -/
def GoesOnWithin (goesOn : List α → Bool) (part : List α) : Prop :=
  ∀ read rest, part = read ++ rest → read ≠ [] → rest ≠ [] → goesOn read = true

/-- **A division of items into parts**: an item belongs to the same part as the one before it
exactly if what has been read of that part goes on. -/
structure Division (goesOn : List α → Bool) (items : List α) (parts : List (List α)) : Prop where
  /-- Every item belongs to exactly one part, in order. -/
  flatten_eq : parts.flatten = items
  /-- A part has an item at least. -/
  ne_nil : ∀ part ∈ parts, part ≠ []
  /-- An item is followed by another one of its part where the part goes on. -/
  within : ∀ part ∈ parts, GoesOnWithin goesOn part
  /-- It is followed by the first of the next part where the part does not go on. -/
  ended : ∀ part ∈ parts.dropLast, goesOn part = false

/-- The parts of items, when the items of `read` are already read of the first part. -/
def divideFrom (goesOn : List α → Bool) (read : List α) : List α → List (List α)
  | [] => if read.isEmpty then [] else [read]
  | item :: rest =>
    if goesOn (read ++ [item]) then divideFrom goesOn (read ++ [item]) rest
    else (read ++ [item]) :: divideFrom goesOn [] rest

/-- **The parts of a list.** -/
def divide (goesOn : List α → Bool) (items : List α) : List (List α) :=
  divideFrom goesOn [] items

@[simp] theorem divide_nil : divide goesOn [] = [] := rfl

/-- An item either leaves the part unfinished or closes it. -/
theorem divideFrom_cons (read : List α) (item : α) (rest : List α) :
    divideFrom goesOn read (item :: rest) =
      if goesOn (read ++ [item]) then divideFrom goesOn (read ++ [item]) rest
      else (read ++ [item]) :: divideFrom goesOn [] rest := rfl

/-! ## Divisions part by part -/

theorem division_nil : Division goesOn [] [] where
  flatten_eq := rfl
  ne_nil := by simp
  within := by simp
  ended := by simp

/-- One part more at the front. -/
theorem Division.cons {items part : List α} {parts : List (List α)}
    (h : Division goesOn items parts) (hne : part ≠ []) (hwithin : GoesOnWithin goesOn part)
    (hended : parts ≠ [] → goesOn part = false) :
    Division goesOn (part ++ items) (part :: parts) where
  flatten_eq := by rw [List.flatten_cons, h.flatten_eq]
  ne_nil := List.forall_mem_cons.2 ⟨hne, h.ne_nil⟩
  within := List.forall_mem_cons.2 ⟨hwithin, h.within⟩
  ended := by
    cases parts with
    | nil => simp
    | cons next others =>
      rw [List.dropLast_cons_cons]
      exact List.forall_mem_cons.2 ⟨hended (List.cons_ne_nil _ _), h.ended⟩

/-- **The parts that are found item by item are a division.** -/
theorem division_divideFrom (read : List α)
    (h : ∀ first rest, read = first ++ rest → first ≠ [] → goesOn first = true)
    (items : List α) : Division goesOn (read ++ items) (divideFrom goesOn read items) := by
  induction items generalizing read with
  | nil =>
    by_cases hread : read = []
    · subst hread
      exact division_nil
    · have hparts : divideFrom goesOn read [] = [read] := by simp [divideFrom, hread]
      rw [hparts]
      exact division_nil.cons hread (fun first rest heq hfirst _ => h first rest heq hfirst)
        (fun hnil => absurd rfl hnil)
  | cons item rest ih =>
    rw [divideFrom_cons]
    by_cases hgoes : goesOn (read ++ [item])
    · -- the item joins the part, and all that is read of it still goes on
      rw [if_pos hgoes, ← List.singleton_append, ← List.append_assoc]
      refine ih (read ++ [item]) fun first tail heq hfirst => ?_
      rcases List.append_eq_append_iff.1 heq with ⟨as, rfl, htail⟩ | ⟨bs, hread, -⟩
      · rcases List.append_eq_singleton_iff.1 htail.symm with ⟨rfl, -⟩ | ⟨rfl, -⟩
        · rw [List.append_nil]
          by_cases hread : read = []
          · exact absurd (by simpa using hread) hfirst
          · exact h read [] (by simp) hread
        · exact hgoes
      · exact h first bs hread hfirst
    · -- the item is the last of its part
      rw [if_neg hgoes, ← List.singleton_append, ← List.append_assoc]
      refine (ih [] (by simp)).cons (by simp) ?_ (fun _ => by simpa using hgoes)
      intro first tail heq hfirst htail
      obtain ⟨front, last, rfl⟩ := List.eq_nil_or_concat tail |>.resolve_left htail
      rw [List.concat_eq_append, ← List.append_assoc] at heq
      exact h first front (List.append_inj_left' heq rfl) hfirst

theorem division_divide (items : List α) : Division goesOn items (divide goesOn items) :=
  division_divideFrom [] (by simp) items

/-! ## There is no other division -/

/-- Items of one part are read up to the last of them. -/
theorem divideFrom_append {part : List α} (hne : part ≠ []) (read : List α)
    (hwithin : ∀ first tail, part = first ++ tail → first ≠ [] → tail ≠ [] →
      goesOn (read ++ first) = true) (rest : List α) :
    divideFrom goesOn read (part ++ rest) =
      if goesOn (read ++ part) then divideFrom goesOn (read ++ part) rest
      else (read ++ part) :: divideFrom goesOn [] rest := by
  induction part generalizing read with
  | nil => exact absurd rfl hne
  | cons item others ih =>
    by_cases hothers : others = []
    · subst hothers
      rfl
    · -- the part has more items, so it goes on behind the first
      have hgoes : goesOn (read ++ [item]) = true :=
        hwithin [item] others rfl (List.cons_ne_nil _ _) hothers
      have hassoc : read ++ item :: others = (read ++ [item]) ++ others := by simp
      rw [List.cons_append, divideFrom_cons, if_pos hgoes, hassoc]
      refine ih hothers (read ++ [item]) fun first tail heq hfirst htail => ?_
      have hlonger := hwithin (item :: first) tail (by rw [heq]; rfl) (List.cons_ne_nil _ _) htail
      rwa [← List.singleton_append, ← List.append_assoc] at hlonger

/-- **A list has only one division.** -/
theorem Division.eq_divide {items : List α} {parts : List (List α)}
    (h : Division goesOn items parts) : parts = divide goesOn items := by
  induction parts generalizing items with
  | nil =>
    obtain rfl := h.flatten_eq
    rfl
  | cons part parts ih =>
    obtain ⟨hne, hothers⟩ := List.forall_mem_cons.1 h.ne_nil
    obtain ⟨hwithin, hinner⟩ := List.forall_mem_cons.1 h.within
    have hread := divideFrom_append hne [] (fun first tail heq => hwithin first tail heq)
      parts.flatten
    rw [← h.flatten_eq, List.flatten_cons, divide, hread, List.nil_append]
    cases parts with
    | nil => by_cases hgoes : goesOn part <;> simp [hgoes, divideFrom, hne]
    | cons next parts =>
      have hends := h.ended
      rw [List.dropLast_cons_cons] at hends
      obtain ⟨hpart, hended⟩ := List.forall_mem_cons.1 hends
      have hrest : Division goesOn (next :: parts).flatten (next :: parts) :=
        ⟨rfl, hothers, hinner, hended⟩
      rw [if_neg (by simp [hpart]), ← divide, ← ih hrest]

/-! ## Divisions in sequence -/

/-- **Two divisions in sequence**, if the last part of the first one has come to its end. -/
theorem Division.append {a b : List α} {as bs : List (List α)} (ha : Division goesOn a as)
    (hb : Division goesOn b bs) (hclosed : ∀ part, as.getLast? = some part → goesOn part = false) :
    Division goesOn (a ++ b) (as ++ bs) where
  flatten_eq := by rw [List.flatten_append, ha.flatten_eq, hb.flatten_eq]
  ne_nil := List.forall_mem_append.2 ⟨ha.ne_nil, hb.ne_nil⟩
  within := List.forall_mem_append.2 ⟨ha.within, hb.within⟩
  ended := by
    by_cases hnil : bs = []
    · rw [hnil, List.append_nil]
      exact ha.ended
    · rw [List.dropLast_append_of_ne_nil hnil]
      refine List.forall_mem_append.2 ⟨fun part hpart => ?_, hb.ended⟩
      -- a part of the first division is its last one, or was followed by another already
      by_cases has : as = []
      · exact absurd hpart (by simp [has])
      · rw [← List.dropLast_concat_getLast has] at hpart
        rcases List.mem_append.1 hpart with hpart | hpart
        · exact ha.ended part hpart
        · obtain rfl := List.mem_singleton.1 hpart
          exact hclosed _ (List.getLast?_eq_some_getLast has)

/-- **The first parts of a division** are a division of their items. -/
theorem Division.of_append {items : List α} {as bs : List (List α)}
    (h : Division goesOn items (as ++ bs)) : Division goesOn as.flatten as where
  flatten_eq := rfl
  ne_nil := (List.forall_mem_append.1 h.ne_nil).1
  within := (List.forall_mem_append.1 h.within).1
  ended := fun part hpart => h.ended part (by
    by_cases hbs : bs = []
    · rwa [hbs, List.append_nil]
    · rw [List.dropLast_append_of_ne_nil hbs]
      exact List.mem_append_left _ ((List.dropLast_sublist as).mem hpart))

/-- **An item with which no part goes on** is the last of its part. -/
theorem Division.exists_append_of_stops {before after : List α} {item : α} {parts : List (List α)}
    (h : Division goesOn (before ++ item :: after) parts)
    (hstops : ∀ read, goesOn (read ++ [item]) = false) :
    ∃ as bs, parts = as ++ bs ∧ as.flatten = before ++ [item] ∧ bs.flatten = after := by
  have hflatten : parts.flatten = (before ++ [item]) ++ after := by
    rw [h.flatten_eq]
    simp
  rcases List.flatten_eq_append_iff.1 hflatten with
    ⟨as, bs, rfl, has, hbs⟩ | ⟨as, read, next, rest, bs, rfl, hbefore, hafter⟩
  · exact ⟨as, bs, rfl, has.symm, hbs.symm⟩
  · rcases List.eq_nil_or_concat read with rfl | ⟨front, last, rfl⟩
    · exact ⟨as, (next :: rest) :: bs, rfl, by rw [hbefore, List.append_nil], by
        rw [hafter, List.flatten_cons]⟩
    · -- the part would go on with the item
      rw [List.concat_eq_append, ← List.append_assoc] at hbefore
      obtain rfl : item = last := by simpa using congrArg List.getLast? hbefore
      have hgoes := h.within _ (List.mem_append_right as List.mem_cons_self) _ (next :: rest)
        rfl (by simp) (List.cons_ne_nil _ _)
      rw [List.concat_eq_append, hstops] at hgoes
      exact absurd hgoes Bool.false_ne_true

end NetUnits
