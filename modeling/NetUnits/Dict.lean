/-!
# Dictionaries in key order

A **dictionary** maps strings to values and keeps its entries in strictly ascending key order
(by code point). The order is part of the type, so two dictionaries are equal exactly when they
have the same entries, and everything written from one comes out sorted.

* **`Dict.get?`**, **`Dict.insert`**, **`Dict.erase`** — look up, add or replace, remove.
* **`Dict.ofList`** — the entries of a list, of which the last with a key wins.
* **`Dict.mapValues`**, **`Dict.filter`** — change or select entries.
-/

namespace NetUnits

/-- **A dictionary with string keys**: its entries, in strictly ascending key order. -/
structure Dict (β : Type) where
  /-- The entries in key order. -/
  entries : List (String × β)
  /-- Keys ascend strictly, so none occurs twice. -/
  sorted : entries.Pairwise (·.1 < ·.1)

namespace Dict

variable {β γ : Type}

instance [DecidableEq β] : DecidableEq (Dict β) := fun a b =>
  match decEq a.entries b.entries with
  | .isTrue h => .isTrue (by cases a; cases b; simp_all)
  | .isFalse h => .isFalse (by rintro rfl; exact h rfl)

@[ext] theorem ext {a b : Dict β} (h : a.entries = b.entries) : a = b := by
  cases a; cases b; simp_all

/-- The dictionary without entries. -/
def empty : Dict β := ⟨[], .nil⟩

instance : EmptyCollection (Dict β) := ⟨empty⟩

instance : Inhabited (Dict β) := ⟨empty⟩

@[simp] theorem entries_empty : (∅ : Dict β).entries = [] := rfl

/-- The value of `key` in a list of entries: that of the first entry with the key. -/
def find? (key : String) : List (String × β) → Option β
  | [] => none
  | (k, v) :: rest => if k = key then some v else find? key rest

/-- **The value of a key.** -/
def get? (d : Dict β) (key : String) : Option β :=
  find? key d.entries

/-- Whether a key has a value. -/
def contains (d : Dict β) (key : String) : Bool :=
  (d.get? key).isSome

/-- The keys, in ascending order. -/
def keys (d : Dict β) : List String :=
  d.entries.map (·.1)

/-- The values, in the order of their keys. -/
def values (d : Dict β) : List β :=
  d.entries.map (·.2)

/-- The number of entries. -/
def size (d : Dict β) : Nat :=
  d.entries.length

/-- Adds an entry at its place in an ascending list, or replaces the one with its key. -/
def insertEntry (key : String) (value : β) : List (String × β) → List (String × β)
  | [] => [(key, value)]
  | (k, v) :: rest =>
    if key < k then (key, value) :: (k, v) :: rest
    else if key = k then (key, value) :: rest
    else (k, v) :: insertEntry key value rest

theorem mem_insertEntry {key : String} {value : β} {e : String × β} {es : List (String × β)}
    (h : e ∈ insertEntry key value es) : e = (key, value) ∨ e ∈ es := by
  induction es with
  | nil => simpa [insertEntry] using h
  | cons hd rest ih =>
    obtain ⟨k, v⟩ := hd
    rw [insertEntry] at h
    split at h
    · simpa using h
    · split at h
      · rcases List.mem_cons.1 h with h | h
        · exact .inl h
        · exact .inr (List.mem_cons_of_mem _ h)
      · rcases List.mem_cons.1 h with h | h
        · exact .inr (h ▸ List.mem_cons_self)
        · exact (ih h).imp_right (List.mem_cons_of_mem _)

theorem pairwise_insertEntry (key : String) (value : β) {es : List (String × β)}
    (h : es.Pairwise (·.1 < ·.1)) : (insertEntry key value es).Pairwise (·.1 < ·.1) := by
  induction es with
  | nil => simp [insertEntry]
  | cons hd rest ih =>
    obtain ⟨k, v⟩ := hd
    obtain ⟨hk, hrest⟩ := List.pairwise_cons.1 h
    rw [insertEntry]
    split
    · rename_i hlt
      refine List.pairwise_cons.2 ⟨fun e he => ?_, h⟩
      rcases List.mem_cons.1 he with rfl | he
      · exact hlt
      · exact String.lt_trans hlt (hk e he)
    · split
      · rename_i heq
        subst heq
        exact List.pairwise_cons.2 ⟨hk, hrest⟩
      · rename_i hlt hne
        refine List.pairwise_cons.2 ⟨fun e he => ?_, ih hrest⟩
        rcases mem_insertEntry he with rfl | he
        · exact Std.lt_of_le_of_ne (Std.not_lt.1 hlt) (Ne.symm hne)
        · exact hk e he

/-- **Adds an entry**, or replaces the value of its key. -/
def insert (d : Dict β) (key : String) (value : β) : Dict β :=
  ⟨insertEntry key value d.entries, pairwise_insertEntry key value d.sorted⟩

/-- **Removes a key** with its value. -/
def erase (d : Dict β) (key : String) : Dict β :=
  ⟨d.entries.filter (·.1 ≠ key), d.sorted.filter _⟩

/-- **The entries of a list**; the last entry with a key wins. -/
def ofList (es : List (String × β)) : Dict β :=
  es.foldl (fun d e => d.insert e.1 e.2) ∅

/-- The dictionary with the same keys and changed values. -/
def mapValues (f : String → β → γ) (d : Dict β) : Dict γ :=
  ⟨d.entries.map fun e => (e.1, f e.1 e.2), List.pairwise_map.2 d.sorted⟩

/-- The entries that satisfy a test. -/
def filter (p : String → β → Bool) (d : Dict β) : Dict β :=
  ⟨d.entries.filter fun e => p e.1 e.2, d.sorted.filter _⟩

/-! ## Look up after a change -/

theorem find?_insertEntry (key key' : String) (value : β) (es : List (String × β)) :
    find? key' (insertEntry key value es) = if key = key' then some value else find? key' es := by
  induction es with
  | nil => simp [insertEntry, find?]
  | cons hd rest ih =>
    obtain ⟨k, v⟩ := hd
    rw [insertEntry]
    split
    · simp [find?]
    · split
      · rename_i heq
        subst heq
        simp only [find?]
        split <;> simp_all
      · simp only [find?, ih]
        split <;> simp_all

@[simp] theorem get?_empty (key : String) : (∅ : Dict β).get? key = none := rfl

/-- The key added has the value added; other keys keep theirs. -/
@[simp] theorem get?_insert (d : Dict β) (key key' : String) (value : β) :
    (d.insert key value).get? key' = if key = key' then some value else d.get? key' :=
  find?_insertEntry key key' value d.entries

theorem find?_filter_ne (key key' : String) (es : List (String × β)) :
    find? key' (es.filter (·.1 ≠ key)) = if key = key' then none else find? key' es := by
  induction es with
  | nil => simp [find?]
  | cons hd rest ih =>
    obtain ⟨k, v⟩ := hd
    by_cases h : k = key
    · subst h
      simp only [ne_eq, not_true_eq_false, decide_false, Bool.false_eq_true, not_false_eq_true,
        List.filter_cons_of_neg, find?]
      simp only [ne_eq] at ih
      rw [ih]
      split <;> simp_all
    · simp only [ne_eq, h, not_false_eq_true, decide_true, List.filter_cons_of_pos, find?]
      simp only [ne_eq] at ih
      rw [ih]
      split
      · rename_i heq
        simp [← heq, Ne.symm h]
      · rfl

/-- The key removed has no value; other keys keep theirs. -/
@[simp] theorem get?_erase (d : Dict β) (key key' : String) :
    (d.erase key).get? key' = if key = key' then none else d.get? key' :=
  find?_filter_ne key key' d.entries

/-- A key has a value exactly when an entry says so. -/
theorem get?_eq_some_iff {d : Dict β} {key : String} {value : β} :
    d.get? key = some value ↔ (key, value) ∈ d.entries := by
  obtain ⟨es, hs⟩ := d
  simp only [get?]
  induction es with
  | nil => simp [find?]
  | cons hd rest ih =>
    obtain ⟨k, v⟩ := hd
    obtain ⟨hk, hrest⟩ := List.pairwise_cons.1 hs
    rw [find?]
    split
    · rename_i heq
      subst heq
      constructor
      · rintro ⟨⟩
        exact List.mem_cons_self
      · intro h
        rcases List.mem_cons.1 h with h | h
        · simp [(Prod.mk.inj h).2]
        · exact absurd (hk _ h) (String.lt_irrefl _)
    · rename_i hne
      rw [ih hrest, List.mem_cons]
      constructor
      · exact .inr
      · rintro (h | h)
        · exact absurd (Prod.mk.inj h).1.symm hne
        · exact h

end Dict

end NetUnits
