import NetUnits.Dict
import Mathlib.Data.List.Nodup

/-! # Dictionaries by their lookups

A dictionary is determined by its lookups, so each operation is described by what it does to them:

* **`Dict.ext_get?`** — dictionaries with the same lookups are equal.
* **`Dict.get?_ofList`** — in a list of entries the last one with a key counts;
  **`Dict.get?_ofList_filterMap`** — entries made from distinct keys.
* **`Dict.insert_insert_of_get?`**, **`Dict.erase_insert_of_get?_none`**,
  **`Dict.insert_erase_of_get?`** — a change that is undone.
* **`Dict.filterMap`** — entries changed or left out; **`Dict.ofList_filterMap`** builds it from a
  list.
* **`Dict.filter_flatMap`** — of what all entries contribute, the part of one key. -/

namespace NetUnits.Dict

variable {β γ δ : Type}

/-! ## Lookups in lists -/

theorem find?_append (key : String) (a b : List (String × β)) :
    find? key (a ++ b) = (find? key a).or (find? key b) := by
  induction a with
  | nil => simp [find?]
  | cons e a ih =>
    obtain ⟨k, v⟩ := e
    by_cases h : k = key <;> simp [find?, h, ih]

/-- Without the key there is nothing to find. -/
theorem find?_eq_none_iff {key : String} {es : List (String × β)} :
    find? key es = none ↔ key ∉ es.map (·.1) := by
  induction es with
  | nil => simp [find?]
  | cons e es ih =>
    obtain ⟨k, v⟩ := e
    by_cases h : k = key
    · simp [find?, h]
    · simp [find?, h, ih, Ne.symm h]

/-- What is found is there. -/
theorem mem_of_find? {key : String} {v : β} {es : List (String × β)} (h : find? key es = some v) :
    (key, v) ∈ es := by
  induction es with
  | nil => exact nomatch h
  | cons e es ih =>
    obtain ⟨k, w⟩ := e
    rw [find?] at h
    split at h
    · rename_i hk
      obtain rfl := Option.some.inj h
      exact hk ▸ List.mem_cons_self
    · exact List.mem_cons_of_mem _ (ih h)

/-- Among distinct keys, what is found is what is there. -/
theorem find?_eq_some_iff {key : String} {v : β} {es : List (String × β)}
    (h : (es.map (·.1)).Nodup) : find? key es = some v ↔ (key, v) ∈ es := by
  induction es with
  | nil => simp [find?]
  | cons e es ih =>
    obtain ⟨k, w⟩ := e
    rw [List.map_cons, List.nodup_cons] at h
    by_cases hk : k = key
    · subst hk
      have hnot : (k, v) ∉ es := fun hmem => h.1 (List.mem_map.2 ⟨(k, v), hmem, rfl⟩)
      simp [find?, hnot, eq_comm]
    · simp [find?, hk, ih h.2, Ne.symm hk]

/-! ## Lookups in dictionaries -/

theorem nodup_keys (d : Dict β) : (d.entries.map (·.1)).Nodup :=
  List.pairwise_map.2 (d.sorted.imp fun {a b} (h : a.1 < b.1) (heq : a.1 = b.1) =>
    String.lt_irrefl b.1 (heq ▸ h))

/-- **Dictionaries with the same lookups are equal.** -/
theorem ext_get? {a b : Dict β} (h : ∀ key, a.get? key = b.get? key) : a = b := by
  -- both hold the same entries, and strictly ascending keys leave one way to arrange them
  have hnodup : ∀ d : Dict β, d.entries.Nodup := fun d => List.Nodup.of_map _ d.nodup_keys
  have hperm : a.entries.Perm b.entries := by
    refine (List.perm_ext_iff_of_nodup (hnodup a) (hnodup b)).2 ?_
    rintro ⟨k, v⟩
    rw [← get?_eq_some_iff, ← get?_eq_some_iff, h k]
  have hanti : ∀ e f : String × β, e ∈ a.entries → f ∈ b.entries → e.1 < f.1 → f.1 < e.1 → e = f :=
    fun e f _ _ hef hfe => absurd (String.lt_trans hef hfe) (String.lt_irrefl _)
  exact ext (hperm.eq_of_pairwise hanti a.sorted b.sorted)

theorem get?_foldl_insert (es : List (String × β)) (d : Dict β) (key : String) :
    (es.foldl (fun d e => d.insert e.1 e.2) d).get? key =
      (find? key es.reverse).or (d.get? key) := by
  -- later entries replace earlier ones, so the list is looked through from its end
  induction es generalizing d with
  | nil => simp [find?]
  | cons e es ih =>
    obtain ⟨k, v⟩ := e
    rw [List.foldl_cons, ih, List.reverse_cons, find?_append, get?_insert, Option.or_assoc]
    by_cases h : k = key <;> simp [find?, h]

/-- **The last entry with a key counts.** -/
theorem get?_ofList (es : List (String × β)) (key : String) :
    (ofList es).get? key = find? key es.reverse := by
  simp [ofList, get?_foldl_insert]

/-- What a list of entries gives a key is one of its entries. -/
theorem mem_of_get?_ofList {es : List (String × β)} {key : String} {v : β}
    (h : (ofList es).get? key = some v) : (key, v) ∈ es := by
  rw [get?_ofList] at h
  exact List.mem_reverse.1 (mem_of_find? h)

/-- A key of a dictionary is one that has a value. -/
theorem mem_keys_iff {d : Dict β} {key : String} : key ∈ d.keys ↔ ∃ v, d.get? key = some v := by
  simp [keys, get?_eq_some_iff]

/-- A value is that of some key. -/
theorem mem_values_iff {d : Dict β} {v : β} : v ∈ d.values ↔ ∃ key, d.get? key = some v := by
  simp [values, get?_eq_some_iff]

/-- Among distinct keys every entry counts. -/
theorem get?_ofList_eq_some_iff {es : List (String × β)} (h : (es.map (·.1)).Nodup)
    {key : String} {v : β} : (ofList es).get? key = some v ↔ (key, v) ∈ es := by
  have hrev : (es.reverse.map (·.1)).Nodup := by
    rwa [List.map_reverse, List.nodup_reverse]
  rw [get?_ofList, find?_eq_some_iff hrev, List.mem_reverse]

/-- **Entries made from distinct keys**: each key has what it is given. -/
theorem get?_ofList_filterMap {ks : List String} (h : ks.Nodup) (f : String → Option β)
    (key : String) :
    (ofList (ks.filterMap fun k => (f k).map (k, ·))).get? key =
      if key ∈ ks then f key else none := by
  have hnodup : ((ks.filterMap fun k => (f k).map (k, ·)).map (·.1)).Nodup := by
    refine List.pairwise_map.2 (List.Pairwise.filterMap _ ?_ h)
    intro k k' hne e he e' he'
    obtain ⟨v, -, rfl⟩ := Option.map_eq_some_iff.1 he
    obtain ⟨v', -, rfl⟩ := Option.map_eq_some_iff.1 he'
    exact hne
  refine Option.ext fun v => ?_
  rw [get?_ofList_eq_some_iff hnodup, List.mem_filterMap]
  by_cases hkey : key ∈ ks
  · rw [if_pos hkey]
    constructor
    · rintro ⟨k, -, hv⟩
      obtain ⟨w, hw, heq⟩ := Option.map_eq_some_iff.1 hv
      obtain ⟨rfl, rfl⟩ := Prod.mk.inj heq
      exact hw
    · intro hv
      exact ⟨key, hkey, by simp [hv]⟩
  · rw [if_neg hkey]
    constructor
    · rintro ⟨k, hk, hv⟩
      obtain ⟨w, -, heq⟩ := Option.map_eq_some_iff.1 hv
      exact absurd ((Prod.mk.inj heq).1 ▸ hk) hkey
    · intro hv
      simp at hv

/-- The entries of a dictionary make up the dictionary. -/
@[simp] theorem ofList_entries (d : Dict β) : ofList d.entries = d := by
  refine ext_get? fun key => Option.ext fun v => ?_
  rw [get?_ofList_eq_some_iff d.nodup_keys, get?_eq_some_iff]

/-! ## Changes that are undone -/

/-- Dictionaries that may differ at one key only are equal if they do not differ there. -/
theorem ext_get?_of_ne {a b : Dict β} (key : String) (hkey : a.get? key = b.get? key)
    (hne : ∀ key', key ≠ key' → a.get? key' = b.get? key') : a = b := by
  refine ext_get? fun key' => ?_
  by_cases heq : key = key'
  · exact heq ▸ hkey
  · exact hne key' heq

section Undone

variable {d : Dict β} {key : String} {value old : β}

/-- A key without a value is not there to be removed. -/
theorem erase_of_get?_none (h : d.get? key = none) : d.erase key = d :=
  ext_get?_of_ne key (by simp [h]) fun key' hne => by simp [hne]

/-- **A value that was replaced is put back.** -/
theorem insert_insert_of_get? (h : d.get? key = some old) :
    (d.insert key value).insert key old = d :=
  ext_get?_of_ne key (by simp [h]) fun key' hne => by simp [hne]

/-- **A value that was added is taken away again.** -/
theorem erase_insert_of_get?_none (h : d.get? key = none) :
    (d.insert key value).erase key = d :=
  ext_get?_of_ne key (by simp [h]) fun key' hne => by simp [hne]

/-- **A value that was removed is put back.** -/
theorem insert_erase_of_get? (h : d.get? key = some old) : (d.erase key).insert key old = d :=
  ext_get?_of_ne key (by simp [h]) fun key' hne => by simp [hne]

end Undone

/-! ## Changed entries -/

/-- **The entries changed, or left out**, by a function of key and value. -/
def filterMap (f : String → β → Option γ) (d : Dict β) : Dict γ where
  entries := d.entries.filterMap fun e => (f e.1 e.2).map (e.1, ·)
  sorted := by
    refine List.Pairwise.filterMap _ ?_ d.sorted
    rintro ⟨k, v⟩ ⟨k', v'⟩ hlt e he e' he'
    obtain ⟨w, -, rfl⟩ := Option.map_eq_some_iff.1 he
    obtain ⟨w', -, rfl⟩ := Option.map_eq_some_iff.1 he'
    exact hlt

@[simp] theorem get?_filterMap (f : String → β → Option γ) (d : Dict β) (key : String) :
    (d.filterMap f).get? key = (d.get? key).bind (f key) := by
  refine Option.ext fun w => ?_
  rw [get?_eq_some_iff, Option.bind_eq_some_iff]
  simp only [filterMap, List.mem_filterMap, Option.map_eq_some_iff, Prod.mk.injEq]
  constructor
  · rintro ⟨⟨k, v⟩, hmem, w', hw, rfl, rfl⟩
    exact ⟨v, get?_eq_some_iff.2 hmem, hw⟩
  · rintro ⟨v, hv, hw⟩
    exact ⟨(key, v), get?_eq_some_iff.1 hv, w, hw, rfl, rfl⟩

/-- A list of changed entries makes up the changed dictionary. -/
theorem ofList_filterMap (f : String → β → Option γ) (d : Dict β) :
    ofList (d.entries.filterMap fun e => (f e.1 e.2).map (e.1, ·)) = d.filterMap f :=
  ofList_entries (d.filterMap f)

@[simp] theorem get?_mapValues (f : String → β → γ) (d : Dict β) (key : String) :
    (d.mapValues f).get? key = (d.get? key).map (f key) := by
  have heq : d.mapValues f = d.filterMap fun k v => some (f k v) := by
    ext1
    simp [mapValues, filterMap]
  rw [heq, get?_filterMap, Option.map_eq_bind]
  rfl

@[simp] theorem get?_filter (p : String → β → Bool) (d : Dict β) (key : String) :
    (d.filter p).get? key = (d.get? key).filter (p key) := by
  refine Option.ext fun v => ?_
  rw [get?_eq_some_iff, Option.filter_eq_some_iff, get?_eq_some_iff]
  simp [filter]

/-! ## Contributions of entries -/

/-- **Of what all entries contribute, the part of one key** is what the value of the key
contributes, if each contribution bears the key it comes from. -/
theorem filter_flatMap (f : String → β → List δ) (name : δ → String)
    (hname : ∀ k v, ∀ x ∈ f k v, name x = k) (d : Dict β) (key : String) :
    (d.entries.flatMap fun e => f e.1 e.2).filter (name · = key) =
      ((d.get? key).map (f key)).getD [] := by
  have hown : ∀ v, (f key v).filter (name · = key) = f key v := fun v =>
    List.filter_eq_self.2 fun x hx => by simpa using hname key v x hx
  have hother : ∀ k v, k ≠ key → (f k v).filter (name · = key) = [] := fun k v hk =>
    List.filter_eq_nil_iff.2 fun x hx => by simpa [hname k v x hx] using hk
  have hnodup := d.nodup_keys
  rw [get?]
  -- the key occurs once at most: after it nothing more is contributed under it
  generalize d.entries = es at hnodup ⊢
  induction es with
  | nil => simp [find?]
  | cons e es ih =>
    obtain ⟨k, v⟩ := e
    rw [List.map_cons, List.nodup_cons] at hnodup
    rw [List.flatMap_cons, List.filter_append, ih hnodup.2]
    by_cases hk : k = key
    · subst hk
      simp [find?, hown, find?_eq_none_iff.2 hnodup.1]
    · simp [find?, hk, hother k v hk]

end NetUnits.Dict
