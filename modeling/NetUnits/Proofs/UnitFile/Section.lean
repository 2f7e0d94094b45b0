import NetUnits.UnitFile.Section
import NetUnits.Proofs.Lists

/-! # Entries grouped by key

Grouping the entries of a section gives each distinct key once, with exactly its values:

* **`Section.keys`** — the distinct keys, in order of first appearance.
* **`Section.values_append`** — entries at the end of a section.
* **`Section.grouped_eq`** — the groups by keys and values. -/

namespace NetUnits.UnitFile

namespace Section

/-- **The distinct keys** of a section, in order of first appearance. -/
def keys (s : Section) : List String :=
  (s.entries.map (·.1)).eraseDups

theorem nodup_keys (s : Section) : s.keys.Nodup :=
  nodup_eraseDups _

theorem mem_keys_iff {s : Section} {key : String} : key ∈ s.keys ↔ s.values key ≠ [] := by
  simp [keys, values, List.filter_eq_nil_iff]

/-- Entries at the end add their values at the end. -/
theorem values_append (name : String) (a b : List (String × String)) (key : String) :
    (Section.mk name (a ++ b)).values key =
      (Section.mk name a).values key ++ (Section.mk name b).values key := by
  simp [values]

theorem values_singleton (name : String) (e : String × String) (key : String) :
    (Section.mk name [e]).values key = if e.1 = key then [e.2] else [] := by
  by_cases h : e.1 = key <;> simp [values, h]

/-- A value goes into the group of its key. -/
theorem addToGroup_map {ks : List String} (h : ks.Nodup) (f : String → List String)
    (key value : String) :
    addToGroup key value (ks.map fun k => (k, f k)) =
      if key ∈ ks then ks.map fun k => (k, if k = key then f k ++ [value] else f k)
      else (ks.map fun k => (k, f k)) ++ [(key, [value])] := by
  induction ks with
  | nil => simp [addToGroup]
  | cons k ks ih =>
    obtain ⟨hk, hks⟩ := List.nodup_cons.1 h
    rw [List.map_cons, addToGroup]
    by_cases hkey : k = key
    · subst hkey
      -- the key does not occur again, so the other groups stay as they are
      have hrest : ks.map (fun j => (j, if j = k then f j ++ [value] else f j)) =
          ks.map fun j => (j, f j) :=
        List.map_congr_left fun j hj => by
          rw [if_neg fun heq : j = k => hk (heq ▸ hj)]
      simp [hrest]
    · rw [if_neg hkey, ih hks]
      by_cases hmem : key ∈ ks <;> simp [hmem, hkey, Ne.symm hkey]

/-- **Each distinct key is grouped with exactly its values.** -/
theorem grouped_eq (s : Section) : s.grouped = s.keys.map fun k => (k, s.values k) := by
  obtain ⟨name, entries⟩ := s
  -- entries are grouped from the first to the last, so the induction is on their end
  induction entries using List.reverseRecOn with
  | nil => rfl
  | append_singleton rest e ih =>
    simp only [grouped] at ih ⊢
    rw [List.foldl_append, List.foldl_cons, List.foldl_nil, ih, addToGroup_map (nodup_keys _)]
    simp only [keys, List.map_append, List.map_cons, List.map_nil, eraseDups_append_singleton,
      List.mem_eraseDups, values_append, values_singleton]
    by_cases hmem : e.1 ∈ rest.map (·.1)
    · rw [if_pos hmem, if_pos hmem]
      refine List.map_congr_left fun k _ => ?_
      by_cases hk : k = e.1
      · simp [hk]
      · simp [hk, Ne.symm hk]
    · rw [if_neg hmem, if_neg hmem, List.map_append, List.map_singleton]
      have hnone : (Section.mk name rest).values e.1 = [] := by
        have hkeys : e.1 ∉ (Section.mk name rest).keys := mt List.mem_eraseDups.1 hmem
        simpa [mem_keys_iff] using hkeys
      rw [hnone, if_pos rfl, List.nil_append]
      congr 1
      refine List.map_congr_left fun k hk => ?_
      rw [if_neg fun heq : e.1 = k => hmem (heq ▸ List.mem_eraseDups.1 hk), List.append_nil]

end Section

end NetUnits.UnitFile
