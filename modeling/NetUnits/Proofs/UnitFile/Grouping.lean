import NetUnits.Proofs.UnitFile.Section
import Mathlib.Data.List.FinRange

/-! # Groups of entries

The entries of a section are put into groups one by one, each at the end of the group of its key.
What comes of it is told by the keys and their values alone, and no entry is lost on the way or
put into two groups:

* **`Rearranges`** — entries in another order, in which those of one key keep theirs;
  **`rearranges_flatMap_filter`** — entries key by key are in such an order.
* **`ungrouped`** — the entries of groups, one group after the other.
* **`Section.IsGrouping`** — what the groups of a section have to be; **`Section.isGrouping_iff`** —
  the groups that are found are like this, and no others are. -/

namespace NetUnits.UnitFile

/-! ## Entries in another order -/

variable {entries others : List (String × String)} {keys : List String} {key : String}

/-- **Entries in another order, in which those of one key keep theirs**: every place of the entries
is taken exactly once, and of two places with the same key the first one is taken first. -/
def Rearranges (entries others : List (String × String)) : Prop :=
  ∃ places : List (Fin entries.length), places.Perm (List.finRange entries.length) ∧
    others = places.map entries.get ∧
    places.Pairwise fun i j => (entries.get i).1 = (entries.get j).1 → i < j

/-- No entry is lost, and none is there twice. -/
theorem Rearranges.perm (h : Rearranges entries others) : others.Perm entries := by
  obtain ⟨places, hplaces, rfl, -⟩ := h
  calc (places.map entries.get).Perm ((List.finRange entries.length).map entries.get) :=
        hplaces.map _
    _ = entries := List.map_get_finRange entries

/-- The places of the entries of a key, in order. -/
def placesOf (entries : List (String × String)) (key : String) : List (Fin entries.length) :=
  (List.finRange entries.length).filter fun i => (entries.get i).1 = key

theorem mem_placesOf_iff {i : Fin entries.length} :
    i ∈ placesOf entries key ↔ (entries.get i).1 = key := by
  simp [placesOf]

theorem map_get_placesOf :
    (placesOf entries key).map entries.get = entries.filter (·.1 = key) := by
  calc (placesOf entries key).map entries.get
      = ((List.finRange entries.length).map entries.get).filter (·.1 = key) := by
        rw [List.filter_map]
        rfl
    _ = entries.filter (·.1 = key) := by rw [List.map_get_finRange]

/-- **Entries key by key** are in another order, if every key is listed once. -/
theorem rearranges_flatMap_filter (h : keys.Nodup) (hall : ∀ e ∈ entries, e.1 ∈ keys) :
    Rearranges entries (keys.flatMap fun key => entries.filter (·.1 = key)) := by
  have hsame : ∀ key ∈ keys, (placesOf entries key).Pairwise (· < ·) := fun key _ =>
    (List.pairwise_lt_finRange _).filter _
  refine ⟨keys.flatMap (placesOf entries), ?perm, ?entries, ?order⟩
  case perm =>
    have hnodup : (keys.flatMap (placesOf entries)).Nodup := by
      refine List.nodup_flatMap.2 ⟨fun key hkey => (hsame key hkey).imp ne_of_lt, ?_⟩
      -- a place has one key only
      exact h.imp fun hne i hi hi' =>
        hne ((mem_placesOf_iff.1 hi).symm.trans (mem_placesOf_iff.1 hi'))
    refine (List.perm_ext_iff_of_nodup hnodup (List.nodup_finRange _)).2 fun i => ?_
    have hi : i ∈ keys.flatMap (placesOf entries) :=
      List.mem_flatMap.2 ⟨_, hall _ (List.get_mem entries i), mem_placesOf_iff.2 rfl⟩
    exact iff_of_true hi (List.mem_finRange i)
  case entries =>
    rw [List.map_flatMap]
    simp only [map_get_placesOf]
  case order =>
    refine List.pairwise_flatMap.2 ⟨fun key hkey => ?_, ?_⟩
    · refine (hsame key hkey).imp fun hlt _ => ?_
      exact hlt
    · -- nothing is asked of two places with different keys
      refine h.imp fun hne i hi j hj heq => absurd ?_ hne
      rw [← mem_placesOf_iff.1 hi, ← mem_placesOf_iff.1 hj, heq]

/-! ## Groups -/

/-- **The entries of groups**, one group after the other. -/
def ungrouped (groups : List (String × List String)) : List (String × String) :=
  groups.flatMap fun group => group.2.map (group.1, ·)

theorem map_snd_ungrouped (groups : List (String × List String)) :
    (ungrouped groups).map (·.2) = groups.flatMap (·.2) := by
  simp [ungrouped, List.map_flatMap, Function.comp_def]

namespace Section

/-- **What the groups of a section have to be.** -/
structure IsGrouping (s : Section) (groups : List (String × List String)) : Prop where
  /-- Each key has one group. -/
  nodup : (groups.map (·.1)).Nodup
  /-- The keys are those of the entries. -/
  keys : ∀ key, key ∈ groups.map (·.1) ↔ key ∈ s.entries.map (·.1)
  /-- They come in the order in which they appear first. -/
  order : (groups.map (·.1)).Pairwise fun j k =>
    (s.entries.map (·.1)).idxOf j < (s.entries.map (·.1)).idxOf k
  /-- A group has exactly the values of its key, in order. -/
  values : ∀ group ∈ groups, group.2 = s.values group.1
  /-- All groups together have the entries, and those of one key in order. -/
  rearranges : Rearranges s.entries (ungrouped groups)
  /-- So they have the values of all entries, none of them lost and none twice. -/
  perm : (groups.flatMap (·.2)).Perm (s.entries.map (·.2))

/-- The groups that are found have the distinct keys. -/
theorem map_fst_grouped (s : Section) : s.grouped.map (·.1) = s.keys := by
  simp [grouped_eq, Function.comp_def]

/-- One group after the other, they have the entries key by key. -/
theorem ungrouped_grouped (s : Section) :
    ungrouped s.grouped = s.keys.flatMap fun key => s.entries.filter (·.1 = key) := by
  rw [ungrouped, grouped_eq, List.flatMap_map]
  refine List.flatMap_congr fun key _ => ?_
  rw [values, List.map_map]
  -- a value gets back the key it was chosen by
  refine List.map_congr_left (fun e he => ?_) |>.trans (List.map_id _)
  rw [← of_decide_eq_true (List.mem_filter.1 he).2]
  rfl

/-- **The groups that are found** are those of the section. -/
theorem isGrouping_grouped (s : Section) : s.IsGrouping s.grouped := by
  have hrearranges : Rearranges s.entries (ungrouped s.grouped) := by
    rw [ungrouped_grouped]
    exact rearranges_flatMap_filter s.nodup_keys fun e he =>
      List.mem_eraseDups.2 (List.mem_map_of_mem he)
  constructor
  case nodup => exact s.map_fst_grouped ▸ s.nodup_keys
  case keys =>
    intro key
    rw [map_fst_grouped]
    exact List.mem_eraseDups
  case order => exact s.map_fst_grouped ▸ pairwise_idxOf_eraseDups _
  case values =>
    rw [grouped_eq]
    simp
  case rearranges => exact hrearranges
  case perm =>
    rw [← map_snd_ungrouped]
    exact hrearranges.perm.map _

/-- Keys and values leave no choice: two groupings of one section are the same. -/
theorem IsGrouping.unique {s : Section} {groups groups' : List (String × List String)}
    (h : s.IsGrouping groups) (h' : s.IsGrouping groups') : groups = groups' := by
  have hkeys : groups.map (·.1) = groups'.map (·.1) := by
    -- the keys are the same, and first places put them into one order only
    refine List.Perm.eq_of_pairwise (fun j k _ _ hjk hkj => ?_) h.order h'.order ?_
    · exact absurd hkj (Nat.lt_asymm hjk)
    · exact (List.perm_ext_iff_of_nodup h.nodup h'.nodup).2 fun key =>
        (h.keys key).trans (h'.keys key).symm
  have hgroups : ∀ {groups}, s.IsGrouping groups →
      groups = (groups.map (·.1)).map fun key => (key, s.values key) := by
    intro groups h
    rw [List.map_map, eq_comm, map_eq_self_iff]
    exact fun group hgroup => Prod.ext rfl (h.values group hgroup).symm
  rw [hgroups h, hgroups h', hkeys]

/-- **The groups that are found are those of the section**, and no others are: each distinct key is
there once, in the order of first appearance, with exactly its values, and together they are all
entries, in an order that is the same within each key. -/
theorem isGrouping_iff (s : Section) (groups : List (String × List String)) :
    s.IsGrouping groups ↔ groups = s.grouped := by
  constructor
  · exact fun h => h.unique s.isGrouping_grouped
  · rintro rfl
    exact s.isGrouping_grouped

/-- A key that is written again after another one. -/
example :
    (Section.mk "Network" [("DNS", "1.1.1.1"), ("Domains", "lan"), ("DNS", "9.9.9.9")]).grouped =
      [("DNS", ["1.1.1.1", "9.9.9.9"]), ("Domains", ["lan"])] := by
  decide

end Section

end NetUnits.UnitFile
