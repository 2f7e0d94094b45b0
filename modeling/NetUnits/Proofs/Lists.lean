import Mathlib.Data.List.Forall2
import Mathlib.Data.List.Induction

/-! # Lists that are changed item by item, or without repetitions

* **`map_eq_self_iff`** — a function leaves a list alone exactly if it leaves each item alone.
* **`mapM_eq_some_iff`** — a list is read exactly if each item is.
* **`flatMap_eq_map_iff`** — items come to one thing each.
* **`eraseDups_append_singleton`** — one more item is new or known;
  **`pairwise_idxOf_eraseDups`** — in which order items come without their repetitions. -/

namespace NetUnits

/-- A list is unchanged exactly if each of its items is. -/
theorem map_eq_self_iff {α : Type} {f : α → α} {l : List α} :
    l.map f = l ↔ ∀ a ∈ l, f a = a := by
  simpa using List.map_inj_left (f := f) (g := id) (l := l)

/-- **A list is read exactly if each item is.** -/
theorem mapM_eq_some_iff {α β : Type} {f : α → Option β} {as : List α} {bs : List β} :
    as.mapM f = some bs ↔ List.Forall₂ (fun a b => f a = some b) as bs := by
  induction as generalizing bs with
  | nil => simp [eq_comm]
  | cons a as ih =>
    simp only [List.mapM_cons, Option.bind_eq_bind, Option.bind_eq_some_iff, Option.pure_def,
      Option.some.injEq, List.forall₂_cons_left_iff, ih]
    constructor
    · rintro ⟨b, hb, bs, hbs, rfl⟩
      exact ⟨b, bs, hb, hbs, rfl⟩
    · rintro ⟨b, bs, hb, hbs, rfl⟩
      exact ⟨b, hb, bs, hbs, rfl⟩

/-- **What items come to, one after the other, is one thing for each**, exactly if each comes to
that one thing. None of them may come to nothing. -/
theorem flatMap_eq_map_iff {α β : Type} {f : α → List β} {g : α → β} {as : List α}
    (h : ∀ a ∈ as, f a ≠ []) : as.flatMap f = as.map g ↔ ∀ a ∈ as, f a = [g a] := by
  have hlength : ∀ {bs : List α}, (∀ a ∈ bs, f a ≠ []) → bs.length ≤ (bs.flatMap f).length := by
    intro bs hbs
    induction bs with
    | nil => exact Nat.zero_le _
    | cons b bs ih =>
      have hpos : 0 < (f b).length := List.length_pos_iff.2 (hbs b List.mem_cons_self)
      have hrest := ih fun a ha => hbs a (List.mem_cons_of_mem b ha)
      rw [List.flatMap_cons, List.length_append, List.length_cons]
      omega
  induction as with
  | nil => simp
  | cons a as ih =>
    obtain ⟨ha, has⟩ := List.forall_mem_cons.1 h
    rw [List.flatMap_cons, List.map_cons, List.forall_mem_cons]
    refine ⟨fun heq => ?_, fun ⟨hone, hall⟩ => by
      rw [hone, (ih has).2 hall, List.singleton_append]⟩
    -- the rest comes to as many things as it has items, so this one comes to one
    obtain ⟨b, bs, hb⟩ := List.exists_cons_of_ne_nil ha
    have hcount := congrArg List.length heq
    have hle := hlength has
    rw [hb, List.length_append, List.length_cons, List.length_cons, List.length_map] at hcount
    obtain rfl : bs = [] := List.length_eq_zero_iff.1 (by omega)
    rw [hb, List.singleton_append] at heq
    obtain ⟨rfl, hrest⟩ := List.cons.inj heq
    exact ⟨hb, (ih has).1 hrest⟩

/-- What is written item by item is read back, if each item is. -/
theorem mapM_map_eq_some {α β : Type} {f : α → Option β} {g : β → α} {bs : List β}
    (h : ∀ b ∈ bs, f (g b) = some b) : (bs.map g).mapM f = some bs :=
  mapM_eq_some_iff.2 (List.forall₂_map_left_iff.2 (List.forall₂_same.2 h))

/-- In lists that are related item by item, each item of the first has a partner. -/
theorem exists_of_forall₂ {α β : Type} {R : α → β → Prop} {as : List α} {bs : List β}
    (h : List.Forall₂ R as bs) {a : α} (ha : a ∈ as) : ∃ b ∈ bs, R a b := by
  induction h with
  | nil => exact nomatch ha
  | @cons a' b as bs hab _ ih =>
    obtain rfl | ha := List.mem_cons.1 ha
    · exact ⟨b, List.mem_cons_self, hab⟩
    · obtain ⟨b', hb', hab'⟩ := ih ha
      exact ⟨b', List.mem_cons_of_mem _ hb', hab'⟩

/-- Each item that is read comes from one. -/
theorem exists_of_mem_mapM {α β : Type} {f : α → Option β} {as : List α} {bs : List β}
    (h : as.mapM f = some bs) {b : β} (hb : b ∈ bs) : ∃ a ∈ as, f a = some b :=
  exists_of_forall₂ (R := fun b a => f a = some b) (mapM_eq_some_iff.1 h).flip hb

/-- In a list that is read, each item is. -/
theorem isSome_of_mem_mapM {α β : Type} {f : α → Option β} {as : List α}
    (h : (as.mapM f).isSome = true) {a : α} (ha : a ∈ as) : (f a).isSome = true := by
  obtain ⟨bs, hbs⟩ := Option.isSome_iff_exists.1 h
  obtain ⟨b, -, hb⟩ := exists_of_forall₂ (mapM_eq_some_iff.1 hbs) ha
  rw [hb]
  rfl

/-- The first parts of pairs come from the first list, in its order. -/
theorem map_fst_zip_sublist {α β : Type} (as : List α) (bs : List β) :
    ((as.zip bs).map (·.1)).Sublist as := by
  induction as generalizing bs with
  | nil => exact .slnil
  | cons a as ih =>
    cases bs with
    | nil => exact List.nil_sublist _
    | cons b bs => exact (ih bs).cons_cons a

/-- One more item is new, or it is there already. -/
theorem eraseDups_append_singleton (l : List String) (a : String) :
    (l ++ [a]).eraseDups = if a ∈ l then l.eraseDups else l.eraseDups ++ [a] := by
  rw [List.eraseDups_append]
  by_cases h : a ∈ l
  · have hnone : [a].removeAll l = [] := by simp [List.removeAll, h]
    rw [hnone, List.eraseDups_nil, List.append_nil, if_pos h]
  · have hall : [a].removeAll l = [a] := by simp [List.removeAll, h]
    rw [hall, if_neg h, List.eraseDups_cons]
    rfl

/-- **Without its repetitions a list has its items in the order of their first places.** -/
theorem pairwise_idxOf_eraseDups (l : List String) :
    l.eraseDups.Pairwise fun a b => l.idxOf a < l.idxOf b := by
  -- repetitions are found from the first item to the last, so the induction is on the end
  induction l using List.reverseRecOn with
  | nil => simp
  | append_singleton l a ih =>
    have hsame : ∀ {b}, b ∈ l.eraseDups → (l ++ [a]).idxOf b = l.idxOf b := fun hb =>
      List.idxOf_append_of_mem (List.mem_eraseDups.1 hb)
    have hfirst : l.eraseDups.Pairwise fun b c => (l ++ [a]).idxOf b < (l ++ [a]).idxOf c :=
      ih.imp_of_mem fun hb hc h => by rwa [hsame hb, hsame hc]
    rw [eraseDups_append_singleton]
    by_cases h : a ∈ l
    · rwa [if_pos h]
    · rw [if_neg h, List.pairwise_append]
      refine ⟨hfirst, List.pairwise_singleton _ _, fun b hb c hc => ?_⟩
      obtain rfl : c = a := by simpa using hc
      -- the new item stands behind all of them
      rw [hsame hb, List.idxOf_append_of_notMem h]
      exact Nat.lt_add_right _ (List.idxOf_lt_length_of_mem (List.mem_eraseDups.1 hb))

/-- Without its repetitions a list has none. -/
theorem nodup_eraseDups (l : List String) : l.eraseDups.Nodup :=
  (pairwise_idxOf_eraseDups l).imp fun h heq => by simp [heq] at h

end NetUnits
