import NetUnits.Proofs.Text.Numeral
import NetUnits.Schema.Version
import Mathlib.Data.Finset.Sort
import Mathlib.Order.Bounds.Basic

/-! # The generation that fits

A version text is a number with blanks, a letter and zeros before it and anything after it. The
generation for it is the greatest that is not above the number, or the least if all are above.

* **`Version.Spells`** — a text spells a number; **`Version.parseChars?_eq_some_iff`** — a number is
  read of the texts that spell it.
* **`Version.IsGenerations`** — a set of generations as a list;
  **`Version.existsUnique_isGenerations`** — every finite set is one.
* **`Version.IsBestFit`** — a generation fits a target; **`Version.bestFit_eq_iff`** — it is the one
  that the bounds and the search between them come to.
* **`Version.Chooses`**, **`Version.chooses`** — how a generation is chosen for a text. -/

namespace NetUnits.Version

open NetUnits.Text

/-! ## Version texts -/

/-- The digits of a number, after zeros. -/
def digitsOf (zeros n : Nat) : List Char :=
  List.replicate zeros '0' ++ Nat.toDigits 10 n

theorem isDigit_of_mem_digitsOf {zeros n : Nat} {c : Char} (h : c ∈ digitsOf zeros n) :
    c.isDigit = true := by
  rcases List.mem_append.1 h with hzero | hdigit
  · rw [List.eq_of_mem_replicate hzero]
    rfl
  · exact isDigit_of_mem_toDigits hdigit

theorem digitsOf_ne_nil (zeros n : Nat) : digitsOf zeros n ≠ [] :=
  List.append_ne_nil_of_right_ne_nil _ Nat.toDigits_ne_nil

/-- **A text spells a number**: blanks, a letter `v` in either case or none, the digits after any
number of zeros, and then anything that does not begin with a digit. -/
def Spells (cs : List Char) (n : Nat) : Prop :=
  ∃ blanks letter zeros rest, (∀ c ∈ blanks, isBlank c = true) ∧
    letter ∈ [[], ['v'], ['V']] ∧ (∀ c, rest.head? = some c → c.isDigit = false) ∧
    cs = blanks ++ (letter ++ (digitsOf zeros n ++ rest))

theorem exists_afterLetter (cs : List Char) :
    ∃ letter ∈ [[], ['v'], ['V']], cs = letter ++ afterLetter cs := by
  unfold afterLetter
  split
  · exact ⟨['v'], by simp, rfl⟩
  · exact ⟨['V'], by simp, rfl⟩
  · exact ⟨[], by simp, rfl⟩

/-- No digit is a letter. -/
theorem afterLetter_cons {c : Char} (h : c.isDigit = true) (cs : List Char) :
    afterLetter (c :: cs) = c :: cs := by
  unfold afterLetter
  split
  · rename_i heq
    rw [(List.cons.inj heq).1] at h
    exact absurd h (by decide)
  · rename_i heq
    rw [(List.cons.inj heq).1] at h
    exact absurd h (by decide)
  · rfl

/-- Blanks and a letter in front of digits are passed over. -/
theorem afterLetter_trimStart {blanks letter cs : List Char} {c : Char}
    (hblanks : ∀ c ∈ blanks, isBlank c = true) (hletter : letter ∈ [[], ['v'], ['V']])
    (hc : c.isDigit = true) :
    afterLetter (trimStart (blanks ++ (letter ++ c :: cs))) = c :: cs := by
  rw [trimStart, List.dropWhile_append_of_pos hblanks]
  have hletters : letter = [] ∨ letter = ['v'] ∨ letter = ['V'] := by simpa using hletter
  obtain rfl | rfl | rfl := hletters
  · have hblank : isBlank c ≠ true := by simp [isBlank_of_isDigit hc]
    rw [List.nil_append, List.dropWhile_cons_of_neg hblank, afterLetter_cons hc]
  · rfl
  · rfl

/-- The digits of a text end where it says so. -/
theorem takeWhile_isDigit_append {ds rest : List Char} (hds : ∀ c ∈ ds, c.isDigit = true)
    (hrest : ∀ c, rest.head? = some c → c.isDigit = false) :
    (ds ++ rest).takeWhile Char.isDigit = ds := by
  rw [List.takeWhile_append_of_pos hds]
  cases rest with
  | nil => exact List.append_nil _
  | cons c rest => rw [List.takeWhile_cons_of_neg (by simp [hrest c rfl]), List.append_nil]

/-- **A number is read of the texts that spell it**, if it has 32 bits. -/
theorem parseChars?_eq_some_iff {cs : List Char} {n : Nat} :
    parseChars? cs = some n ↔ n ≤ maxNat32 ∧ Spells cs n := by
  rw [parseChars?, natUpTo?_eq_some_iff, and_congr_right_iff]
  intro _
  constructor
  · rintro ⟨sign, zeros, hsign, hdigits⟩
    have hempty : sign = [] := by
      refine hsign.resolve_right fun hplus => ?_
      -- a plus sign is no digit, so it is not among the characters that are read
      have hmem : '+' ∈ (afterLetter (trimStart cs)).takeWhile Char.isDigit := by
        rw [hdigits, hplus]
        exact List.mem_cons_self
      exact absurd (List.mem_takeWhile_imp hmem) (by decide)
    obtain ⟨letter, hletter, hcs⟩ := exists_afterLetter (trimStart cs)
    refine ⟨cs.takeWhile isBlank, letter, zeros,
      (afterLetter (trimStart cs)).dropWhile Char.isDigit, fun c => List.mem_takeWhile_imp,
      hletter, fun c hc => ?_, ?_⟩
    · have hnot := List.head?_dropWhile_not Char.isDigit (afterLetter (trimStart cs))
      rw [hc] at hnot
      simpa using hnot
    · rw [hempty, List.nil_append] at hdigits
      rw [digitsOf, ← hdigits, List.takeWhile_append_dropWhile, ← hcs, trimStart,
        List.takeWhile_append_dropWhile]
  · rintro ⟨blanks, letter, zeros, rest, hblanks, hletter, hrest, rfl⟩
    refine ⟨[], zeros, .inl rfl, ?_⟩
    obtain ⟨c, ds, hds⟩ := List.exists_cons_of_ne_nil (digitsOf_ne_nil zeros n)
    have hc : c.isDigit = true := isDigit_of_mem_digitsOf (hds ▸ List.mem_cons_self)
    calc (afterLetter (trimStart (blanks ++ (letter ++ (digitsOf zeros n ++ rest))))).takeWhile
          Char.isDigit
        = (digitsOf zeros n ++ rest).takeWhile Char.isDigit := by
          rw [hds, List.cons_append, afterLetter_trimStart hblanks hletter hc]
      _ = digitsOf zeros n :=
          takeWhile_isDigit_append (fun c => isDigit_of_mem_digitsOf) hrest

theorem toList_toString (n : Nat) : (toString n).toList = digitsOf 0 n := by
  rw [Nat.toString_eq_ofList_toDigits, String.toList_ofList]
  rfl

theorem spells_toString (n : Nat) : Spells (toString n).toList n := by
  refine ⟨[], [], 0, [], List.forall_mem_nil _, by simp, by simp, ?_⟩
  rw [toList_toString, List.nil_append, List.nil_append, List.append_nil]

/-- **A number that is printed is read back.** -/
theorem parse?_toString {n : Nat} (h : n ≤ maxNat32) : parse? (toString n) = some n :=
  parseChars?_eq_some_iff.2 ⟨h, spells_toString n⟩

/-! ## Sets of generations -/

variable {available available' : List Nat} {target target' fallback n m : Nat}

/-- **A set of generations, as a list**: numbers of 32 bits, in ascending order. -/
structure IsGenerations (available : List Nat) : Prop where
  ascending : available.Pairwise (· < ·)
  bounded : ∀ n ∈ available, n ≤ maxNat32

instance : DecidablePred IsGenerations := fun available =>
  decidable_of_iff (available.Pairwise (· < ·) ∧ ∀ n ∈ available, n ≤ maxNat32)
    ⟨fun h => ⟨h.1, h.2⟩, fun h => ⟨h.1, h.2⟩⟩

/-- **Every finite set of numbers of 32 bits** is listed in exactly one way. -/
theorem existsUnique_isGenerations {s : Finset Nat} (h : ∀ n ∈ s, n ≤ maxNat32) :
    ∃! available, IsGenerations available ∧ ∀ n, n ∈ available ↔ n ∈ s := by
  refine ⟨s.sort (· ≤ ·), ⟨⟨s.sortedLT_sort.pairwise, fun n hn => h n ?_⟩, fun n => ?_⟩, ?_⟩
  · simpa using hn
  · simp
  · rintro available ⟨⟨hascending, -⟩, hmem⟩
    refine List.Perm.eq_of_pairwise (fun _ _ _ _ hlt hgt => absurd hgt (Nat.lt_asymm hlt))
      hascending s.sortedLT_sort.pairwise ?_
    refine (List.perm_ext_iff_of_nodup hascending.nodup (s.sort_nodup _)).2 fun n => ?_
    rw [hmem, Finset.mem_sort]

/-- The first of a list in ascending order is the least. -/
theorem isLeast_of_head? (h : available.Pairwise (· < ·)) (hhead : available.head? = some n) :
    IsLeast {m | m ∈ available} n := by
  obtain ⟨rest, rfl⟩ := List.head?_eq_some_iff.1 hhead
  refine ⟨List.mem_cons_self, fun m hm => ?_⟩
  rcases List.mem_cons.1 hm with rfl | hm
  · exact le_rfl
  · exact ((List.pairwise_cons.1 h).1 m hm).le

/-- The last one is the greatest. -/
theorem isGreatest_of_getLast? (h : available.Pairwise (· < ·))
    (hlast : available.getLast? = some n) : IsGreatest {m | m ∈ available} n := by
  obtain ⟨init, rfl⟩ := List.getLast?_eq_some_iff.1 hlast
  refine ⟨List.mem_append_right _ List.mem_cons_self, fun m hm => ?_⟩
  rcases List.mem_append.1 hm with hm | hm
  · exact ((List.pairwise_append.1 h).2.2 m hm n List.mem_cons_self).le
  · exact (List.mem_singleton.1 hm).le

/-! ## The best fit -/

/-- **A generation fits a target**: it is the greatest that is not above the target, or the least
if all are above. -/
def IsBestFit (available : List Nat) (target n : Nat) : Prop :=
  IsGreatest {m | m ∈ available ∧ m ≤ target} n ∨
    (∀ m ∈ available, target < m) ∧ IsLeast {m | m ∈ available} n

theorem IsBestFit.mem (h : IsBestFit available target n) : n ∈ available := by
  rcases h with hgreatest | ⟨-, hleast⟩
  · exact hgreatest.1.1
  · exact hleast.1

/-- **A greater target gets no smaller generation.** -/
theorem IsBestFit.mono (h : IsBestFit available target n) (h' : IsBestFit available target' m)
    (hle : target ≤ target') : n ≤ m := by
  rcases h with ⟨⟨hn, hnle⟩, -⟩ | ⟨-, hleast⟩
  · rcases h' with hgreatest | ⟨habove, -⟩
    · exact hgreatest.2 ⟨hn, hnle.trans hle⟩
    · exact absurd (habove n hn) (by omega)
  · exact hleast.2 h'.mem

/-- At most one generation fits. -/
theorem IsBestFit.unique (h : IsBestFit available target n) (h' : IsBestFit available target m) :
    n = m :=
  (h.mono h' le_rfl).antisymm (h'.mono h le_rfl)

/-- **What is above the target does not matter** if something is not above it. -/
theorem IsBestFit.congr (h : IsBestFit available target n)
    (hbelow : ∃ m ∈ available, m ≤ target)
    (hsame : ∀ m ≤ target, m ∈ available' ↔ m ∈ available) : IsBestFit available' target n := by
  rcases h with hgreatest | ⟨habove, -⟩
  · have hsets : {m | m ∈ available' ∧ m ≤ target} = {m | m ∈ available ∧ m ≤ target} := by
      ext m
      exact and_congr_left (hsame m)
    exact .inl (hsets ▸ hgreatest)
  · obtain ⟨m, hm, hle⟩ := hbelow
    exact absurd (habove m hm) (by omega)

/-- A generation fits itself. -/
theorem isBestFit_self (h : n ∈ available) : IsBestFit available n n :=
  .inl ⟨⟨h, le_rfl⟩, fun _ hm => hm.2⟩

/-- What fits best is one of the generations, if there are any. -/
theorem bestFit_mem (hne : available ≠ []) (target fallback : Nat) :
    bestFit target fallback available ∈ available := by
  unfold bestFit
  rw [List.head?_eq_some_head hne, List.getLast?_eq_some_getLast hne]
  dsimp only
  split
  · exact List.head_mem hne
  · split
    · exact List.getLast_mem hne
    · cases hfit : (available.filter (· ≤ target)).getLast? with
      | none => exact List.head_mem hne
      | some generation => exact List.mem_of_mem_filter (List.mem_of_getLast? hfit)

/-- **The generation that is found fits**: the bounds at both ends and the search between them leave
no target out. -/
theorem isBestFit_bestFit (h : available.Pairwise (· < ·)) (hne : available ≠ [])
    (target fallback : Nat) : IsBestFit available target (bestFit target fallback available) := by
  have holdest := isLeast_of_head? h (List.head?_eq_some_head hne)
  have hnewest := isGreatest_of_getLast? h (List.getLast?_eq_some_getLast hne)
  unfold bestFit
  rw [List.head?_eq_some_head hne, List.getLast?_eq_some_getLast hne]
  generalize available.head hne = oldest at *
  generalize available.getLast hne = newest at *
  dsimp only
  split
  · rename_i hle
    rcases hle.eq_or_lt with rfl | hlt
    · exact isBestFit_self holdest.1
    · exact .inr ⟨fun m hm => hlt.trans_le (holdest.2 hm), holdest⟩
  · rename_i hlt
    split
    · rename_i hle
      exact .inl ⟨⟨hnewest.1, hle⟩, fun m hm => hnewest.2 hm.1⟩
    · have holdest_mem : oldest ∈ available.filter (· ≤ target) :=
        List.mem_filter.2 ⟨holdest.1, by simpa using (not_le.1 hlt).le⟩
      have hlast := List.getLast?_eq_some_getLast (List.ne_nil_of_mem holdest_mem)
      rw [hlast, Option.getD_some]
      have hgreatest := isGreatest_of_getLast? (h.filter _) hlast
      simp only [List.mem_filter, decide_eq_true_eq] at hgreatest
      exact .inl hgreatest

/-- **The generation for a target** is the one that fits. -/
theorem bestFit_eq_iff (h : available.Pairwise (· < ·)) (hne : available ≠ []) :
    bestFit target fallback available = n ↔ IsBestFit available target n := by
  have hfits := isBestFit_bestFit h hne target fallback
  exact ⟨fun heq => heq ▸ hfits, hfits.unique⟩

/-! ## The choice -/

/-- **The target of a version text**: its number, or the fallback if it has none. -/
def targetOf (text : String) (fallback : Nat) : Nat :=
  (parse? text).getD fallback

theorem resolve_eq (text : String) (available : List Nat) (fallback : Nat) :
    resolve text available fallback = bestFit (targetOf text fallback) fallback available := rfl

/-- A number that is printed is resolved as itself. -/
theorem resolve_toString (h : n ≤ maxNat32) (available : List Nat) (fallback : Nat) :
    resolve (toString n) available fallback = bestFit n fallback available := by
  rw [resolve_eq, targetOf, parse?_toString h, Option.getD_some]

/-- **How a generation is chosen for a version text**, whatever the text and the fallback are. -/
structure Chooses (available : List Nat) : Prop where
  /-- Of no generations, the fallback is taken. -/
  fallback : available = [] → ∀ text fallback, resolve text available fallback = fallback
  /-- Of others, the one that fits the target. -/
  fits : available ≠ [] → ∀ text fallback n,
    resolve text available fallback = n ↔ IsBestFit available (targetOf text fallback) n
  /-- It is one of them. -/
  member : available ≠ [] → ∀ text fallback, resolve text available fallback ∈ available
  /-- A greater target gets no smaller generation. -/
  mono : available ≠ [] → ∀ text text' fallback fallback',
    targetOf text fallback ≤ targetOf text' fallback' →
      resolve text available fallback ≤ resolve text' available fallback'
  /-- Generations above a target may come and go if there is one that is not above it. -/
  above : ∀ text fallback, (∃ n ∈ available, n ≤ targetOf text fallback) →
    ∀ available', IsGenerations available' →
      (∀ n ≤ targetOf text fallback, n ∈ available' ↔ n ∈ available) →
      resolve text available' fallback = resolve text available fallback
  /-- The generation that was chosen is chosen again for its own number. -/
  again : ∀ text fallback,
    resolve (toString (resolve text available fallback)) available fallback =
      resolve text available fallback

/-- **A generation is chosen** by what fits, of every set of generations. -/
theorem chooses (h : IsGenerations available) : Chooses available where
  fallback hnil text fallback := by rw [hnil, resolve_eq, bestFit_nil]
  fits hne text fallback n := bestFit_eq_iff h.ascending hne
  member hne text fallback := bestFit_mem hne _ _
  mono hne text text' fallback fallback' hle :=
    (isBestFit_bestFit h.ascending hne _ _).mono (isBestFit_bestFit h.ascending hne _ _) hle
  above text fallback hbelow available' h' hsame := by
    obtain ⟨m, hm, hle⟩ := hbelow
    have hfits := isBestFit_bestFit h.ascending (List.ne_nil_of_mem hm)
      (targetOf text fallback) fallback
    have hne' : available' ≠ [] := List.ne_nil_of_mem ((hsame m hle).2 hm)
    exact (bestFit_eq_iff h'.ascending hne').2 (hfits.congr ⟨m, hm, hle⟩ hsame)
  again text fallback := by
    obtain rfl | hne := eq_or_ne available []
    · rfl
    · have hmem : resolve text available fallback ∈ available := bestFit_mem hne _ _
      rw [resolve_toString (h.bounded _ hmem)]
      exact (bestFit_eq_iff h.ascending hne).2 (isBestFit_self hmem)

/-- Three generations with holes between them: a target in a hole gets the one below it, and one
below all gets the first. -/
theorem chooses_holes :
    IsGenerations [249, 255, 260] ∧ Chooses [249, 255, 260] ∧
      resolve " v0258-rc1" [249, 255, 260] 257 = 255 ∧
      resolve "200" [249, 255, 260] 257 = 249 ∧ resolve "none" [249, 255, 260] 300 = 260 :=
  ⟨by decide, chooses (by decide), by decide +kernel, by decide +kernel, by decide +kernel⟩

end NetUnits.Version
