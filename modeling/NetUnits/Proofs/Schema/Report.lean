import NetUnits.Proofs.Schema.Version
import NetUnits.Proofs.Schema.Installed
import NetUnits.Proofs.Text.Lines

/-! # What a host reports

A version may be given as it is, or in the output of a version probe, on a line of its own. Either
way the same number is read, whatever stands around it.

* **`Version.Tells`** — a line tells a version; **`Version.ofProbeLine?_eq_some_iff`** — a number is
  read of the lines that tell it.
* **`Version.Reports`** — an output has a version on its first line of that kind;
  **`Version.ofProbe?_of_reports`** — it is the number that is read.
* **`SchemaStore.resolve_of_spells`**, **`SchemaStore.resolve_of_ofProbe?`** — both are resolved
  as the number itself. -/

namespace NetUnits

open NetUnits.Text

/-! ## Lines -/

/-- The end of a line does not matter to its text without blanks. -/
theorem Text.trimChars_closeLine (acc : List Char) :
    trimChars (closeLine acc) = trimChars acc.reverse := by
  unfold closeLine
  split
  · rw [List.reverse_cons, trimChars_append_singleton rfl]
  · rfl

/-- The first line of a text is what stands before a line feed or the end. -/
theorem Text.exists_linesOf_append {line rest : List Char} (hline : '\n' ∉ line) (hne : line ≠ [])
    (hrest : ∀ c, rest.head? = some c → c = '\n') :
    ∃ first others, linesOf (line ++ rest) = first :: others ∧
      trimChars first = trimChars line := by
  cases rest with
  | nil => exact ⟨line, [], by rw [List.append_nil, linesOf_of_not_mem hline hne], rfl⟩
  | cons c rest =>
    obtain rfl : c = '\n' := hrest c rfl
    refine ⟨_, _, linesOf_append_lineFeed hline rest, ?_⟩
    rw [trimChars_closeLine, List.reverse_reverse]

namespace Version

variable {cs line pad : List Char} {n : Nat}

/-! ## Spelled numbers -/

theorem Spells.ne_nil (h : Spells cs n) : cs ≠ [] := by
  obtain ⟨blanks, letter, zeros, rest, -, -, -, rfl⟩ := h
  simp [digitsOf_ne_nil]

/-- Blanks after a spelled number belong to what follows it. -/
theorem Spells.append_blanks (h : Spells cs n) (hpad : ∀ c ∈ pad, isBlank c = true) :
    Spells (cs ++ pad) n := by
  obtain ⟨blanks, letter, zeros, rest, hblanks, hletter, hrest, rfl⟩ := h
  refine ⟨blanks, letter, zeros, rest ++ pad, hblanks, hletter, fun c hc => ?_, by simp⟩
  cases rest with
  | nil =>
    have hblank := hpad c (List.mem_of_mem_head? hc)
    -- a digit is not blank
    by_contra hdigit
    rw [isBlank_of_isDigit (by simpa using hdigit)] at hblank
    cases hblank
  | cons d rest => exact hrest c hc

/-- A spelled number is one without the blanks at its end. -/
theorem Spells.trimEnd (h : Spells cs n) : Spells (trimEnd cs) n := by
  obtain ⟨blanks, letter, zeros, rest, hblanks, hletter, hrest, rfl⟩ := h
  -- the last digit ends the trimming
  obtain ⟨ds, c, hds⟩ : ∃ ds c, digitsOf zeros n = ds ++ [c] :=
    ⟨_, _, (List.dropLast_append_getLast (digitsOf_ne_nil zeros n)).symm⟩
  have hmem : c ∈ digitsOf zeros n := by simp [hds]
  have hc : isBlank c = false := isBlank_of_isDigit (isDigit_of_mem_digitsOf hmem)
  have hsplit : ∀ rest, blanks ++ (letter ++ (digitsOf zeros n ++ rest)) =
      (blanks ++ (letter ++ ds)) ++ c :: rest := fun rest => by simp [hds]
  rw [hsplit, trimEnd_append_cons hc, ← hsplit]
  refine ⟨blanks, letter, zeros, Text.trimEnd rest, hblanks, hletter, fun d hd => hrest d ?_, rfl⟩
  obtain ⟨pad, hpad⟩ := trimEnd_isPrefix rest
  rw [← hpad, List.head?_append, hd, Option.some_or]

/-! ## Lines that tell a version -/

/-- **A line tells a version**: without the blanks around it, it spells the number after
`systemd`. -/
def Tells (line : List Char) (n : Nat) : Prop :=
  ∃ rest, trimChars line = probeLead ++ rest ∧ Spells rest n

/-- **A number is read of the lines that tell it.** -/
theorem ofProbeLine?_eq_some_iff :
    ofProbeLine? line = some n ↔ n ≤ maxNat32 ∧ Tells line n := by
  unfold ofProbeLine? Tells
  simp only [Option.ite_none_right_eq_some, List.isPrefixOf_iff_prefix, parseChars?_eq_some_iff]
  constructor
  · rintro ⟨⟨rest, hrest⟩, hn, hspells⟩
    rw [← hrest, List.drop_left] at hspells
    exact ⟨hn, rest, hrest.symm, hspells⟩
  · rintro ⟨hn, rest, hrest, hspells⟩
    rw [hrest, List.drop_left]
    exact ⟨List.prefix_append _ _, hn, hspells⟩

/-- No number is read of an output exactly if none of its lines tells one. -/
theorem ofProbe?_eq_none_iff {output : String} :
    ofProbe? output = none ↔
      ∀ line ∈ linesOf output.toList, ∀ n ≤ maxNat32, ¬ Tells line n := by
  rw [ofProbe?, List.findSome?_eq_none_iff]
  simp only [Option.eq_none_iff_forall_ne_some, ne_eq, ofProbeLine?_eq_some_iff, not_and]

/-- Blanks may stand before `systemd`, before the number and at the end. -/
theorem tells_padded (hpad : ∀ c ∈ pad, isBlank c = true) (hspells : Spells cs n) :
    Tells (pad ++ (probeLead ++ cs)) n := by
  refine ⟨Text.trimEnd cs, ?_, hspells.trimEnd⟩
  have hstart : trimStart (pad ++ (probeLead ++ cs)) = probeLead ++ cs :=
    List.dropWhile_append_of_pos hpad
  rw [trimChars, hstart, trimEnd_append, if_neg hspells.trimEnd.ne_nil]

/-! ## Outputs -/

/-- **An output reports a version**: on a line of its own, padded in any way, stands a spelled
number after `systemd`, and no line before it begins so. -/
def Reports (output : List Char) (n : Nat) : Prop :=
  ∃ before pad cs pad' after, output = before ++ (pad ++ (probeLead ++ (cs ++ pad')) ++ after) ∧
    IsWhole before ∧ (∀ line ∈ linesOf before, ¬ probeLead <+: trimChars line) ∧
    (∀ c ∈ pad, isBlank c = true ∧ c ≠ '\n') ∧ Spells cs n ∧ '\n' ∉ cs ∧
    (∀ c ∈ pad', isBlank c = true ∧ c ≠ '\n') ∧ ∀ c, after.head? = some c → c = '\n'

/-- **The number that is reported is read.** -/
theorem ofProbe?_of_reports {output : String} (hn : n ≤ maxNat32)
    (h : Reports output.toList n) : ofProbe? output = some n := by
  obtain ⟨before, pad, cs, pad', after, houtput, hwhole, hbefore, hpad, hspells, hcs, hpad',
    hafter⟩ := h
  have htells : Tells (pad ++ (probeLead ++ (cs ++ pad'))) n :=
    tells_padded (fun c hc => (hpad c hc).1) (hspells.append_blanks fun c hc => (hpad' c hc).1)
  have hline : '\n' ∉ pad ++ (probeLead ++ (cs ++ pad')) := by
    have hlead : '\n' ∉ probeLead := by decide
    simp only [List.mem_append, not_or]
    exact ⟨fun h => (hpad _ h).2 rfl, hlead, hcs, fun h => (hpad' _ h).2 rfl⟩
  obtain ⟨first, others, hlines, htrim⟩ :=
    exists_linesOf_append hline (by simp [hspells.ne_nil]) hafter
  have hfirst : ofProbeLine? first = some n :=
    ofProbeLine?_eq_some_iff.2 ⟨hn, by rwa [Tells, htrim]⟩
  have hnone : (linesOf before).findSome? ofProbeLine? = none := by
    refine List.findSome?_eq_none_iff.2 fun line hmem => ?_
    exact if_neg (by simpa [List.isPrefixOf_iff_prefix] using hbefore line hmem)
  rw [ofProbe?, houtput, hwhole.linesOf_append, hlines, List.findSome?_append, hnone,
    Option.none_or, List.findSome?_cons_of_isSome (by simp [hfirst]), hfirst]

/-- The beginning of a line with a version is none itself. -/
theorem parseChars?_probeLead_append (rest : List Char) : parseChars? (probeLead ++ rest) = none :=
  rfl

/-- **A plain version is not taken for a line with one.** -/
theorem ofProbe?_of_spells {text : String} (hn : n ≤ maxNat32) (hspells : Spells text.toList n)
    (hline : '\n' ∉ text.toList) : ofProbe? text = none := by
  rw [ofProbe?_eq_none_iff, linesOf_of_not_mem hline hspells.ne_nil]
  intro line hmem m _ htells
  obtain ⟨rest, htrim, -⟩ := htells
  rw [List.mem_singleton.1 hmem] at htrim
  -- the number is read of the text without blanks too, but it would begin with a letter
  have hread : parseChars? (trimEnd text.toList) = some n :=
    parseChars?_eq_some_iff.2 ⟨hn, hspells.trimEnd⟩
  have hsame : parseChars? (trimChars text.toList) = parseChars? (trimEnd text.toList) := by
    rw [parseChars?, parseChars?, trimChars, ← trimStart_trimEnd, trimStart_trimStart]
  rw [htrim, parseChars?_probeLead_append, hread] at hsame
  cases hsame

end Version

namespace SchemaStore

variable {n : Nat}

/-- The generation of a store that fits a number. -/
def fitFor (store : SchemaStore) (n : Nat) : Nat :=
  Version.bestFit n store.fallback store.available

/-- **A plain version** is resolved as its number. -/
theorem resolve_of_spells (store : SchemaStore) {text : String} (hn : n ≤ maxNat32)
    (hspells : Version.Spells text.toList n) (hline : '\n' ∉ text.toList) :
    store.resolve text = store.fitFor n := by
  have hread : Version.parse? text = some n := Version.parseChars?_eq_some_iff.2 ⟨hn, hspells⟩
  rw [resolve, Version.resolveReport, Version.ofProbe?_of_spells hn hspells hline]
  dsimp only
  rw [Version.resolve, hread, Option.getD_some, fitFor]

/-- **The output of a version probe** is resolved as the number it reports. -/
theorem resolve_of_ofProbe? (store : SchemaStore) {output : String} (hn : n ≤ maxNat32)
    (h : Version.ofProbe? output = some n) : store.resolve output = store.fitFor n := by
  rw [resolve, Version.resolveReport, h]
  exact Version.resolve_toString hn _ _

/-- The number of a version is resolved as itself. -/
theorem resolve_toString (store : SchemaStore) (hn : n ≤ maxNat32) :
    store.resolve (toString n) = store.fitFor n := by
  refine store.resolve_of_spells hn (Version.spells_toString n) ?_
  rw [Version.toList_toString]
  intro hmem
  exact absurd (Version.isDigit_of_mem_digitsOf hmem) (by decide)

end SchemaStore

end NetUnits
