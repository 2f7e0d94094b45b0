import NetUnits.Text.Trim
import Mathlib.Data.List.DropRight
import Mathlib.Data.List.TakeWhile

/-! # Laws of trimming

Trimming is idempotent, its two ends commute, and the end of a text is trimmed without looking at
what stands before a character that is not blank:

* **`trimStart_eq_self_iff`**, **`trimEnd_eq_self_iff`** — what trimming leaves alone.
* **`trimEnd_append_cons`** — the end of a text stops at a character that is not blank.
* **`trimStart_trimEnd`** — the two ends commute.
* **`trimChars_eq_self_iff`**, **`trimChars_trimChars`** — both ends at once. -/

namespace NetUnits.Text

/-! ## Characters -/

@[simp] theorem isBlank_space : isBlank ' ' = true := rfl

@[simp] theorem isBlank_equals : isBlank '=' = false := rfl

/-! ## The start -/

/-- Nothing is trimmed at the start exactly if the first character is not blank. -/
theorem trimStart_eq_self_iff {cs : List Char} :
    trimStart cs = cs ↔ ∀ c, cs.head? = some c → isBlank c = false := by
  cases cs with
  | nil => simp
  | cons c cs =>
    rw [trimStart_cons]
    by_cases h : isBlank c
    · -- a blank is dropped, and what is left is too short to be the whole
      have hne : trimStart cs ≠ c :: cs := fun e => by
        have hle := (List.dropWhile_suffix isBlank (l := cs)).length_le
        rw [show cs.dropWhile isBlank = c :: cs from e, List.length_cons] at hle
        omega
      simp [h, hne]
    · simp [h]

/-- What is left begins with no blank. -/
theorem isBlank_of_head?_trimStart {cs : List Char} {c : Char}
    (h : (trimStart cs).head? = some c) : isBlank c = false := by
  have hnot := List.head?_dropWhile_not isBlank cs
  rw [show cs.dropWhile isBlank = trimStart cs from rfl, h] at hnot
  simpa using hnot

@[simp] theorem trimStart_trimStart (cs : List Char) :
    trimStart (trimStart cs) = trimStart cs :=
  trimStart_eq_self_iff.2 fun _ => isBlank_of_head?_trimStart

/-! ## The end -/

theorem trimEnd_eq_rdropWhile (cs : List Char) : trimEnd cs = cs.rdropWhile isBlank := rfl

/-- Nothing is trimmed at the end exactly if the last character is not blank. -/
theorem trimEnd_eq_self_iff {cs : List Char} :
    trimEnd cs = cs ↔ ∀ c, cs.getLast? = some c → isBlank c = false := by
  rw [trimEnd_eq_rdropWhile, List.rdropWhile_eq_self_iff]
  constructor
  · intro h c hc
    have hne : cs ≠ [] := by rintro rfl; simp at hc
    rw [List.getLast?_eq_some_getLast hne, Option.some_inj] at hc
    simpa [← hc] using h hne
  · intro h hne
    simp [h _ (List.getLast?_eq_some_getLast hne)]

@[simp] theorem trimEnd_trimEnd (cs : List Char) : trimEnd (trimEnd cs) = trimEnd cs :=
  List.rdropWhile_idempotent isBlank cs

/-- The end of two texts is that of the second, if anything is left of it. -/
theorem trimEnd_append (a b : List Char) :
    trimEnd (a ++ b) = if trimEnd b = [] then trimEnd a else a ++ trimEnd b := by
  simp only [trimEnd, List.reverse_append, List.dropWhile_append, List.isEmpty_iff,
    List.reverse_eq_nil_iff]
  split <;> simp

/-- **A character that is not blank ends the trimming**, whatever stands before it. -/
theorem trimEnd_append_cons {c : Char} (h : isBlank c = false) (a b : List Char) :
    trimEnd (a ++ c :: b) = a ++ c :: trimEnd b := by
  have hc : trimEnd (c :: b) = c :: trimEnd b := by
    rw [← List.singleton_append, trimEnd_append]
    by_cases hb : trimEnd b = []
    · have hself : trimEnd [c] = [c] := trimEnd_eq_self_iff.2 (by simp [h])
      rw [if_pos hb, hself, hb]
    · rw [if_neg hb, List.singleton_append]
  rw [trimEnd_append, hc, if_neg (List.cons_ne_nil _ _)]

/-! ## Both ends -/

/-- **The two ends commute.** -/
theorem trimStart_trimEnd (cs : List Char) : trimStart (trimEnd cs) = trimEnd (trimStart cs) := by
  induction cs with
  | nil => rfl
  | cons c cs ih =>
    by_cases h : isBlank c
    · -- a blank at the start goes on either side, unless the end takes all
      rw [trimStart_cons, if_pos h, ← ih, ← List.singleton_append, trimEnd_append]
      by_cases he : trimEnd cs = []
      · have hc : trimEnd [c] = [] := by simpa [h] using trimEnd_append_singleton [] c
        rw [if_pos he, hc, he]
      · rw [if_neg he, List.singleton_append, trimStart_cons, if_pos h]
    · -- another character ends the trimming from both sides
      have hc : isBlank c = false := by simpa using h
      have hstart : ∀ l, trimStart (c :: l) = c :: l := fun l => by simp [trimStart_cons, hc]
      have hend := trimEnd_append_cons hc [] cs
      rw [List.nil_append, List.nil_append] at hend
      rw [hstart cs, hend, hstart]

/-- Nothing is trimmed exactly if nothing is trimmed at either end. -/
theorem trimChars_eq_self_iff {cs : List Char} :
    trimChars cs = cs ↔ trimStart cs = cs ∧ trimEnd cs = cs := by
  constructor
  · intro h
    refine ⟨?_, ?_⟩
    · rw [← h, trimChars, trimStart_trimEnd, trimStart_trimStart]
    · rw [← h, trimChars, trimEnd_trimEnd]
  · rintro ⟨hs, he⟩
    rw [trimChars, hs, he]

/-- A text without blanks is left alone. -/
theorem trimChars_eq_self_of_forall {cs : List Char} (h : ∀ c ∈ cs, isBlank c = false) :
    trimChars cs = cs := by
  rw [trimChars_eq_self_iff, trimStart_eq_self_iff, trimEnd_eq_self_iff]
  exact ⟨fun c hc => h c (List.mem_of_mem_head? hc), fun c hc => h c (List.mem_of_getLast? hc)⟩

@[simp] theorem trimChars_trimChars (cs : List Char) : trimChars (trimChars cs) = trimChars cs := by
  rw [trimChars_eq_self_iff, trimChars, trimStart_trimEnd, trimStart_trimStart, trimEnd_trimEnd]
  exact ⟨rfl, rfl⟩

/-- Blanks at the end do not matter to a text trimmed at both ends. -/
@[simp] theorem trimChars_trimEnd (cs : List Char) : trimChars (trimEnd cs) = trimChars cs := by
  rw [trimChars, trimStart_trimEnd, trimEnd_trimEnd, trimChars]

/-- Nor does a blank at the start. -/
theorem trimChars_cons_of_isBlank {c : Char} (h : isBlank c = true) (cs : List Char) :
    trimChars (c :: cs) = trimChars cs := by
  rw [trimChars, trimStart_cons, if_pos h, trimChars]

/-- Nor does one more at the end. -/
theorem trimChars_append_singleton {c : Char} (h : isBlank c = true) (cs : List Char) :
    trimChars (cs ++ [c]) = trimChars cs := by
  rw [← trimChars_trimEnd, trimEnd_append_singleton, if_pos h, trimChars_trimEnd]

end NetUnits.Text
