import NetUnits.Proofs.Text.Lines

/-! # Words of a text

Words are read wherever blanks set them apart, and it does not matter which blanks, and how many of
them:

* **`IsWord`** — a text that is one word.
* **`Spaced`** — words with blanks between them and around them.
* **`wordsOf_eq_iff`** — these are the words that are read of a text.
* **`wordsOf_closeLine`** — the end of a line does not change the words in it. -/

namespace NetUnits.Text

/-- **A word**: it is not empty, and none of its characters is blank. -/
def IsWord (cs : List Char) : Prop :=
  cs ≠ [] ∧ ∀ c ∈ cs, isBlank c = false

instance : DecidablePred IsWord := fun cs =>
  decidable_of_iff ((!cs.isEmpty && cs.all fun c => !isBlank c) = true) (by simp [IsWord])

/-- **Words with blanks** between them and around them: a word ends the text or stands before a
blank. -/
inductive Spaced : List (List Char) → List Char → Prop
  /-- Nothing but blanks. -/
  | nil {pad : List Char} (hpad : ∀ c ∈ pad, isBlank c = true) : Spaced [] pad
  /-- A word after blanks. -/
  | cons {pad word rest : List Char} {words : List (List Char)}
      (hpad : ∀ c ∈ pad, isBlank c = true) (hword : IsWord word)
      (hend : ∀ c, rest.head? = some c → isBlank c = true) (hrest : Spaced words rest) :
      Spaced (word :: words) (pad ++ (word ++ rest))

/-- A blank more at the start. -/
theorem Spaced.cons_blank {words : List (List Char)} {c : Char} {cs : List Char}
    (hc : isBlank c = true) (h : Spaced words cs) : Spaced words (c :: cs) := by
  cases h with
  | nil hpad => exact .nil (List.forall_mem_cons.2 ⟨hc, hpad⟩)
  | cons hpad hword hend hrest =>
    exact .cons (List.forall_mem_cons.2 ⟨hc, hpad⟩) hword hend hrest

/-- Words are spaced if a space follows each of them. -/
theorem spaced_flatMap {words : List (List Char)} (h : ∀ word ∈ words, IsWord word) :
    Spaced words (words.flatMap (· ++ [' '])) := by
  induction words with
  | nil => exact .nil (List.forall_mem_nil _)
  | cons word words ih =>
    obtain ⟨hword, hwords⟩ := List.forall_mem_cons.1 h
    have hrest : Spaced words (' ' :: words.flatMap (· ++ [' '])) := (ih hwords).cons_blank rfl
    rw [List.flatMap_cons, List.append_assoc]
    exact .cons (List.forall_mem_nil _) hword (by rintro c ⟨⟩; rfl) hrest

/-- Spaced words occur in the text. -/
theorem Spaced.isInfix {words : List (List Char)} {cs word : List Char} (h : Spaced words cs)
    (hword : word ∈ words) : word <:+: cs := by
  induction h with
  | nil => exact absurd hword List.not_mem_nil
  | @cons pad first rest words _ _ _ _ ih =>
    rcases List.mem_cons.1 hword with rfl | hword
    · exact ⟨pad, rest, List.append_assoc _ _ _⟩
    · exact (ih hword).trans ⟨pad ++ first, [], by simp⟩

/-! ## The words that are read -/

/-- Characters that are not blank are collected. -/
theorem wordsFrom_append {word : List Char} (h : ∀ c ∈ word, isBlank c = false)
    (acc rest : List Char) :
    wordsFrom acc (word ++ rest) = wordsFrom (word.reverse ++ acc) rest := by
  induction word generalizing acc with
  | nil => rfl
  | cons c word ih =>
    obtain ⟨hc, hword⟩ := List.forall_mem_cons.1 h
    rw [List.cons_append, wordsFrom, hc, if_neg Bool.false_ne_true, ih hword]
    simp

/-- Blanks before the words do not count. -/
theorem wordsOf_append {pad : List Char} (h : ∀ c ∈ pad, isBlank c = true) (rest : List Char) :
    wordsOf (pad ++ rest) = wordsOf rest := by
  induction pad with
  | nil => rfl
  | cons c pad ih =>
    obtain ⟨hc, hpad⟩ := List.forall_mem_cons.1 h
    rw [← ih hpad, List.cons_append, wordsOf, wordsFrom, if_pos hc]
    rfl

/-- A word is read up to the blank after it. -/
theorem wordsOf_word_append {word rest : List Char} (hword : IsWord word)
    (hend : ∀ c, rest.head? = some c → isBlank c = true) :
    wordsOf (word ++ rest) = word :: wordsOf rest := by
  have hne : word.reverse.isEmpty = false := by simpa using hword.1
  rw [wordsOf, wordsFrom_append hword.2, List.append_nil]
  cases rest with
  | nil => simp [wordsFrom, hne]
  | cons c rest =>
    rw [wordsFrom, if_pos (hend c rfl), hne, if_neg Bool.false_ne_true, List.reverse_reverse,
      wordsOf, wordsFrom, if_pos (hend c rfl)]
    rfl

/-- What is collected of a word, last character first, is a word. -/
theorem isWord_reverse {acc : List Char} (h : ∀ c ∈ acc, isBlank c = false) (hne : acc ≠ []) :
    IsWord acc.reverse :=
  ⟨by simpa using hne, fun c hc => h c (List.mem_reverse.1 hc)⟩

/-- What is read of collected characters, and of those after them, is spaced in them. -/
theorem spaced_wordsFrom {acc : List Char} (hacc : ∀ c ∈ acc, isBlank c = false)
    (cs : List Char) : Spaced (wordsFrom acc cs) (acc.reverse ++ cs) := by
  induction cs generalizing acc with
  | nil =>
    by_cases hne : acc = []
    · subst hne
      exact .nil (List.forall_mem_nil _)
    · rw [wordsFrom, if_neg (by simpa using hne)]
      exact .cons (List.forall_mem_nil _) (isWord_reverse hacc hne) (fun c hc => nomatch hc)
        (.nil (List.forall_mem_nil _))
  | cons c cs ih =>
    by_cases hc : isBlank c = true
    · -- a blank ends the word that is open, if there is one
      have hrest : Spaced (wordsFrom [] cs) (c :: cs) :=
        (ih (List.forall_mem_nil _)).cons_blank hc
      rw [wordsFrom, if_pos hc]
      by_cases hne : acc = []
      · subst hne
        exact hrest
      · rw [if_neg (by simpa using hne)]
        exact .cons (List.forall_mem_nil _) (isWord_reverse hacc hne) (by rintro d ⟨⟩; exact hc)
          hrest
    · rw [wordsFrom, if_neg hc, List.append_cons, ← List.reverse_cons]
      exact ih (List.forall_mem_cons.2 ⟨by simpa using hc, hacc⟩)

/-- **The words that are read** are those that blanks set apart. -/
theorem wordsOf_eq_iff {words : List (List Char)} {cs : List Char} :
    wordsOf cs = words ↔ Spaced words cs := by
  constructor
  · rintro rfl
    exact spaced_wordsFrom (List.forall_mem_nil _) cs
  · intro h
    induction h with
    | @nil pad hpad => rw [← List.append_nil pad, wordsOf_append hpad, wordsOf_nil]
    | cons hpad hword hend _ ih => rw [wordsOf_append hpad, wordsOf_word_append hword hend, ih]

/-! ## Words of a line -/

/-- A blank at the end does not count. -/
theorem wordsFrom_append_blank {c : Char} (hc : isBlank c = true) (acc cs : List Char) :
    wordsFrom acc (cs ++ [c]) = wordsFrom acc cs := by
  induction cs generalizing acc with
  | nil => simp [wordsFrom, hc]
  | cons d cs ih => simp only [List.cons_append, wordsFrom, ih]

/-- **The end of a line does not change its words.** -/
theorem wordsOf_closeLine (acc : List Char) : wordsOf (closeLine acc) = wordsOf acc.reverse := by
  unfold closeLine
  split
  · rw [List.reverse_cons, wordsOf, wordsOf, wordsFrom_append_blank rfl]
  · rfl

end NetUnits.Text
