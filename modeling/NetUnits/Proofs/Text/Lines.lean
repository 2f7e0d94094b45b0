import NetUnits.Text.Lines

/-! # Lines of a text

A text made of lines, each closed by a line feed, has exactly these lines, as long as none of them
holds a character of a line end. Any text is cut between two of its lines, and read on both sides
of the cut as it was read before:

* **`OneLine`** — a text without line feed and carriage return.
* **`joinLines`** — lines, each closed by a line feed.
* **`linesOf_joinLines`** — reading the lines back.
* **`IsWhole`** — a text that ends where a line ends.
* **`IsWhole.linesOf_append`**, **`exists_cut`** — texts put together and cut. -/

namespace NetUnits.Text

/-- **A text that stays on one line**: it holds no character of a line end. -/
def OneLine (cs : List Char) : Prop :=
  '\n' ∉ cs ∧ '\r' ∉ cs

theorem oneLine_nil : OneLine [] := ⟨List.not_mem_nil, List.not_mem_nil⟩

@[simp] theorem oneLine_append {a b : List Char} : OneLine (a ++ b) ↔ OneLine a ∧ OneLine b := by
  simp only [OneLine, List.mem_append, not_or]
  exact and_and_and_comm

@[simp] theorem oneLine_cons {c : Char} {cs : List Char} :
    OneLine (c :: cs) ↔ (c ≠ '\n' ∧ c ≠ '\r') ∧ OneLine cs := by
  simp only [OneLine, List.mem_cons, not_or, ne_eq, eq_comm (a := c)]
  exact and_and_and_comm

/-- **Lines as a text**: each is closed by a line feed. -/
def joinLines (lines : List (List Char)) : List Char :=
  lines.flatMap (· ++ ['\n'])

@[simp] theorem joinLines_nil : joinLines [] = [] := rfl

@[simp] theorem joinLines_cons (line : List Char) (lines : List (List Char)) :
    joinLines (line :: lines) = line ++ '\n' :: joinLines lines := by
  simp [joinLines]

@[simp] theorem joinLines_append (a b : List (List Char)) :
    joinLines (a ++ b) = joinLines a ++ joinLines b := by
  simp [joinLines]

/-- Characters other than a line feed are collected. -/
theorem linesFrom_append {line : List Char} (h : '\n' ∉ line) (acc rest : List Char) :
    linesFrom acc (line ++ rest) = linesFrom (line.reverse ++ acc) rest := by
  induction line generalizing acc with
  | nil => rfl
  | cons c line ih =>
    obtain ⟨hc, hline⟩ := not_or.1 (mt List.mem_cons.2 h)
    rw [List.cons_append, linesFrom_cons (Ne.symm hc), ih hline]
    simp

/-- **A line is closed as it is**, unless it ends in a carriage return. -/
theorem closeLine_reverse_eq_iff {line : List Char} :
    closeLine line.reverse = line ↔ line.getLast? ≠ some '\r' := by
  obtain rfl | ⟨init, c, rfl⟩ := line.eq_nil_or_concat
  · exact iff_of_true rfl (by simp)
  · rw [List.concat_eq_append, List.reverse_append, List.reverse_singleton, List.singleton_append,
      List.getLast?_concat]
    by_cases hc : c = '\r'
    · subst hc
      simp [closeLine]
    · have hclose : closeLine (c :: init.reverse) = (c :: init.reverse).reverse := by
        unfold closeLine
        split
        · rename_i acc hacc
          exact absurd (List.cons.inj hacc).1 hc
        · rfl
      rw [hclose]
      simp [hc]

/-- In particular, a line without carriage returns is closed as it is. -/
theorem closeLine_reverse {line : List Char} (h : '\r' ∉ line) :
    closeLine line.reverse = line :=
  closeLine_reverse_eq_iff.2 fun hlast => h (List.mem_of_getLast? hlast)

/-- What is closed gets no longer. -/
theorem length_closeLine_le (acc : List Char) : (closeLine acc).length ≤ acc.length := by
  unfold closeLine
  split
  · rw [List.length_reverse, List.length_cons]
    omega
  · exact Nat.le_of_eq List.length_reverse

/-- What stands in front of the end of a line does not change how the line is closed. -/
theorem closeLine_append {front : List Char} (h : front.head? ≠ some '\r') (acc : List Char) :
    closeLine (acc ++ front) = front.reverse ++ closeLine acc := by
  cases acc with
  | nil =>
    have hclose : closeLine front = front.reverse := by
      unfold closeLine
      split
      · exact absurd rfl h
      · rfl
    rw [List.nil_append, hclose]
    exact (List.append_nil _).symm
  | cons c acc =>
    by_cases hc : c = '\r'
    · subst hc
      rw [List.cons_append, closeLine, closeLine, List.reverse_append]
    · unfold closeLine
      simp [hc]

/-- **The first line of a text is closed** at the first line feed. -/
theorem linesOf_append_lineFeed {line : List Char} (h : '\n' ∉ line) (rest : List Char) :
    linesOf (line ++ '\n' :: rest) = closeLine line.reverse :: linesOf rest := by
  rw [linesOf, linesFrom_append h, linesFrom_lineFeed, List.append_nil, linesOf]

/-- A text without line feeds is one line. -/
theorem linesOf_of_not_mem {line : List Char} (hline : '\n' ∉ line) (hne : line ≠ []) :
    linesOf line = [line] := by
  have hread := linesFrom_append hline [] []
  rw [List.append_nil, List.append_nil] at hread
  rw [linesOf, hread]
  simp [linesFrom, hne]

/-- **The first line of a text**, and the lines after it. -/
theorem linesOf_append {line : List Char} (h : OneLine line) (rest : List Char) :
    linesOf (line ++ '\n' :: rest) = line :: linesOf rest := by
  rw [linesOf_append_lineFeed h.1, closeLine_reverse h.2]

/-- **Lines are read back as they are written.** -/
theorem linesOf_joinLines {lines : List (List Char)} (h : ∀ line ∈ lines, OneLine line) :
    linesOf (joinLines lines) = lines := by
  induction lines with
  | nil => rfl
  | cons line lines ih =>
    rw [joinLines_cons, linesOf_append (h line List.mem_cons_self),
      ih fun l hl => h l (List.mem_cons_of_mem line hl)]

/-! ## Cuts between lines -/

/-- **A text that ends where a line ends**: it is empty, or ends in a line feed. -/
def IsWhole (cs : List Char) : Prop :=
  cs = [] ∨ cs.getLast? = some '\n'

instance : DecidablePred IsWhole := fun cs =>
  inferInstanceAs (Decidable (cs = [] ∨ cs.getLast? = some '\n'))

/-- After a line feed, lines are read as from the start. -/
theorem linesFrom_append_lineFeed (acc cs rest : List Char) :
    linesFrom acc (cs ++ '\n' :: rest) = linesFrom acc (cs ++ ['\n']) ++ linesOf rest := by
  induction cs generalizing acc with
  | nil => rw [List.nil_append, List.nil_append, linesFrom_lineFeed, linesFrom_lineFeed]; rfl
  | cons c cs ih =>
    rw [List.cons_append, List.cons_append]
    by_cases hc : c = '\n'
    · rw [hc, linesFrom_lineFeed, linesFrom_lineFeed, ih, List.cons_append]
    · rw [linesFrom_cons hc, linesFrom_cons hc, ih]

/-- **The lines of two texts in sequence**, if the first ends where a line ends. -/
theorem IsWhole.linesOf_append {a : List Char} (h : IsWhole a) (b : List Char) :
    linesOf (a ++ b) = linesOf a ++ linesOf b := by
  rcases h with rfl | h
  · rfl
  · obtain ⟨cs, rfl⟩ := List.getLast?_eq_some_iff.1 h
    rw [List.append_assoc, List.singleton_append]
    exact linesFrom_append_lineFeed [] cs b

theorem IsWhole.append {a b : List Char} (ha : IsWhole a) (hb : IsWhole b) : IsWhole (a ++ b) := by
  rcases hb with rfl | hb
  · rwa [List.append_nil]
  · exact .inr (by rw [List.getLast?_append, hb, Option.some_or])

/-- A line that is followed by another one ends in a line feed. -/
theorem exists_lineFeed {acc text line : List Char} {rest : List (List Char)}
    (h : linesFrom acc text = line :: rest) (hrest : rest ≠ []) :
    ∃ a b, text = a ++ '\n' :: b ∧ linesFrom acc (a ++ ['\n']) = [line] ∧ linesOf b = rest := by
  induction text generalizing acc with
  | nil =>
    rw [linesFrom] at h
    split at h
    · exact absurd h (List.cons_ne_nil _ _).symm
    · exact absurd (List.cons.inj h).2.symm hrest
  | cons c cs ih =>
    by_cases hc : c = '\n'
    · subst hc
      rw [linesFrom_lineFeed] at h
      obtain ⟨hline, hcs⟩ := List.cons.inj h
      refine ⟨[], cs, rfl, ?_, hcs⟩
      rw [List.nil_append, linesFrom_lineFeed, hline]
      rfl
    · rw [linesFrom_cons hc] at h
      obtain ⟨a, b, rfl, ha, hb⟩ := ih h
      exact ⟨c :: a, b, rfl, by rwa [List.cons_append, linesFrom_cons hc], hb⟩

/-- **A text is cut in front of any of its lines.** -/
theorem exists_cut {text : List Char} {before after : List (List Char)}
    (h : linesOf text = before ++ after) (hafter : after ≠ []) :
    ∃ a b, text = a ++ b ∧ IsWhole a ∧ linesOf a = before ∧ linesOf b = after := by
  induction before generalizing text with
  | nil => exact ⟨[], text, rfl, .inl rfl, rfl, h⟩
  | cons line before ih =>
    obtain ⟨a, b, rfl, ha, hb⟩ := exists_lineFeed h (by simp [hafter])
    obtain ⟨c, d, rfl, hwhole, hc, hd⟩ := ih hb
    have hfirst : IsWhole (a ++ ['\n']) := .inr (by simp)
    refine ⟨a ++ ['\n'] ++ c, d, by simp, hfirst.append hwhole, ?_, hd⟩
    rw [hfirst.linesOf_append, hc]
    exact congrArg (· ++ before) ha

end NetUnits.Text
