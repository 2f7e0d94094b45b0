/-!
# Positions in text

A position counts the bytes before it, as UTF-8 has them. Not every number is the position of a
place between two characters.

* **`byteLength`** — the number of bytes of a text.
* **`splitAt?`** — what stands before a position and after it.
* **`between?`** — what stands between two positions.

The main statement is `splitAt?_eq_some_iff`: a text is split into two parts of which the first has
the wanted length, and this always works where such parts exist.
-/

namespace NetUnits.Text

/-- **The number of bytes** of a text. -/
def byteLength : List Char → Nat
  | [] => 0
  | c :: cs => c.utf8Size + byteLength cs

/-- **What stands before a position and after it**, unless it lies within a character or beyond the
text. -/
def splitAt? : Nat → List Char → Option (List Char × List Char)
  | 0, cs => some ([], cs)
  | _ + 1, [] => none
  | n + 1, c :: cs =>
    if c.utf8Size ≤ n + 1 then
      (splitAt? (n + 1 - c.utf8Size) cs).map fun (before, after) => (c :: before, after)
    else none

/-- **What stands between two positions**, the second not before the first. -/
def between? (first last : Nat) (cs : List Char) : Option (List Char) := do
  let (_, cs) ← splitAt? first cs
  let (part, _) ← splitAt? (last - first) cs
  return part

@[simp] theorem splitAt?_zero (cs : List Char) : splitAt? 0 cs = some ([], cs) := by
  unfold splitAt?
  rfl

/-- What is split off has the wanted length, and nothing is lost. -/
theorem eq_append_of_splitAt? {n : Nat} {cs before after : List Char}
    (h : splitAt? n cs = some (before, after)) : cs = before ++ after ∧ byteLength before = n := by
  fun_induction splitAt? n cs generalizing before after with
  | case1 cs =>
    obtain ⟨rfl, rfl⟩ : [] = before ∧ cs = after := by simpa using h
    simp [byteLength]
  | case2 => simp at h
  | case3 n c cs fits ih =>
    obtain ⟨⟨a, b⟩, split, made⟩ := Option.map_eq_some_iff.1 h
    obtain ⟨rfl, rfl⟩ : c :: a = before ∧ b = after := by simpa using made
    obtain ⟨rfl, length⟩ := ih split
    refine ⟨rfl, ?_⟩
    simp only [byteLength]
    omega
  | case4 => simp at h

/-- A text is split after any of its beginnings. -/
theorem splitAt?_append (before after : List Char) :
    splitAt? (byteLength before) (before ++ after) = some (before, after) := by
  induction before with
  | nil => simp [byteLength]
  | cons c cs ih =>
    obtain ⟨n, hn⟩ : ∃ n, c.utf8Size + byteLength cs = n + 1 :=
      ⟨c.utf8Size + byteLength cs - 1, by have := c.utf8Size_pos; omega⟩
    have fits : c.utf8Size ≤ n + 1 := by omega
    have rest : n + 1 - c.utf8Size = byteLength cs := by omega
    simp [byteLength, hn, splitAt?, fits, rest, ih]

/-- **A text is split exactly where a part of it ends.** -/
theorem splitAt?_eq_some_iff {n : Nat} {cs before after : List Char} :
    splitAt? n cs = some (before, after) ↔ cs = before ++ after ∧ byteLength before = n :=
  ⟨eq_append_of_splitAt?, fun ⟨text, length⟩ => text ▸ length ▸ splitAt?_append before after⟩

end NetUnits.Text
