import NetUnits.Text.Class

/-!
# Lines, words and fields

* **`linesOf`** — the physical lines of a text: each ends at a line feed, and one carriage
  return before the line feed belongs to the line end. Text after the last line feed is a line of
  its own; an empty rest is none.
* **`wordsOf`** — the maximal runs of characters that are not blank.
* **`splitOnce`** — the text before and after the first occurrence of a character.
* **`occursIn`** — whether a text occurs in another.
-/

namespace NetUnits.Text

/-- The line collected in `acc` (last character first), closed by a line feed: a carriage return
at its end belongs to the line end. -/
def closeLine : List Char → List Char
  | '\r' :: acc => acc.reverse
  | acc => acc.reverse

/-- The lines of `cs`, when the characters of `acc` (last first) are already read of the first. -/
def linesFrom (acc : List Char) : List Char → List (List Char)
  | [] => if acc.isEmpty then [] else [acc.reverse]
  | c :: cs => if c = '\n' then closeLine acc :: linesFrom [] cs else linesFrom (c :: acc) cs

/-- **The lines** of a text, without their ends. -/
def linesOf (cs : List Char) : List (List Char) :=
  linesFrom [] cs

@[simp] theorem linesOf_nil : linesOf [] = [] := rfl

/-- A line feed closes the line read so far. -/
theorem linesFrom_lineFeed (acc cs : List Char) :
    linesFrom acc ('\n' :: cs) = closeLine acc :: linesFrom [] cs := by
  simp [linesFrom]

/-- Any other character belongs to the line. -/
theorem linesFrom_cons {c : Char} (h : c ≠ '\n') (acc cs : List Char) :
    linesFrom acc (c :: cs) = linesFrom (c :: acc) cs := by
  simp [linesFrom, h]

/-- The words of `cs`, when `acc` (last first) is already read of the first. -/
def wordsFrom (acc : List Char) : List Char → List (List Char)
  | [] => if acc.isEmpty then [] else [acc.reverse]
  | c :: cs =>
    if isBlank c then
      if acc.isEmpty then wordsFrom [] cs else acc.reverse :: wordsFrom [] cs
    else wordsFrom (c :: acc) cs

/-- **The words** of a text: its maximal runs of characters that are not blank. -/
def wordsOf (cs : List Char) : List (List Char) :=
  wordsFrom [] cs

@[simp] theorem wordsOf_nil : wordsOf [] = [] := rfl

/-- **The two sides of the first `sep`**, or nothing when `sep` does not occur. -/
def splitOnce (sep : Char) : List Char → Option (List Char × List Char)
  | [] => none
  | c :: cs =>
    if c = sep then some ([], cs)
    else (splitOnce sep cs).map fun (before, after) => (c :: before, after)

@[simp] theorem splitOnce_nil (sep : Char) : splitOnce sep [] = none := rfl

/-- Splitting fails exactly on texts without the separator. -/
theorem splitOnce_eq_none_iff {sep : Char} {cs : List Char} :
    splitOnce sep cs = none ↔ sep ∉ cs := by
  induction cs with
  | nil => simp
  | cons c cs ih =>
    by_cases h : c = sep
    · simp [splitOnce, h]
    · simp [splitOnce, h, ih, Ne.symm h]

/-- The two sides around the separator make up the text, and the first is free of it. -/
theorem splitOnce_eq_some_iff {sep : Char} {cs before after : List Char} :
    splitOnce sep cs = some (before, after) ↔ cs = before ++ sep :: after ∧ sep ∉ before := by
  induction cs generalizing before with
  | nil => simp
  | cons c cs ih =>
    by_cases h : c = sep
    · subst h
      cases before with
      | nil => simp [splitOnce]
      | cons b bs => simp [splitOnce]; grind
    · cases before with
      | nil => simp [splitOnce, h]
      | cons b bs => simp [splitOnce, h, ih]; grind

/-! ## Search -/

/-- **Whether a text occurs in another.** -/
def occursIn (needle : List Char) : List Char → Bool
  | [] => needle.isEmpty
  | c :: cs => needle.isPrefixOf (c :: cs) || occursIn needle cs

end NetUnits.Text
