import NetUnits.Text.Class

/-!
# Trimming

Text is trimmed of blanks, as `isBlank` has them. The functions work on character lists; `trim`
on strings is the list function read through `String.toList`.

* **`trimStart`**, **`trimEnd`**, **`trimChars`** — without the blanks at one end, or at both.
* **`trim`** — the same for a string.
-/

namespace NetUnits.Text

/-- The text without its leading blanks. -/
def trimStart (cs : List Char) : List Char :=
  cs.dropWhile isBlank

/-- The text without its trailing blanks. -/
def trimEnd (cs : List Char) : List Char :=
  (cs.reverse.dropWhile isBlank).reverse

/-- The text without the blanks around it. -/
def trimChars (cs : List Char) : List Char :=
  trimEnd (trimStart cs)

/-- The string without the blanks around it. -/
def trim (s : String) : String :=
  String.ofList (trimChars s.toList)

@[simp] theorem trimStart_nil : trimStart [] = [] := rfl

@[simp] theorem trimEnd_nil : trimEnd [] = [] := rfl

@[simp] theorem trimChars_nil : trimChars [] = [] := rfl

@[simp] theorem toList_trim (s : String) : (trim s).toList = trimChars s.toList := by
  simp [trim]

/-- A leading blank is dropped, any other first character ends the trimming. -/
theorem trimStart_cons (c : Char) (cs : List Char) :
    trimStart (c :: cs) = if isBlank c then trimStart cs else c :: cs := by
  simp [trimStart, List.dropWhile_cons]

/-- A trailing blank is dropped, any other last character ends the trimming. -/
theorem trimEnd_append_singleton (cs : List Char) (c : Char) :
    trimEnd (cs ++ [c]) = if isBlank c then trimEnd cs else cs ++ [c] := by
  simp only [trimEnd, List.reverse_append, List.reverse_cons, List.reverse_nil, List.nil_append,
    List.cons_append, List.dropWhile_cons]
  split <;> simp

/-- Trimming the end keeps a beginning of the text. -/
theorem trimEnd_isPrefix (cs : List Char) : trimEnd cs <+: cs := by
  have h := List.dropWhile_suffix isBlank (l := cs.reverse)
  rw [← List.reverse_prefix] at h
  simpa [trimEnd] using h

end NetUnits.Text
