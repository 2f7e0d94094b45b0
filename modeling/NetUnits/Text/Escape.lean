/-!
# Terminal control sequences

Output of commands often carries control sequences for a terminal. **`stripEscapes`** removes
them: an escape character with the one character after it, and after an escape with `[` all up to
the first character from `@` to `~`.
-/

namespace NetUnits.Text

/-- The escape character. -/
def escapeChar : Char := '\x1b'

/-- Whether a character ends a control sequence. -/
def isFinal (c : Char) : Bool :=
  '@' ≤ c && c ≤ '~'

mutual

/-- **The text without its control sequences.** -/
def stripEscapes : List Char → List Char
  | [] => []
  | c :: cs => if c = escapeChar then stripAfterEscape cs else c :: stripEscapes cs

/-- The rest after an escape character: its next character belongs to the sequence, and `[` opens
a longer one. -/
def stripAfterEscape : List Char → List Char
  | [] => []
  | c :: cs => if c = '[' then stripInSequence cs else stripEscapes cs

/-- The rest inside a sequence opened by `[`, which ends with the first final character. -/
def stripInSequence : List Char → List Char
  | [] => []
  | c :: cs => if isFinal c then stripEscapes cs else stripInSequence cs

end

@[simp] theorem stripEscapes_nil : stripEscapes [] = [] := by
  simp [stripEscapes]

/-- A character other than the escape is kept. -/
theorem stripEscapes_cons {c : Char} (h : c ≠ escapeChar) (cs : List Char) :
    stripEscapes (c :: cs) = c :: stripEscapes cs := by
  simp [stripEscapes, h]

/-- A string without its control sequences. -/
def plain (s : String) : String :=
  String.ofList (stripEscapes s.toList)

end NetUnits.Text
