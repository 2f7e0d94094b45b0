import NetUnits.Text.Hidden

/-!
# Quoted text

Messages show a text they complain about in double quotes, so that its ends, blanks and invisible
characters can be seen. **`quoted`** writes quotes, backslashes, the common control characters and
NUL with a backslash, every other character that does not show by its code point in hexadecimal,
and all else as it is.
-/

namespace NetUnits.Text

/-- The lower-case hexadecimal digits of a number, without leading zeros. -/
def hexDigits (n : Nat) : List Char :=
  Nat.toDigits 16 n

/-- **One character in quotes.** -/
def quotedChar (c : Char) : List Char :=
  if c = '"' then ['\\', '"']
  else if c = '\\' then ['\\', '\\']
  else if c = '\n' then ['\\', 'n']
  else if c = '\r' then ['\\', 'r']
  else if c = '\t' then ['\\', 't']
  else if c = '\x00' then ['\\', '0']
  else if isHidden c then ['\\', 'u', '\x7b'] ++ hexDigits c.toNat ++ ['\x7d']
  else [c]

/-- The characters of a quoted text, without the quotes around it. -/
def quotedChars (cs : List Char) : List Char :=
  cs.flatMap quotedChar

@[simp] theorem quotedChars_nil : quotedChars [] = [] := rfl

@[simp] theorem quotedChars_cons (c : Char) (cs : List Char) :
    quotedChars (c :: cs) = quotedChar c ++ quotedChars cs := by
  simp [quotedChars]

/-- **A text in double quotes.** -/
def quoted (s : String) : String :=
  String.ofList ('"' :: quotedChars s.toList ++ ['"'])

end NetUnits.Text
