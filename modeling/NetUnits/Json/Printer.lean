import NetUnits.Json.Basic
import NetUnits.Json.Number

/-!
# Writing JSON

* **`Json.compact`** — a value on one line, without blanks.
* **`Json.pretty`** — a value over several lines: every item and member has a line of its own,
  indented by two spaces for each array or object around it.

Strings are written as they are, but for quotes, backslashes and control characters.
-/

namespace NetUnits.Json

/-- A hexadecimal digit in lower case. -/
def hexDigit (n : Nat) : Char :=
  if n < 10 then Char.ofNat ('0'.toNat + n) else Char.ofNat ('a'.toNat + (n - 10))

/-- One character of a string. -/
def stringChar (c : Char) : List Char :=
  if c = '"' then ['\\', '"']
  else if c = '\\' then ['\\', '\\']
  else if c = '\x08' then ['\\', 'b']
  else if c = '\x0c' then ['\\', 'f']
  else if c = '\n' then ['\\', 'n']
  else if c = '\r' then ['\\', 'r']
  else if c = '\t' then ['\\', 't']
  else if c.toNat < 0x20 then
    ['\\', 'u', '0', '0', hexDigit (c.toNat / 16), hexDigit (c.toNat % 16)]
  else [c]

/-- A string in quotes. -/
def stringText (s : String) : List Char :=
  '"' :: s.toList.flatMap stringChar ++ ['"']

/-- A value other than an array or object. -/
def scalarText : Json → List Char
  | .null => "null".toList
  | .bool true => "true".toList
  | .bool false => "false".toList
  | .int i => (toString i).toList
  | .float negative size => (if negative then ['-'] else []) ++ sizeText size
  | .string s => stringText s
  | _ => []

/-! ## On one line -/

mutual

/-- The characters of a value on one line. -/
def compactChars : Json → List Char
  | .array [] => ['[', ']']
  | .array (j :: rest) => '[' :: compactChars j ++ compactItems rest
  | .object [] => ['\x7b', '\x7d']
  | .object ((key, j) :: rest) =>
    '\x7b' :: stringText key ++ ':' :: compactChars j ++ compactMembers rest
  | j => scalarText j

/-- The items after the first, with the closing bracket. -/
def compactItems : List Json → List Char
  | [] => [']']
  | j :: rest => ',' :: compactChars j ++ compactItems rest

/-- The members after the first, with the closing brace. -/
def compactMembers : List (String × Json) → List Char
  | [] => ['\x7d']
  | (key, j) :: rest =>
    ',' :: stringText key ++ ':' :: compactChars j ++ compactMembers rest

end

/-- **A value on one line.** -/
def compact (j : Json) : String :=
  String.ofList (compactChars j)

/-! ## Over several lines -/

/-- A new line inside `level` arrays and objects. -/
def newLine (level : Nat) : List Char :=
  '\n' :: List.replicate (2 * level) ' '

mutual

/-- The characters of a value inside `level` arrays and objects. -/
def prettyChars (level : Nat) : Json → List Char
  | .array [] => ['[', ']']
  | .array (j :: rest) =>
    '[' :: newLine (level + 1) ++ prettyChars (level + 1) j ++ prettyItems level rest
  | .object [] => ['\x7b', '\x7d']
  | .object ((key, j) :: rest) =>
    '\x7b' :: newLine (level + 1) ++ stringText key ++ ':' :: ' ' :: prettyChars (level + 1) j ++
      prettyMembers level rest
  | j => scalarText j

/-- The items after the first, with the closing bracket. -/
def prettyItems (level : Nat) : List Json → List Char
  | [] => newLine level ++ [']']
  | j :: rest =>
    ',' :: newLine (level + 1) ++ prettyChars (level + 1) j ++ prettyItems level rest

/-- The members after the first, with the closing brace. -/
def prettyMembers (level : Nat) : List (String × Json) → List Char
  | [] => newLine level ++ ['\x7d']
  | (key, j) :: rest =>
    ',' :: newLine (level + 1) ++ stringText key ++ ':' :: ' ' :: prettyChars (level + 1) j ++
      prettyMembers level rest

end

/-- **A value over several lines.** -/
def pretty (j : Json) : String :=
  String.ofList (prettyChars 0 j)

end NetUnits.Json
