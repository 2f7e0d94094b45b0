import NetUnits.Json.Basic
import NetUnits.Json.Number

/-!
# Reading JSON

The grammar is that of RFC 8259: one value, with spaces, tabs and line ends around its parts.

* **`Json.parse?`** — the value of a text, however deep it is nested; parts of it may be such that
  they can only be skipped.
* **`Json.read?`** — the value of a text of which all can be read, nested at most 127 deep;
  **`Json.readFirst?`** that at its start.
-/

namespace NetUnits.Json

namespace Parser

/-! ## Leaves -/

/-- Blanks between the parts of a JSON text. -/
def isGap (c : Char) : Bool :=
  c == ' ' || c == '\t' || c == '\n' || c == '\r'

/-- The text after the blanks at its start. -/
def skipGaps (cs : List Char) : List Char :=
  cs.dropWhile isGap

/-- The value of four hexadecimal digits at the start, and the text after them. -/
def hex4? : List Char → Option (Nat × List Char)
  | a :: b :: c :: d :: rest => do
    let a ← Text.hexDigit? a
    let b ← Text.hexDigit? b
    let c ← Text.hexDigit? c
    let d ← Text.hexDigit? d
    return (((a * 16 + b) * 16 + c) * 16 + d, rest)
  | _ => none

/-- The low half of a surrogate pair in an escape at the start, and the text after it. -/
def lowHalf? : List Char → Option (Nat × List Char)
  | '\\' :: 'u' :: rest => (hex4? rest).filter fun (unit, _) => 0xDC00 ≤ unit ∧ unit < 0xE000
  | _ => none

/-- The character of an escape by code units: one unit, or a pair of surrogates. Half a pair is no
character. -/
def unitEscape? (cs : List Char) : Option (Option Char × List Char) := do
  let (unit, rest) ← hex4? cs
  if 0xD800 ≤ unit ∧ unit < 0xDC00 then
    match lowHalf? rest with
    | some (low, rest) =>
      return (some (Char.ofNat (0x10000 + (unit - 0xD800) * 0x400 + (low - 0xDC00))), rest)
    | none => return (none, rest)
  else if 0xDC00 ≤ unit ∧ unit < 0xE000 then return (none, rest)
  else return (some (Char.ofNat unit), rest)

/-- The character of an escape, from what follows the backslash. -/
def escape? : List Char → Option (Option Char × List Char)
  | '"' :: rest => some (some '"', rest)
  | '\\' :: rest => some (some '\\', rest)
  | '/' :: rest => some (some '/', rest)
  | 'b' :: rest => some (some '\x08', rest)
  | 'f' :: rest => some (some '\x0c', rest)
  | 'n' :: rest => some (some '\n', rest)
  | 'r' :: rest => some (some '\r', rest)
  | 't' :: rest => some (some '\t', rest)
  | 'u' :: rest => unitEscape? rest
  | _ => none

/-- The characters of a string up to its closing quote, as far as they are such, and the text after
it. Every step of the fuel reads one character of the string. -/
def stringChars : Nat → List Char → Option (List (Option Char) × List Char)
  | 0, _ => none
  | _ + 1, [] => none
  | fuel + 1, c :: cs =>
    if c = '"' then some ([], cs)
    else if c = '\\' then do
      let (d, cs) ← escape? cs
      let (ds, cs) ← stringChars fuel cs
      return (d :: ds, cs)
    else if c.toNat < 0x20 then none
    else do
      let (ds, cs) ← stringChars fuel cs
      return (some c :: ds, cs)

/-- The string after an opening quote, unless half a surrogate pair stands in it, and the text
after it. -/
def quotedString? (fuel : Nat) (cs : List Char) : Option (Option String × List Char) :=
  (stringChars fuel cs).map fun (ds, rest) => ((ds.mapM id).map String.ofList, rest)

/-- The digits at the start of a text. -/
def digitsOf (cs : List Char) : List Char :=
  cs.takeWhile Char.isDigit

/-- The text after the digits at its start. -/
def afterDigits (cs : List Char) : List Char :=
  cs.dropWhile Char.isDigit

/-- The value of digits. -/
def wholeValue (ds : List Char) : Nat :=
  ds.foldl (fun n c => n * 10 + (c.toNat - '0'.toNat)) 0

/-- The digits of a fraction at the start of a text; none if there is no point. -/
def fraction? : List Char → Option (List Char × List Char)
  | '.' :: cs => if (digitsOf cs).isEmpty then none else some (digitsOf cs, afterDigits cs)
  | cs => some ([], cs)

/-- The exponent at the start of a text, if there is one. -/
def exponent? : List Char → Option (Option Int × List Char)
  | c :: cs =>
    if c = 'e' ∨ c = 'E' then
      let (negative, cs) := match cs with
        | '+' :: cs => (false, cs)
        | '-' :: cs => (true, cs)
        | cs => (false, cs)
      if (digitsOf cs).isEmpty then none
      else
        let n : Int := wholeValue (digitsOf cs)
        some (some (if negative then -n else n), afterDigits cs)
    else some (none, c :: cs)
  | [] => some (none, [])

/-- Whether digits are an integer without superfluous zeros. -/
def isWhole : List Char → Bool
  | [] => false
  | ['0'] => true
  | c :: _ => c != '0'

/-- The number in double precision with a sign, if it is within range. -/
def floatOf (negative : Bool) (size : Option Double) : Json :=
  match size with
  | some size => .float negative size
  | none => .unreadable

/-- The number with a sign, the digits around its point, and maybe an exponent. -/
def numberOf (negative : Bool) (whole fraction : List Char) (exponent : Option Int) : Json :=
  let n := wholeValue whole
  let float := floatOf negative (sizeOf? whole fraction (exponent.getD 0))
  if !fraction.isEmpty || exponent.isSome then float
  else if negative then
    -- a negative zero is no integer
    if 0 < n ∧ n ≤ 9223372036854775808 then .int (-n) else float
  else if n ≤ Text.maxNat64 then .int n else float

/-- The number at the start of a text. -/
def number? (cs : List Char) : Option (Json × List Char) := do
  let (negative, cs) := match cs with
    | '-' :: cs => (true, cs)
    | cs => (false, cs)
  let whole := digitsOf cs
  if !isWhole whole then none
  else do
    let (fraction, cs) ← fraction? (afterDigits cs)
    let (exponent, cs) ← exponent? cs
    return (numberOf negative whole fraction exponent, cs)

/-- The literal or number at the start of a text. -/
def scalar? : List Char → Option (Json × List Char)
  | 't' :: 'r' :: 'u' :: 'e' :: cs => some (.bool true, cs)
  | 'f' :: 'a' :: 'l' :: 's' :: 'e' :: cs => some (.bool false, cs)
  | 'n' :: 'u' :: 'l' :: 'l' :: cs => some (.null, cs)
  | cs => number? cs

/-! ## Values -/

/-- The string that is read, if it is one. -/
def stringOf : Option String → Json
  | some s => .string s
  | none => .unreadable

/-- The object with members whose keys are strings. -/
def objectOf (members : List (Option String × Json)) : Json :=
  match members.mapM fun m => m.1.map (·, m.2) with
  | some members => .object members
  | none => .unreadable

mutual

/-- The value at the start of a text, and the text after it. -/
def value? : Nat → List Char → Option (Json × List Char)
  | 0, _ => none
  | fuel + 1, cs =>
    match skipGaps cs with
    | '"' :: cs => (quotedString? fuel cs).map fun (s, cs) => (stringOf s, cs)
    | '[' :: cs =>
      match skipGaps cs with
      | ']' :: cs => some (.array [], cs)
      | cs => (elements? fuel cs).map fun (items, cs) => (.array items, cs)
    | '\x7b' :: cs =>
      match skipGaps cs with
      | '\x7d' :: cs => some (.object [], cs)
      | cs => (members? fuel cs).map fun (members, cs) => (objectOf members, cs)
    | cs => scalar? cs

/-- The items of an array from the next item on, and the text after its closing bracket. -/
def elements? : Nat → List Char → Option (List Json × List Char)
  | 0, _ => none
  | fuel + 1, cs =>
    match value? fuel cs with
    | none => none
    | some (item, cs) =>
      match skipGaps cs with
      | ']' :: cs => some ([item], cs)
      | ',' :: cs => (elements? fuel cs).map fun (items, cs) => (item :: items, cs)
      | _ => none

/-- The members of an object from the next key on, and the text after its closing brace. -/
def members? : Nat → List Char → Option (List (Option String × Json) × List Char)
  | 0, _ => none
  | fuel + 1, cs =>
    match skipGaps cs with
    | '"' :: cs =>
      match quotedString? fuel cs with
      | none => none
      | some (key, cs) =>
        match skipGaps cs with
        | ':' :: cs =>
          match value? fuel cs with
          | none => none
          | some (item, cs) =>
            match skipGaps cs with
            | '\x7d' :: cs => some ([(key, item)], cs)
            | ',' :: cs =>
              (members? fuel cs).map fun (members, cs) => ((key, item) :: members, cs)
            | _ => none
        | _ => none
    | _ => none

end

/-- The value at the start of a character list, and what follows it. A call reads a character or is
for the first item of an array, so twice the length is fuel enough; what is left of it is always
enough for the characters of a string too. -/
def first? (cs : List Char) : Option (Json × List Char) :=
  value? (2 * cs.length + 2) cs

/-- The value of a character list that holds exactly one. -/
def ofChars? (cs : List Char) : Option Json :=
  match first? cs with
  | some (j, rest) => if (skipGaps rest).isEmpty then some j else none
  | none => none

end Parser

/-- **The value of a JSON text**, with what can only be skipped in it. -/
def parse? (text : String) : Option Json :=
  Parser.ofChars? text.toList

/-- The deepest nesting of a text of which all is read. -/
def maxDepth : Nat := 127

/-- Whether all of a value can be read. -/
def isRead (j : Json) : Bool :=
  j.depth ≤ maxDepth && j.isReadable

/-- **The value of a JSON text** of which all can be read. -/
def read? (text : String) : Option Json :=
  (parse? text).filter isRead

/-- **The value at the start of a text**, if all of it can be read; what follows does not count. -/
def readFirst? (text : String) : Option Json :=
  ((Parser.first? text.toList).map (·.1)).filter isRead

end NetUnits.Json
