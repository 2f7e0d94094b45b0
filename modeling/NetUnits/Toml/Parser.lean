import NetUnits.Json.Parser
import NetUnits.Number.Decimal
import NetUnits.Text.Numeral
import NetUnits.Toml.Basic

/-!
# Reading TOML

The grammar is that of TOML 1.0. Arrays and tables in braces are nested at most 79 deep, and a key
has at most 79 parts.

* **`Toml.Scalar`** — numbers, truth values and times, by their whole text.
* **`Toml.parse?`** — the document of a text.
-/

namespace NetUnits.Toml

/-! ## Blanks and comments -/

/-- The text after the blanks at its start. -/
def skipBlanks (cs : List Char) : List Char :=
  cs.dropWhile fun c => c == ' ' || c == '\t'

/-- Whether a character may stand in a comment or a literal string. -/
def isPlain (c : Char) : Bool :=
  c == '\t' || (0x20 ≤ c.toNat && c.toNat != 0x7F)

/-- The text after a line end, if it begins with one. -/
def lineEnd? : List Char → Option (List Char)
  | '\n' :: cs => some cs
  | '\r' :: '\n' :: cs => some cs
  | _ => none

/-- The text after the rest of a line: blanks, a comment, and the line end or the end of text. -/
def lineRest? (cs : List Char) : Option (List Char) :=
  match skipBlanks cs with
  | [] => some []
  | '#' :: cs =>
    match cs.dropWhile isPlain with
    | [] => some []
    | cs => lineEnd? cs
  | cs => lineEnd? cs

/-- The text after blanks, comments and line ends, as they may stand in an array. Each step of the
fuel is a line. -/
def skipLines : Nat → List Char → List Char
  | 0, cs => cs
  | fuel + 1, cs =>
    match skipBlanks cs with
    | '#' :: cs =>
      match lineEnd? (cs.dropWhile isPlain) with
      | some rest => skipLines fuel rest
      | none => '#' :: cs
    | cs =>
      match lineEnd? cs with
      | some rest => skipLines fuel rest
      | none => cs

/-! ## Strings -/

/-- The value of hexadecimal digits, as many as `count`, and the text after them. -/
def hexRun? : Nat → Nat → List Char → Option (Nat × List Char)
  | 0, n, cs => some (n, cs)
  | _ + 1, _, [] => none
  | count + 1, n, c :: cs =>
    (Text.hexDigit? c).bind fun d => hexRun? count (n * 16 + d) cs

/-- The character of an escape by its code point. -/
def codePoint? (count : Nat) (cs : List Char) : Option (Char × List Char) :=
  (hexRun? count 0 cs).bind fun (n, cs) =>
    if n.isValidChar then some (Char.ofNat n, cs) else none

/-- The character of an escape, from what follows the backslash. -/
def escape? : List Char → Option (Char × List Char)
  | '"' :: cs => some ('"', cs)
  | '\\' :: cs => some ('\\', cs)
  | 'b' :: cs => some ('\x08', cs)
  | 't' :: cs => some ('\t', cs)
  | 'n' :: cs => some ('\n', cs)
  | 'f' :: cs => some ('\x0c', cs)
  | 'r' :: cs => some ('\r', cs)
  | 'u' :: cs => codePoint? 4 cs
  | 'U' :: cs => codePoint? 8 cs
  | _ => none

/-- The characters of a string on one line up to its closing quote, and the text after it. -/
def basicChars? : Nat → List Char → Option (List Char × List Char)
  | 0, _ => none
  | _ + 1, [] => none
  | fuel + 1, c :: cs =>
    if c = '"' then some ([], cs)
    else if c = '\\' then do
      let (d, cs) ← escape? cs
      let (ds, cs) ← basicChars? fuel cs
      return (d :: ds, cs)
    else if isPlain c then do
      let (ds, cs) ← basicChars? fuel cs
      return (c :: ds, cs)
    else none

/-- The characters of a literal string on one line, and the text after it. -/
def literalChars? : List Char → Option (List Char × List Char)
  | [] => none
  | c :: cs =>
    if c = '\'' then some ([], cs)
    else if isPlain c then (literalChars? cs).map fun (ds, cs) => (c :: ds, cs)
    else none

/-- The text after the blanks and line ends that a backslash at the end of a line hides. -/
def afterFolding (cs : List Char) : List Char :=
  match cs with
  | ' ' :: rest => afterFolding rest
  | '\t' :: rest => afterFolding rest
  | '\n' :: rest => afterFolding rest
  | '\r' :: '\n' :: rest => afterFolding rest
  | cs => cs

/-- The end of a string in triple quotes `q`: up to two quotes before the closing ones belong to
the string. -/
def tripleEnd? (q : Char) (cs : List Char) : Option (List Char × List Char) :=
  let quotes := (cs.takeWhile (· == q)).length
  if quotes < 3 then none
  else
    -- of up to five quotes the last three close the string
    let inner := min (quotes - 3) 2
    some (List.replicate inner q, cs.drop (inner + 3))

/-- The characters of a string in triple quotes up to the closing ones, and the text after them. -/
def tripleBasic? : Nat → List Char → Option (List Char × List Char)
  | 0, _ => none
  | fuel + 1, cs =>
    match tripleEnd? '"' cs with
    | some found => some found
    | none =>
      match cs with
      | [] => none
      | '\\' :: cs =>
        match lineEnd? (skipBlanks cs) with
        | some rest => tripleBasic? fuel (afterFolding rest)
        | none => do
          let (d, cs) ← escape? cs
          let (ds, cs) ← tripleBasic? fuel cs
          return (d :: ds, cs)
      | c :: rest =>
        match lineEnd? (c :: rest) with
        | some rest => (tripleBasic? fuel rest).map fun (ds, cs) => ('\n' :: ds, cs)
        | none =>
          if isPlain c then (tripleBasic? fuel rest).map fun (ds, cs) => (c :: ds, cs)
          else none

/-- The characters of a literal string in triple quotes, and the text after it. -/
def tripleLiteral? : Nat → List Char → Option (List Char × List Char)
  | 0, _ => none
  | fuel + 1, cs =>
    match tripleEnd? '\'' cs with
    | some found => some found
    | none =>
      match cs with
      | [] => none
      | c :: rest =>
        match lineEnd? (c :: rest) with
        | some rest => (tripleLiteral? fuel rest).map fun (ds, cs) => ('\n' :: ds, cs)
        | none =>
          if isPlain c then (tripleLiteral? fuel rest).map fun (ds, cs) => (c :: ds, cs)
          else none

/-- The text after a line end, if there is one. -/
def skipLineEnd (cs : List Char) : List Char :=
  (lineEnd? cs).getD cs

/-- The string on one line at the start of a text. -/
def lineString? : List Char → Option (String × List Char)
  | '"' :: cs => (basicChars? (cs.length + 1) cs).map fun (ds, cs) => (String.ofList ds, cs)
  | '\'' :: cs => (literalChars? cs).map fun (ds, cs) => (String.ofList ds, cs)
  | _ => none

/-- The string at the start of a text. A line end right after triple quotes does not count. -/
def string? : List Char → Option (String × List Char)
  | '"' :: '"' :: '"' :: cs =>
    (tripleBasic? (cs.length + 1) (skipLineEnd cs)).map fun (ds, cs) => (String.ofList ds, cs)
  | '\'' :: '\'' :: '\'' :: cs =>
    (tripleLiteral? (cs.length + 1) (skipLineEnd cs)).map fun (ds, cs) => (String.ofList ds, cs)
  | cs => lineString? cs

/-! ## Keys -/

/-- Whether a character may stand in a key without quotes. -/
def isBare (c : Char) : Bool :=
  c.isAlphanum || c == '_' || c == '-'

/-- One part of a key at the start of a text. -/
def keyPart? (cs : List Char) : Option (String × List Char) :=
  match lineString? cs with
  | some found => some found
  | none =>
    let bare := cs.takeWhile isBare
    if bare.isEmpty then none else some (String.ofList bare, cs.dropWhile isBare)

/-- The parts of a key, with dots between them and blanks around them, and the text after. -/
def keyParts? : Nat → List Char → Option (List String × List Char)
  | 0, _ => none
  | fuel + 1, cs => do
    let (part, cs) ← keyPart? (skipBlanks cs)
    match skipBlanks cs with
    | '.' :: cs => do
      let (parts, cs) ← keyParts? fuel cs
      return (part :: parts, cs)
    | cs => return ([part], cs)

/-- The deepest nesting, and the greatest number of parts of a key. -/
def maxDepth : Nat := 79

/-- The key at the start of a text. -/
def key? (cs : List Char) : Option (List String × List Char) :=
  (keyParts? (cs.length + 1) cs).filter fun found => found.1.length ≤ maxDepth

/-! ## Scalars -/

namespace Scalar

/-- The digits without the underscores between them: there are digits, and each underscore stands
between two. -/
def digitRun? (isDigit : Char → Bool) : List Char → Option (List Char)
  | [] => none
  | [c] => if isDigit c then some [c] else none
  | c :: '_' :: rest =>
    if isDigit c then (digitRun? isDigit rest).map (c :: ·) else none
  | c :: rest => if isDigit c then (digitRun? isDigit rest).map (c :: ·) else none

/-- The value of digits in a base. -/
def valueIn (base : Nat) (ds : List Char) : Nat :=
  ds.foldl (fun n c => n * base + (Text.hexDigit? c).getD 0) 0

/-- A text without its sign, and whether that is a minus. -/
def unsigned : List Char → Bool × List Char
  | '+' :: cs => (false, cs)
  | '-' :: cs => (true, cs)
  | cs => (false, cs)

/-- The digits of a decimal number without superfluous zeros. -/
def decimal? (cs : List Char) : Option (List Char) :=
  (digitRun? Char.isDigit cs).filter fun ds => ds.length = 1 || ds.head? != some '0'

/-- The integer of a text, in one of the four bases. -/
def integer? (cs : List Char) : Option Int :=
  let value : Option Int := match cs with
    | '0' :: 'x' :: ds =>
      (digitRun? (fun c => (Text.hexDigit? c).isSome) ds).map fun ds => valueIn 16 ds
    | '0' :: 'o' :: ds =>
      (digitRun? (fun c => '0' ≤ c && c ≤ '7') ds).map fun ds => valueIn 8 ds
    | '0' :: 'b' :: ds =>
      (digitRun? (fun c => c == '0' || c == '1') ds).map fun ds => valueIn 2 ds
    | cs =>
      let (negative, ds) := unsigned cs
      (decimal? ds).map fun ds =>
        if negative then -(valueIn 10 ds : Int) else (valueIn 10 ds : Int)
  value.filter Text.fitsInt64

/-- The value of an exponent: digits with or without a sign. -/
def exponent? (cs : List Char) : Option Int :=
  let (negative, ds) := unsigned cs
  (digitRun? Char.isDigit ds).map fun ds =>
    if negative then -(valueIn 10 ds : Int) else (valueIn 10 ds : Int)

/-- The decimal of a text with a fraction or an exponent, without sign. -/
def decimalFloat? (cs : List Char) : Option Decimal := do
  let isMark := fun c : Char => c == 'e' || c == 'E'
  let beforeMark := cs.takeWhile fun c => !isMark c
  let fromMark := cs.dropWhile fun c => !isMark c
  let fromPoint := beforeMark.dropWhile (· != '.')
  if fromPoint.isEmpty && fromMark.isEmpty then none
  else do
    let whole ← decimal? (beforeMark.takeWhile (· != '.'))
    let fraction ← if fromPoint.isEmpty then some [] else digitRun? Char.isDigit (fromPoint.drop 1)
    let exponent ← if fromMark.isEmpty then some 0 else exponent? (fromMark.drop 1)
    return ⟨valueIn 10 (whole ++ fraction), exponent - fraction.length⟩

/-- Whether a text is a number with a fraction or an exponent. What is too great is no number. -/
def isDecimalFloat (cs : List Char) : Bool :=
  let (negative, cs) := unsigned cs
  (decimalFloat? cs).any fun d => negative || d.toDouble?.isSome

/-- Whether a text is a float. -/
def isFloat (cs : List Char) : Bool :=
  let special := (unsigned cs).2
  special == "inf".toList || special == "nan".toList || isDecimalFloat cs

/-- The value of two digits up to a limit. -/
def twoDigits? (least greatest : Nat) : List Char → Option (Nat × List Char)
  | a :: b :: cs =>
    if a.isDigit && b.isDigit then
      let n := valueIn 10 [a, b]
      if least ≤ n && n ≤ greatest then some (n, cs) else none
    else none
  | _ => none

/-- The text after a character that must stand at its start. -/
def after? (c : Char) : List Char → Option (List Char)
  | d :: cs => if c = d then some cs else none
  | [] => none

/-- The number of days of a month. -/
def daysOf (year month : Nat) : Nat :=
  if month = 2 then
    if year % 4 = 0 && (year % 100 != 0 || year % 400 = 0) then 29 else 28
  else if month = 4 || month = 6 || month = 9 || month = 11 then 30
  else 31

/-- The text after a date at its start. -/
def date? (cs : List Char) : Option (List Char) :=
  let year := cs.take 4
  if year.length = 4 && year.all Char.isDigit then do
    let cs ← after? '-' (cs.drop 4)
    let (month, cs) ← twoDigits? 1 12 cs
    let cs ← after? '-' cs
    let (_, cs) ← twoDigits? 1 (daysOf (valueIn 10 year) month) cs
    return cs
  else none

/-- The text after a fraction of a second, if there is one. -/
def fraction? : List Char → Option (List Char)
  | '.' :: cs =>
    if (cs.takeWhile Char.isDigit).isEmpty then none else some (cs.dropWhile Char.isDigit)
  | cs => some cs

/-- The text after a time of day at its start. -/
def clock? (cs : List Char) : Option (List Char) := do
  let (_, cs) ← twoDigits? 0 23 cs
  let cs ← after? ':' cs
  let (_, cs) ← twoDigits? 0 59 cs
  let cs ← after? ':' cs
  let (_, cs) ← twoDigits? 0 60 cs
  fraction? cs

/-- The text after an offset from universal time, if there is one. -/
def offset? : List Char → Option (List Char)
  | 'Z' :: cs => some cs
  | 'z' :: cs => some cs
  | c :: cs =>
    if c = '+' || c = '-' then do
      let (_, cs) ← twoDigits? 0 23 cs
      let cs ← after? ':' cs
      let (_, cs) ← twoDigits? 0 59 cs
      return cs
    else some (c :: cs)
  | [] => some []

/-- Whether a text is a time of day. -/
def isClock (cs : List Char) : Bool :=
  clock? cs == some []

/-- Whether a text is a date. -/
def isDate (cs : List Char) : Bool :=
  date? cs == some []

/-- Whether a text is a date with a time of day and maybe an offset. -/
def isDateClock (cs : List Char) : Bool :=
  match date? cs with
  | some (mark :: cs) =>
    (mark == 'T' || mark == 't' || mark == ' ') && (clock? cs).bind offset? == some []
  | _ => false

end Scalar

/-- **The scalar of a whole text**, strings apart. -/
def scalarOf? (cs : List Char) : Option Toml :=
  if cs == "true".toList then some (boolean true)
  else if cs == "false".toList then some (boolean false)
  else if Scalar.isDate cs || Scalar.isClock cs || Scalar.isDateClock cs then some time
  else if Scalar.isFloat cs then some float
  else (Scalar.integer? cs).map integer

/-- Whether a character may stand in a scalar. -/
def isScalarChar (c : Char) : Bool :=
  c.isAlphanum || c == '_' || c == '+' || c == '-' || c == '.' || c == ':'

/-- Whether a text goes on with a time of day after one space. -/
def clockFollows : List Char → Bool
  | ' ' :: a :: b :: ':' :: _ => a.isDigit && b.isDigit
  | _ => false

/-- The scalar at the start of a text. A date may be followed by a time of day after one space. -/
def scalar? (cs : List Char) : Option (Toml × List Char) :=
  let text := cs.takeWhile isScalarChar
  let rest := cs.dropWhile isScalarChar
  if Scalar.isDate text && clockFollows rest then
    let clock := (rest.drop 1).takeWhile isScalarChar
    (scalarOf? (text ++ ' ' :: clock)).map (·, (rest.drop 1).dropWhile isScalarChar)
  else (scalarOf? text).map (·, rest)

/-! ## Values -/

mutual

/-- The value at the start of a text, inside `depth` arrays and tables, and the text after it. -/
def value? : Nat → Nat → List Char → Option (Toml × List Char)
  | 0, _, _ => none
  | fuel + 1, depth, cs =>
    match cs with
    | '[' :: cs =>
      if maxDepth ≤ depth then none
      else (items? fuel (depth + 1) cs).map fun (items, cs) => (array items, cs)
    | '\x7b' :: cs =>
      if maxDepth ≤ depth then none
      else
        match skipBlanks cs with
        | '\x7d' :: cs => some (table .sealed [], cs)
        | cs => do
          let (entries, cs) ← entries? fuel (depth + 1) cs
          let filled ← addEntries? entries (table .header [])
          match filled with
          | table _ members => return (table .sealed members, cs)
          | _ => none
    | '"' :: cs => (string? ('"' :: cs)).map fun (s, cs) => (string s, cs)
    | '\'' :: cs => (string? ('\'' :: cs)).map fun (s, cs) => (string s, cs)
    | cs => scalar? cs

/-- The items of an array up to its closing bracket, and the text after it. -/
def items? : Nat → Nat → List Char → Option (List Toml × List Char)
  | 0, _, _ => none
  | fuel + 1, depth, cs =>
    match skipLines (cs.length + 1) cs with
    | ']' :: cs => some ([], cs)
    | cs => do
      let (item, cs) ← value? fuel depth cs
      match skipLines (cs.length + 1) cs with
      | ']' :: cs => return ([item], cs)
      | ',' :: cs => do
        let (items, cs) ← items? fuel depth cs
        return (item :: items, cs)
      | _ => none

/-- The entries of a table in braces up to the closing brace, and the text after it. -/
def entries? : Nat → Nat → List Char → Option (List (List String × Toml) × List Char)
  | 0, _, _ => none
  | fuel + 1, depth, cs => do
    let (key, cs) ← key? cs
    match cs with
    | '=' :: cs => do
      let (item, cs) ← value? fuel depth (skipBlanks cs)
      match skipBlanks cs with
      | '\x7d' :: cs => return ([(key, item)], cs)
      | ',' :: cs => do
        let (entries, cs) ← entries? fuel depth cs
        return ((key, item) :: entries, cs)
      | _ => none
    | _ => none

end

/-! ## Documents -/

/-- The header at the start of a text, and the text after its line. -/
def header? (cs : List Char) : Option (Statement × List Char) :=
  match cs with
  | '[' :: '[' :: cs => do
    let (path, cs) ← key? cs
    match cs with
    | ']' :: ']' :: cs => return (.arrayHeader path, ← lineRest? cs)
    | _ => none
  | '[' :: cs => do
    let (path, cs) ← key? cs
    match cs with
    | ']' :: cs => return (.header path, ← lineRest? cs)
    | _ => none
  | _ => none

/-- The entry at the start of a text, and the text after its line. -/
def entry? (cs : List Char) : Option (Statement × List Char) := do
  let (key, cs) ← key? cs
  match cs with
  | '=' :: cs => do
    let (item, cs) ← value? (2 * cs.length + 2) 0 (skipBlanks cs)
    return (.entry key item, ← lineRest? cs)
  | _ => none

/-- The lines of a document. Each step of the fuel is a line. -/
def statements? : Nat → List Char → Option (List Statement)
  | 0, _ => none
  | fuel + 1, cs =>
    match skipBlanks cs with
    | [] => some []
    | '[' :: cs => do
      let (statement, cs) ← header? ('[' :: cs)
      return statement :: (← statements? fuel cs)
    | cs =>
      match lineRest? cs with
      | some cs => statements? fuel cs
      | none => do
        let (statement, cs) ← entry? cs
        return statement :: (← statements? fuel cs)

/-- The text without a byte order mark at its start. -/
def withoutMark : List Char → List Char
  | '\ufeff' :: cs => cs
  | cs => cs

/-- **The document of a text.** -/
def parse? (text : String) : Option Toml :=
  let cs := withoutMark text.toList
  (statements? (cs.length + 1) cs).bind ofStatements?

end NetUnits.Toml
