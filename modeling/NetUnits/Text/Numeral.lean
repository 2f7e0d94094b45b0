import NetUnits.Text.Class

/-!
# Decimal numerals

Numbers in names, options and values are read as decimal ASCII digits with an optional sign, and
only within a range.

* **`digits?`** — the value of a non-empty run of digits.
* **`natUpTo?`** — an unsigned number up to a limit; a plus sign is allowed.
* **`int64?`** — a signed number of 64 bits; either sign is allowed.
* **`isDecimal`** — whether a text is a number that may have a fraction and an exponent.
-/

namespace NetUnits.Text

/-- The value of a hexadecimal digit, of either case. -/
def hexDigit? (c : Char) : Option Nat :=
  if c.isDigit then some (c.toNat - '0'.toNat)
  else if 'a' ≤ c && c ≤ 'f' then some (c.toNat - 'a'.toNat + 10)
  else if 'A' ≤ c && c ≤ 'F' then some (c.toNat - 'A'.toNat + 10)
  else none

/-- The value of the digits `cs` after the value `acc` of those before them. -/
def digitsFrom (acc : Nat) : List Char → Option Nat
  | [] => some acc
  | c :: cs => if c.isDigit then digitsFrom (acc * 10 + (c.toNat - '0'.toNat)) cs else none

/-- **The value of a digit run**: at least one character, and ASCII digits only. -/
def digits? (cs : List Char) : Option Nat :=
  if cs.isEmpty then none else digitsFrom 0 cs

/-- **An unsigned numeral** of value at most `limit`, with an optional plus sign. -/
def natUpTo? (limit : Nat) (cs : List Char) : Option Nat :=
  let value := match cs with
    | '+' :: rest => digits? rest
    | rest => digits? rest
  value.filter (· ≤ limit)

/-- The largest number of 64 bits with a sign. -/
def maxInt64 : Int := 9223372036854775807

/-- The smallest number of 64 bits with a sign. -/
def minInt64 : Int := -9223372036854775808

/-- Whether a number fits into 64 bits with a sign. -/
def fitsInt64 (i : Int) : Bool :=
  minInt64 ≤ i && i ≤ maxInt64

/-- The value of a numeral with an optional sign. -/
def signed? : List Char → Option Int
  | '+' :: rest => (digits? rest).map Int.ofNat
  | '-' :: rest => (digits? rest).map fun n => -Int.ofNat n
  | rest => (digits? rest).map Int.ofNat

/-- **A signed numeral** of 64 bits, with an optional sign. -/
def int64? (cs : List Char) : Option Int64 :=
  ((signed? cs).filter fitsInt64).map Int64.ofInt

/-- The text after a sign, if it begins with one. -/
def afterSign : List Char → List Char
  | '+' :: cs => cs
  | '-' :: cs => cs
  | cs => cs

/-- Whether a text is empty or an exponent of ten. -/
def isExponent : List Char → Bool
  | [] => true
  | c :: cs => (c == 'e' || c == 'E') && (digits? (afterSign cs)).isSome

/-- **Whether a text is a decimal number**, or a word for what is not finite or no number. The point
needs a digit on one side only. -/
def isDecimal (cs : List Char) : Bool :=
  let cs := afterSign cs
  let whole := cs.takeWhile Char.isDigit
  let (fraction, rest) := match cs.drop whole.length with
    | '.' :: rest => (rest.takeWhile Char.isDigit, rest.dropWhile Char.isDigit)
    | rest => ([], rest)
  ["inf", "infinity", "nan"].any (fun word => equalFold word.toList cs) ||
    (!(whole ++ fraction).isEmpty && isExponent rest)

/-- The largest number of 8, 16, 32 and 64 bits without a sign. -/
def maxNat8 : Nat := 255

@[inherit_doc maxNat8]
def maxNat16 : Nat := 65535

@[inherit_doc maxNat8]
def maxNat32 : Nat := 4294967295

@[inherit_doc maxNat8]
def maxNat64 : Nat := 18446744073709551615

/-- The text of a signed number. -/
def int64Text (i : Int64) : String :=
  toString i.toInt

end NetUnits.Text
