import NetUnits.Number.Decimal
import NetUnits.Text.Numeral

/-!
# Numbers in JSON

A number with a fraction or an exponent, or beyond 64 bits, is read in double precision. It is
computed from its digits in a few steps, each of them rounded, so that what is read can differ in
the last bit from the number nearest to what is written.

* **`Json.sizeOf?`** — the number of the parts of a text.
* **`Json.sizeText`** — the text of a number, with the fewest digits that are nearest to it.
-/

namespace NetUnits.Json

/-! ## Reading -/

/-- Digits taken into a significand for as long as it fits into 64 bits, and the digits that are
left. -/
def absorb (significand : Nat) : List Char → Nat × List Char
  | [] => (significand, [])
  | c :: cs =>
    let next := significand * 10 + (c.toNat - '0'.toNat)
    if next ≤ Text.maxNat64 then absorb next cs else (significand, c :: cs)

/-- The greatest exponent whose power of ten is a number of double precision. -/
def maxPower : Nat := 308

/-- The number nearest to a power of ten. -/
def tenTo? (n : Nat) : Option Double :=
  Decimal.toDouble? ⟨1, n⟩

/-- A number divided by so many times the greatest power of ten, and then by a last one. What has
become zero stays so. -/
def divided? (x : Double) (last : Nat) : Nat → Option Double
  | 0 => (tenTo? last).bind x.div?
  | times + 1 =>
    if x = .zero then some x
    else ((tenTo? maxPower).bind x.div?).bind fun y => divided? y last times

/-- A number times a power of ten, unless that is too great. -/
def scaled? (x : Double) (exponent : Int) : Option Double :=
  if 0 ≤ exponent then
    if exponent ≤ maxPower then (tenTo? exponent.toNat).bind x.mul?
    else if x = .zero then some x
    else none
  else
    let power := (-exponent).toNat
    let times := (power - 1) / maxPower
    divided? x (power - times * maxPower) times

/-- **The number of the digits before and after a point and an exponent**, unless it is too great.
The digits before the point that do not fit into 64 bits count as zeros; those after it are
dropped from the first that does not fit. -/
def sizeOf? (whole fraction : List Char) (exponent : Int) : Option Double :=
  let (significand, zeros) := absorb 0 whole
  let (significand, dropped) := absorb significand fraction
  (Double.ofNat? significand).bind fun x =>
    scaled? x (exponent + zeros.length - ((fraction.length : Int) - dropped.length))

/-! ## Writing -/

/-- **The text of a number**: with the fewest digits that are nearest to it, without an exponent
from a hundred-thousandth up to ten to the 16. -/
def sizeText (x : Double) : List Char :=
  let d := Decimal.shortest x
  let ds := Decimal.digitsOf d.digits
  let point := d.scale
  if 0 ≤ d.exponent ∧ point ≤ 16 then ds ++ List.replicate d.exponent.toNat '0' ++ ['.', '0']
  else if 0 < point ∧ point ≤ 16 then ds.take point.toNat ++ '.' :: ds.drop point.toNat
  else if -5 < point ∧ point ≤ 0 then '0' :: '.' :: List.replicate (-point).toNat '0' ++ ds
  else
    ds.take 1 ++ (if ds.length = 1 then [] else '.' :: ds.drop 1) ++
      'e' :: (toString (point - 1)).toList

end NetUnits.Json
