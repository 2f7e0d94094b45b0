import NetUnits.Number.Double

/-!
# Decimals

* **`Decimal`** — digits with a power of ten.
* **`Decimal.toDouble?`** — the nearest number of double precision.
* **`Decimal.shortest`** — the decimal with the fewest digits that is nearest to a number.
-/

namespace NetUnits

/-- **A decimal** that is not negative: the digits times ten to the exponent. -/
structure Decimal where
  /-- The digits, as an integer. -/
  digits : Nat
  /-- The exponent of ten. -/
  exponent : Int
deriving DecidableEq, Inhabited

namespace Decimal

/-- The digits of an integer, from the first on. -/
def digitsOf (n : Nat) : List Char :=
  Nat.toDigits 10 n

/-- The exponent of the least power of ten that is known to be above a decimal. -/
def scale (d : Decimal) : Int :=
  (digitsOf d.digits).length + d.exponent

/-- **The number nearest to a decimal**, unless that is too great. -/
def toDouble? (d : Decimal) : Option Double :=
  -- powers of ten far out of range need not be computed
  if d.digits = 0 || d.scale < -330 then some Double.zero
  else if 310 < d.scale then none
  else Double.ofRatio? (d.digits * Nat.pow 10 d.exponent.toNat) (Nat.pow 10 (-d.exponent).toNat)

/-! ## Fewest digits -/

/-- The exponent of the least power of ten above a number other than zero. -/
def scaleOf (x : Double) : Int :=
  if x.denominator ≤ x.numerator then (digitsOf (x.numerator / x.denominator)).length
  else 1 - (digitsOf ((x.denominator - 1) / x.numerator)).length

/-- The decimals of a number of digits next to a number on either side, the nearer first. -/
def neighbours (x : Double) (count : Nat) : List Decimal :=
  let e := scaleOf x - count
  let numerator := x.numerator * Nat.pow 10 (-e).toNat
  let denominator := x.denominator * Nat.pow 10 e.toNat
  let low := numerator / denominator
  let below : Decimal := ⟨low, e⟩
  let above : Decimal := if low + 1 = Nat.pow 10 count then ⟨1, scaleOf x⟩ else ⟨low + 1, e⟩
  if 2 * (numerator % denominator) ≤ denominator then [below, above] else [above, below]

/-- All digits of a number. -/
def exact (x : Double) : Decimal :=
  if 0 ≤ x.exponent then ⟨x.numerator, 0⟩
  else ⟨x.significand * Nat.pow 5 (-x.exponent).toNat, x.exponent⟩

/-- **The decimal with the fewest digits** that is nearest to a number. Seventeen are enough. -/
def shortest (x : Double) : Decimal :=
  if x = .zero then ⟨0, 0⟩
  else
    ((List.range 17).findSome? fun n =>
      (neighbours x (n + 1)).find? fun d => d.toDouble? == some x).getD (exact x)

@[simp] theorem toDouble?_zero (exponent : Int) : toDouble? ⟨0, exponent⟩ = some .zero := rfl

end Decimal

end NetUnits
