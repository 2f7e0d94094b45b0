/-!
# Double precision

A number of double precision is an integer of at most 53 bits times a power of two. Arithmetic on
such numbers is exact and then rounded: to the nearest number, and from the middle between two of
them to the one with the even integer.

* **`Double`** — the numbers that are not negative.
* **`Double.ofRatio?`** — the number nearest to a fraction, if there is a finite one.
* **`Double.mul?`**, **`Double.div?`** — product and quotient.
-/

namespace NetUnits

/-- **A finite number of double precision** that is not negative: the significand times two to the
exponent. Equal numbers are written alike. -/
structure Double where
  /-- The integer. -/
  significand : Nat
  /-- The exponent of two. -/
  exponent : Int
deriving DecidableEq, Inhabited

namespace Double

/-- The number zero. -/
def zero : Double := ⟨0, 0⟩

/-- The least exponent, and the exponent of the greatest numbers. -/
def minExponent : Int := -1074

@[inherit_doc minExponent]
def maxExponent : Int := 971

/-! ## Rounding -/

/-- The integer nearest to a fraction; of two that are equally near the even one. -/
def nearestInt (numerator denominator : Nat) : Nat :=
  let low := numerator / denominator
  let twice := 2 * (numerator % denominator)
  if twice < denominator || (twice == denominator && low % 2 == 0) then low else low + 1

/-- The greatest exponent of a power of two that is not above a fraction. -/
def scaleOf (numerator denominator : Nat) : Int :=
  let e : Int := (numerator.log2 : Int) - denominator.log2
  if numerator * Nat.pow 2 (-e).toNat < denominator * Nat.pow 2 e.toNat then e - 1 else e

/-- The number with a significand of at most 53 bits or of exactly two to the 53. -/
def normal? (significand : Nat) (exponent : Int) : Option Double :=
  if significand = 0 then some zero
  else
    let x : Double :=
      if significand = Nat.pow 2 53 then ⟨Nat.pow 2 52, exponent + 1⟩ else ⟨significand, exponent⟩
    if maxExponent < x.exponent then none else some x

/-- **The number nearest to a fraction**, unless that is too great. -/
def ofRatio? (numerator denominator : Nat) : Option Double :=
  if numerator = 0 then some zero
  else
    let e := scaleOf numerator denominator - 52
    let e := if e < minExponent then minExponent else e
    normal? (nearestInt (numerator * Nat.pow 2 (-e).toNat) (denominator * Nat.pow 2 e.toNat)) e

/-- The number nearest to an integer. -/
def ofNat? (n : Nat) : Option Double :=
  ofRatio? n 1

/-! ## Arithmetic -/

/-- The numerator of a number as a fraction. -/
def numerator (x : Double) : Nat :=
  x.significand * Nat.pow 2 x.exponent.toNat

/-- The denominator of a number as a fraction: a power of two. -/
def denominator (x : Double) : Nat :=
  Nat.pow 2 (-x.exponent).toNat

/-- **The product**, unless that is too great. -/
def mul? (x y : Double) : Option Double :=
  ofRatio? (x.numerator * y.numerator) (x.denominator * y.denominator)

/-- **The quotient** by a number other than zero, unless that is too great. -/
def div? (x y : Double) : Option Double :=
  ofRatio? (x.numerator * y.denominator) (x.denominator * y.numerator)

@[simp] theorem ofRatio?_zero (denominator : Nat) : ofRatio? 0 denominator = some zero := rfl

end Double

end NetUnits
