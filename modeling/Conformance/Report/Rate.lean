/-!
# Pass rates

The pass rate is a quotient of counts times a hundred in binary64: both counts are rounded, then the
quotient, then the product. Every such step is rounding an exact fraction to 53 significant bits, a
tie going to the even neighbour, and all values here are far from the ends of the exponent's range.

A rate is printed with one decimal, rounded from its exact binary value, a tie again to the even
digit.
-/

namespace Conformance

/-- A binary64 value that is zero or has 53 significant bits: `significand * 2 ^ exponent`. -/
structure Rate where
  significand : Nat
  exponent : Int
  deriving DecidableEq, Repr

namespace Rate

/-- `numerator / denominator` rounded to an integer, a tie to the even one. -/
def roundDiv (numerator denominator : Nat) : Nat :=
  let q := numerator / denominator
  let twice := 2 * (numerator % denominator)
  if twice < denominator then q
  else if denominator < twice then q + 1
  else q + q % 2

/-- The numerator and denominator of a value. -/
def fraction (r : Rate) : Nat × Nat :=
  if 0 ≤ r.exponent then (r.significand * Nat.pow 2 r.exponent.toNat, 1)
  else (r.significand, Nat.pow 2 (-r.exponent).toNat)

/-- The exponent for which the significand of a positive fraction has 53 bits. -/
def exponentOf (numerator denominator : Nat) : Int :=
  let guess : Int := numerator.log2 - denominator.log2 - 52
  let scaled := fraction ⟨denominator * Nat.pow 2 52, guess⟩
  if numerator * scaled.2 < scaled.1 then guess - 1 else guess

/-- A fraction rounded to 53 significant bits. -/
def round (numerator denominator : Nat) : Rate :=
  if numerator = 0 ∨ denominator = 0 then ⟨0, 0⟩
  else
    let e := exponentOf numerator denominator
    let significand :=
      if 0 ≤ e then roundDiv numerator (denominator * Nat.pow 2 e.toNat)
      else roundDiv (numerator * Nat.pow 2 (-e).toNat) denominator
    if significand = Nat.pow 2 53 then ⟨Nat.pow 2 52, e + 1⟩ else ⟨significand, e⟩

/-- The quotient of two values. -/
def div (a b : Rate) : Rate :=
  round (a.fraction.1 * b.fraction.2) (a.fraction.2 * b.fraction.1)

def percent (a : Rate) : Rate := round (a.fraction.1 * 100) a.fraction.2

/-- The percentage of `passed` in `total`, zero for a `total` of zero. -/
def ofCounts (passed total : Nat) : Rate :=
  if total = 0 then ⟨0, 0⟩ else ((round passed 1).div (round total 1)).percent

/-- The bits of the value in binary64. -/
def bits (r : Rate) : Nat :=
  if r.significand = 0 then 0
  else (r.exponent + 1075).toNat * Nat.pow 2 52 + (r.significand - Nat.pow 2 52)

/-- The value with one decimal. -/
def text (r : Rate) : String :=
  let tenths := roundDiv (r.fraction.1 * 10) r.fraction.2
  toString (tenths / 10) ++ "." ++ toString (tenths % 10)

end Rate

end Conformance
