/-!
# Binary fractions of double precision

A positive binary fraction is a whole number of at most 53 binary digits times a power of two.
`nearest?` rounds a quotient of whole numbers to such a fraction: the closest one is taken, and of
two equally close ones that with the even significand.  All arithmetic is exact.
-/

namespace Nominal.Decimal

/-- The number `significand` times two to the power of `exponent`. -/
structure Binary64 where
  significand : Nat
  exponent : Int
  deriving Repr, DecidableEq, Inhabited

namespace Binary64

/-- The least exponent. -/
def leastExponent : Int := -1074

/-- The greatest exponent. -/
def greatestExponent : Int := 971

/-- Significands are smaller than this. -/
def significandLimit : Nat := Nat.pow 2 53

/-- A quotient multiplied by a power of a base, as numerator and denominator. -/
def scale (base : Nat) (power : Int) (numerator denominator : Nat) : Nat × Nat :=
  if power < 0 then (numerator, denominator * Nat.pow base power.natAbs)
  else (numerator * Nat.pow base power.natAbs, denominator)

/-- The whole number closest to a quotient; a half goes to the even neighbour. -/
def roundQuotient (numerator denominator : Nat) : Nat :=
  let quotient := numerator / denominator
  let twice := 2 * (numerator % denominator)
  if twice < denominator then quotient
  else if twice = denominator then quotient + quotient % 2
  else quotient + 1

/-- The exponent at which a positive quotient has a significand of 53 digits, or the least
exponent. -/
def exponentFor (numerator denominator : Nat) : Int :=
  let guess := max leastExponent ((numerator.log2 : Int) - denominator.log2 - 53)
  let scaled := scale 2 (-guess) numerator denominator
  if scaled.1 / scaled.2 < significandLimit then guess else guess + 1

/-- The binary fraction closest to a quotient, unless the quotient is too large. -/
def nearest? (numerator denominator : Nat) : Option Binary64 :=
  if numerator = 0 then some ⟨0, leastExponent⟩
  else
    let exponent := exponentFor numerator denominator
    let scaled := scale 2 (-exponent) numerator denominator
    let significand := roundQuotient scaled.1 scaled.2
    let rounded : Binary64 :=
      if significand < significandLimit then ⟨significand, exponent⟩
      else ⟨significand / 2, exponent + 1⟩
    if rounded.exponent ≤ greatestExponent then some rounded else none

/-- The value as a quotient. -/
def quotient (value : Binary64) : Nat × Nat :=
  scale 2 value.exponent value.significand 1

/-- Twice the distance to the neighbour below, in halves of a unit of the significand: the neighbour
is closer below a power of two. -/
def quartersBelow (value : Binary64) : Nat :=
  if value.significand * 2 = significandLimit ∧ value.exponent ≠ leastExponent then 1 else 2

/-- Whether a quotient is rounded to this value.  The ends of the interval belong to it if the
significand is even. -/
def isNearestTo (value : Binary64) (numerator denominator : Nat) : Bool :=
  let scaled := scale 2 (-value.exponent) (4 * numerator) denominator
  let low := (4 * value.significand - value.quartersBelow) * scaled.2
  let high := (4 * value.significand + 2) * scaled.2
  if value.significand % 2 = 0 then low ≤ scaled.1 && scaled.1 ≤ high
  else low < scaled.1 && scaled.1 < high

end Binary64

end Nominal.Decimal
