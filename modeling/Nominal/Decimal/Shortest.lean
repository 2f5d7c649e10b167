import Nominal.Decimal.Binary64

/-!
# The shortest decimal of a binary fraction

Of the decimals that are rounded to a binary fraction, `shortest` takes one with the fewest digits,
and of those the closest.  `Style` says how its digits are laid out.
-/

namespace Nominal.Decimal

/-- The number `0.d₁d₂…` times ten to the power of `point`. -/
structure Digits where
  digits : List Char
  point : Int
  deriving Repr, DecidableEq

/-- The number of decimal digits before the point of a positive quotient, starting from a guess that
is at most the answer; negative if zeros follow the point. -/
def pointFrom (numerator denominator : Nat) : Nat → Int → Int
  | 0, point => point
  | steps + 1, point =>
    let scaled := Binary64.scale 10 (-point) numerator denominator
    if scaled.1 < scaled.2 then point else pointFrom numerator denominator steps (point + 1)

/-- The number of decimal digits before the point of a positive quotient. -/
def pointOf (numerator denominator : Nat) : Int :=
  let bits := (numerator.log2 : Int) - denominator.log2
  pointFrom numerator denominator 4 (Int.fdiv ((bits - 1) * 30103) 100000)

/-- Drops the zeros at the end. -/
def trimZeros (digits : List Char) : List Char :=
  (digits.reverse.dropWhile (· == '0')).reverse

/-- The decimal of `count` digits that is closest to a value, if it is rounded to it. -/
def withDigits? (value : Binary64) (point : Int) (count : Nat) : Option Digits :=
  let (numerator, denominator) := value.quotient
  let scaled := Binary64.scale 10 (count - point) numerator denominator
  let isCovered := fun (candidate : Nat) =>
    let back := Binary64.scale 10 (point - count) candidate 1
    value.isNearestTo back.1 back.2
  let laidOut := fun (candidate : Nat) =>
    let text := Nat.toDigits 10 candidate
    { digits := trimZeros text, point := point + text.length - count : Digits }
  let below := scaled.1 / scaled.2
  let closest := Binary64.roundQuotient scaled.1 scaled.2
  if isCovered closest then some (laidOut closest)
  else if isCovered below then some (laidOut below)
  else if isCovered (below + 1) then some (laidOut (below + 1))
  else none

/-- The shortest decimal that is rounded to a positive value.  Seventeen digits always suffice. -/
def shortest (value : Binary64) : Digits :=
  let (numerator, denominator) := value.quotient
  let point := pointOf numerator denominator
  ((List.range 17).findSome? fun count => withDigits? value point (count + 1)).getD ⟨['0'], 1⟩

/-- How the digits of a number are laid out. -/
structure Style where
  /-- Numbers with more zeros than this after the point have an exponent. -/
  leadingZeros : Nat
  /-- Numbers with more digits than this before the point have an exponent. -/
  wholeDigits : Nat
  /-- The least number of digits of an exponent. -/
  exponentDigits : Nat

/-- Lays out digits. -/
def Style.render (style : Style) (number : Digits) : List Char :=
  let digits := number.digits
  let point := number.point
  if point < -(style.leadingZeros : Int) ∨ point > style.wholeDigits then
    let fraction := if digits.length ≤ 1 then [] else '.' :: digits.drop 1
    let power := Nat.toDigits 10 (point - 1).natAbs
    digits.take 1 ++ fraction ++ ['e', if point < 1 then '-' else '+']
      ++ List.replicate (style.exponentDigits - power.length) '0' ++ power
  else if point ≤ 0 then '0' :: '.' :: List.replicate point.natAbs '0' ++ digits
  else if digits.length ≤ point.natAbs then
    digits ++ List.replicate (point.natAbs - digits.length) '0'
  else digits.take point.natAbs ++ '.' :: digits.drop point.natAbs

end Nominal.Decimal
