import Nominal.Decimal.Shortest

/-!
# Fractions and their text

A fraction of double precision with a sign, an infinity, or no number at all.  `Fraction.read?`
takes a decimal with an optional exponent to the closest fraction; `Fraction.render` writes the
shortest decimal that is read back as the same fraction.
-/

namespace Nominal.Decimal

/-- A signed fraction of double precision. -/
inductive Fraction where
  | finite (isNegative : Bool) (magnitude : Binary64)
  | infinity (isNegative : Bool)
  | notANumber
  deriving Repr, DecidableEq

/-- A fraction is written with an exponent if more than three zeros would follow its point, or more
than six digits would stand before it.  An exponent has at least two digits. -/
def fractionStyle : Style where
  leadingZeros := 3
  wholeDigits := 6
  exponentDigits := 2

/-- The sign of a number, where a plus is left out. -/
def signText (isNegative : Bool) : List Char :=
  if isNegative then ['-'] else []

/-- The text of a fraction. -/
def Fraction.render : Fraction → String
  | finite isNegative magnitude =>
    String.ofList (signText isNegative
      ++ if magnitude.significand = 0 then ['0'] else fractionStyle.render (shortest magnitude))
  | infinity isNegative => if isNegative then "-Inf" else "+Inf"
  | notANumber => "NaN"

/-- Takes a sign off a text; without a sign the number is positive. -/
def takeSign : List Char → Bool × List Char
  | '-' :: rest => (true, rest)
  | '+' :: rest => (false, rest)
  | rest => (false, rest)

/-- The value of decimal digits. -/
def digitsValue (digits : List Char) : Nat :=
  digits.foldl (fun value digit => 10 * value + (digit.toNat - 48)) 0

/-- The exponent after a decimal; zero if there is none. -/
def readExponent? : List Char → Option Int
  | [] => some 0
  | mark :: rest =>
    if mark = 'e' ∨ mark = 'E' then
      let (isNegative, digits) := takeSign rest
      if digits.isEmpty || !digits.all Char.isDigit then none
      else some (if isNegative then -digitsValue digits else digitsValue digits)
    else none

/-- The fraction closest to `0.d₁d₂…` times ten to the power of `point`, where the first digit is
not zero.  Beyond the given powers all decimals are too large or are rounded to zero. -/
def closest? (digits : List Char) (point : Int) : Option Binary64 :=
  if digits.isEmpty ∨ point < -400 then some ⟨0, Binary64.leastExponent⟩
  else if point > 400 then none
  else
    let scaled := Binary64.scale 10 (point - digits.length) (digitsValue digits) 1
    Binary64.nearest? scaled.1 scaled.2

/-- Reads a decimal: an optional sign, digits with a point among them, and an optional exponent.  A
decimal that is too large is refused. -/
def Fraction.read? (characters : List Char) : Option Fraction := do
  let (isNegative, unsigned) := takeSign characters
  let whole := unsigned.takeWhile Char.isDigit
  let after := unsigned.dropWhile Char.isDigit
  if after.head? ≠ some '.' then none
  let fraction := after.tail.takeWhile Char.isDigit
  let exponent ← readExponent? (after.tail.dropWhile Char.isDigit)
  let digits := whole ++ fraction
  if digits.isEmpty then none
  let significant := digits.dropWhile (· == '0')
  let zeros := digits.length - significant.length
  let magnitude ← closest? significant (whole.length - zeros + exponent)
  return .finite isNegative magnitude

end Nominal.Decimal
