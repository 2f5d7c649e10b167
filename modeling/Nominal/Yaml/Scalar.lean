import Nominal.Decimal.Fraction

/-!
# Scalars

What a scalar of a document stands for.  A scalar without quotes may be a word for nothing, a truth
value or a number; every other scalar is text.
-/

namespace Nominal.Yaml

open Decimal (Fraction)

/-- The value of a scalar. -/
inductive Scalar where
  | null
  | bool (value : Bool)
  | whole (value : Int)
  | fraction (value : Fraction)
  | text (content : String)
  deriving Repr, DecidableEq, Inhabited

/-- The words that stand for something other than themselves. -/
def wordValues : List (String × Scalar) :=
  [("null", .null), ("Null", .null), ("NULL", .null), ("~", .null),
    ("true", .bool true), ("True", .bool true), ("TRUE", .bool true),
    ("false", .bool false), ("False", .bool false), ("FALSE", .bool false),
    (".inf", .fraction (.infinity false)), (".Inf", .fraction (.infinity false)),
    (".INF", .fraction (.infinity false)), ("-.inf", .fraction (.infinity true)),
    ("-.Inf", .fraction (.infinity true)), ("-.INF", .fraction (.infinity true)),
    (".nan", .fraction .notANumber), (".NaN", .fraction .notANumber),
    (".NAN", .fraction .notANumber)]

/-! ## Whole numbers -/

/-- The worth of a digit in any base up to 36. -/
def digitWorth? (digit : Char) : Option Nat :=
  if '0' ≤ digit ∧ digit ≤ '9' then some (digit.toNat - 48)
  else if 'a' ≤ digit ∧ digit ≤ 'z' then some (digit.toNat - 87)
  else if 'A' ≤ digit ∧ digit ≤ 'Z' then some (digit.toNat - 55)
  else none

/-- The value of digits in a base, if all of them are digits and there are some. -/
def digitsValue? (base : Nat) (digits : List Char) : Option Nat :=
  if digits.isEmpty then none
  else
    digits.foldlM
      (fun value digit => do
        let worth ← digitWorth? digit
        if worth < base then some (base * value + worth) else none)
      0

/-- The numbers that a whole number may be: 64 binary digits, one of them for the sign of a negative
number. -/
def wholeInRange? (isNegative : Bool) (magnitude : Nat) : Option Int :=
  if isNegative then if magnitude ≤ Nat.pow 2 63 then some (-magnitude) else none
  else if magnitude < Nat.pow 2 64 then some magnitude else none

/-- Takes one leading character off a text, if it is there. -/
def dropLeading (character : Char) (characters : List Char) : List Char :=
  if characters.head? = some character then characters.tail else characters

/-- Reads a number.  Underscores separate digits.  A number with a point is a fraction; other
numbers are decimal, or in the base that a leading zero and a letter say, and octal after a mere
zero. -/
def number? (characters : List Char) : Option Scalar :=
  let points := characters.count '.'
  let isNegative := characters.head? == some '-'
  let digits := (dropLeading '-' (dropLeading '+' characters)).filter (· != '_')
  let whole := fun (base : Nat) (digits : List Char) => do
    let magnitude ← digitsValue? base digits
    return Scalar.whole (← wholeInRange? isNegative magnitude)
  if characters.head? = some '_' ∨ points > 1 then none
  else
    match digits with
    | '0' :: 'x' :: rest => whole 16 rest
    | '0' :: 'o' :: rest => whole 8 rest
    | '0' :: 'b' :: rest => whole 2 rest
    | _ =>
      if points = 1 then
        (Fraction.read? (if isNegative then '-' :: digits else digits)).map .fraction
      else if digits.head? = some '0' ∧ digits.length > 1 then whole 8 digits
      else whole 10 digits

namespace Scalar

/-- The value of a scalar without quotes. -/
def ofPlain (content : String) : Scalar :=
  match wordValues.lookup content with
  | some value => value
  | none => (number? content.toList).getD (.text content)

/-- The text of a scalar where text is expected: nothing is the empty text, truth values and numbers
are written in their usual form. -/
def render : Scalar → String
  | null => ""
  | bool value => if value then "true" else "false"
  | whole value => toString value
  | fraction value => value.render
  | text content => content

end Scalar

end Nominal.Yaml
