/-!
# Code points

The character of a number.  Not every number is a character: halves of surrogate pairs and numbers
out of range are shown as the replacement character.
-/

namespace Nominal.Text

/-- The character that stands for what is not a character. -/
def replacement : Char := Char.ofNat 0xFFFD

/-- The character with a code point. -/
def characterOf (code : Int) : Char :=
  if 0 ≤ code ∧ code.toNat.isValidChar then Char.ofNat code.toNat else replacement

end Nominal.Text
