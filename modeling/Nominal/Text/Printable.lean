import Nominal.Text.Hex
import Nominal.Text.PrintableData

/-!
# Printable characters

A character can be printed if it is a letter, a mark, a number, punctuation, a symbol, or the ASCII
space.  Other blanks, control characters, and characters that only format text cannot.
-/

namespace Nominal.Text

/-- One field of the printable ranges. -/
def printableRange? (field : List Char) : Option (Nat × Nat) :=
  match fieldsBetween '-' field with
  | [first] => do
    let code ← hexNumber? first
    return (code, code)
  | [first, last] => do return (← hexNumber? first, ← hexNumber? last)
  | _ => none

/-- The ranges of printable characters beyond ASCII. -/
def printableRanges : List (Nat × Nat) :=
  (rowFields printableRows).filterMap printableRange?

/-- Whether a character can be printed. -/
def isPrintable (c : Char) : Bool :=
  if c.toNat < 0x80 then 0x20 ≤ c.toNat && c.toNat < 0x7F
  else printableRanges.any fun range => range.1 ≤ c.toNat && c.toNat ≤ range.2

end Nominal.Text
