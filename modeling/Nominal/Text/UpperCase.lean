import Nominal.Text.Hex
import Nominal.Text.UpperCaseData

/-!
# Upper case

The simple upper-case form of a text: each character is mapped to at most one other character.
It is used to compare words without regard to case.
-/

namespace Nominal.Text

/-- A range of characters that map to the characters `offset` places away. -/
structure UpperCaseRange where
  first : Nat
  last : Nat
  step : Nat
  offset : Int
  deriving Repr

/-- One row of the upper-case data. -/
def upperCaseRow? (field : List Char) : Option UpperCaseRange :=
  match fieldsBetween ':' field with
  | [range, offset] => do
    let offset ← (String.ofList offset).toInt?
    match fieldsBetween '/' range with
    | [bounds, step] =>
      match fieldsBetween '-' bounds with
      | [first, last] =>
        return ⟨← hexNumber? first, ← hexNumber? last, ← (String.ofList step).toNat?, offset⟩
      | _ => none
    | _ => none
  | _ => none

/-- All ranges with a simple upper-case mapping. -/
def upperCaseRanges : List UpperCaseRange :=
  (rowFields upperCaseRows).filterMap upperCaseRow?

/-- Whether a range maps the given character. -/
def UpperCaseRange.covers (range : UpperCaseRange) (code : Nat) : Bool :=
  range.first ≤ code && code ≤ range.last && (code - range.first) % range.step == 0

/-- The simple upper-case form of a character. -/
def upperChar (c : Char) : Char :=
  if c.toNat < 0x80 then c.toUpper
  else
    match upperCaseRanges.find? (·.covers c.toNat) with
    | some range => Char.ofNat (c.toNat + range.offset).toNat
    | none => c

/-- The simple upper-case form of a text. -/
def upperCase (text : String) : String :=
  String.ofList (text.toList.map upperChar)

end Nominal.Text
