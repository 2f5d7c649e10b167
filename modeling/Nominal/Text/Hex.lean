/-!
# Hexadecimal fields

Rows of character data are written in hexadecimal.  A digit outside `0-9`, `A-F` and `a-f` reads
as nothing, so a malformed field is simply absent.
-/

namespace Nominal.Text

/-- The value of one hexadecimal digit. -/
def hexDigit? (c : Char) : Option Nat :=
  if '0' ≤ c ∧ c ≤ '9' then some (c.toNat - 48)
  else if 'A' ≤ c ∧ c ≤ 'F' then some (c.toNat - 55)
  else if 'a' ≤ c ∧ c ≤ 'f' then some (c.toNat - 87)
  else none

/-- Continues a hexadecimal number whose digits so far have the value `value`. -/
def hexTail? (value : Nat) : List Char → Option Nat
  | [] => some value
  | c :: rest =>
    match hexDigit? c with
    | some digit => hexTail? (16 * value + digit) rest
    | none => none

/-- Reads a non-empty hexadecimal number. -/
def hexNumber? (digits : List Char) : Option Nat :=
  if digits.isEmpty then none else hexTail? 0 digits

/-- The fields between the occurrences of a separator. -/
def fieldsBetween (separator : Char) : List Char → List (List Char)
  | [] => [[]]
  | c :: rest =>
    if c = separator then [] :: fieldsBetween separator rest
    else
      match fieldsBetween separator rest with
      | [] => [[c]]
      | field :: fields => (c :: field) :: fields

/-- The blank-separated fields of a list of rows. -/
def rowFields (rows : List String) : List (List Char) :=
  rows.flatMap fun row => fieldsBetween ' ' row.toList

end Nominal.Text
