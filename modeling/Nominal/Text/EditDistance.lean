/-!
# Edit distance and the closest name

The distance between two names is the least cost of turning one into the other, where inserting or
deleting a character costs one and replacing a character costs two.  It is computed row by row:
`distanceRow` holds the distances of one prefix of the source to all prefixes of the target.

`closestName` picks a suggestion: among the listed names whose distance is below both byte lengths,
one with the least distance, and of those the first in lexicographic order.
-/

namespace Nominal.Text

/-- The entries of the next row after its first one.  `left` is the entry just computed, and
`diagonal` the entry of the previous row above it. -/
def distanceRowFrom (character : Char) (left diagonal : Nat) :
    List Char → List Nat → List Nat
  | targetCharacter :: target, above :: row =>
    let replaced := diagonal + if character = targetCharacter then 0 else 2
    let entry := min (min (above + 1) (left + 1)) replaced
    entry :: distanceRowFrom character entry above target row
  | _, _ => []

/-- The row after a row, for one more character of the source. -/
def distanceRow (target : List Char) (row : List Nat) (character : Char) : List Nat :=
  match row with
  | [] => []
  | diagonal :: rest => (diagonal + 1) :: distanceRowFrom character (diagonal + 1) diagonal target rest

/-- The edit distance of two character lists. -/
def editDistanceList (source target : List Char) : Nat :=
  (source.foldl (distanceRow target) (List.range (target.length + 1))).getLastD 0

/-- The edit distance of two texts. -/
def editDistance (source target : String) : Nat :=
  editDistanceList source.toList target.toList

/-- Scans sorted names for the closest one.  `best` is the suggestion so far, and `bound` the
distance that the next one has to undercut. -/
def closestFrom (distance : String → Nat) (best : Option String) (bound : Nat) :
    List String → Option String
  | [] => best
  | name :: rest =>
    if distance name < bound ∧ distance name < name.utf8ByteSize then
      closestFrom distance (some name) (distance name) rest
    else closestFrom distance best bound rest

/-- The closest of the listed names, if one is close enough. -/
def closestName (distance : String → Nat) (name : String) (names : List String) : Option String :=
  closestFrom distance none name.utf8ByteSize (names.mergeSort fun a b => decide (a ≤ b))

end Nominal.Text
