import Std.Data.HashMap
import Std.Data.HashSet
import Nominal.Text.CanonicalData
import Nominal.Text.Hex

/-!
# Canonical composition of text

Two spellings of a name that only differ in how accented characters are written denote the same
name.  `canonical` brings a text into composed form.  The text is cut into clusters, each of which
starts with a character that cannot be composed with what stands before it; in every cluster the
characters are decomposed, combining marks are put into the order of their combining classes, and
characters are composed again.

Characters below `U+0300` neither decompose to a different composed form nor combine with what
stands before them, so a text made of them is its own composed form (`canonical_of_simple`).

Names are composed when they are declared and again when they are looked up.  A name for which the
second time changes nothing is stable (`IsStable`).
-/

namespace Nominal.Text

/-! ## Character data -/

/-- One row of the decomposition data. -/
def decompositionRow? (field : List Char) : Option (Nat × List Nat) :=
  match fieldsBetween ':' field with
  | [character, parts] => do
    let code ← hexNumber? character
    let codes ← (fieldsBetween '+' parts).mapM hexNumber?
    return (code, codes)
  | _ => none

/-- The listed decompositions. -/
def decompositionList : List (Nat × List Nat) :=
  (rowFields decompositionRows).filterMap decompositionRow?

/-- The listed decompositions, by character. -/
def decompositionTable : Std.HashMap Nat (List Nat) :=
  Std.HashMap.ofList decompositionList

/-- The characters that are never the result of a composition. -/
def compositionExclusions : List Nat :=
  (rowFields compositionExclusionRows).filterMap hexNumber?

/-- The decompositions into two parts that are composed again: the parts and the composite. -/
def compositionList : List ((Nat × Nat) × Nat) :=
  decompositionList.filterMap fun (code, parts) =>
    match parts with
    | [first, second] =>
      if compositionExclusions.contains code then none else some ((first, second), code)
    | _ => none

/-- A pair of characters is looked up by the last sixteen binary digits of both. -/
def compositionKey (first second : Nat) : Nat × Nat :=
  (first % 0x10000, second % 0x10000)

/-- The composite of a first and a second part, by their key. -/
def compositionTable : Std.HashMap (Nat × Nat) Nat :=
  Std.HashMap.ofList <|
    compositionList.map fun entry => (compositionKey entry.1.1 entry.1.2, entry.2)

/-- The second parts of composites. -/
def secondParts : Std.HashSet Nat :=
  Std.HashSet.ofList (compositionList.map (·.1.2))

/-- One row of the combining class data: first and last character, and their class. -/
def combiningClassRow? (field : List Char) : Option (Nat × Nat × Nat) :=
  match fieldsBetween ':' field with
  | [range, digits] => do
    let combiningClass ← (String.ofList digits).toNat?
    match fieldsBetween '-' range with
    | [single] => let code ← hexNumber? single; return (code, code, combiningClass)
    | [first, last] => return (← hexNumber? first, ← hexNumber? last, combiningClass)
    | _ => none
  | _ => none

/-- The ranges of characters whose combining class is not zero, in ascending order. -/
def combiningClassRanges : Array (Nat × Nat × Nat) :=
  ((rowFields combiningClassRows).filterMap combiningClassRow?).toArray

/-- The canonical combining class of a character; zero for a character that starts a cluster. -/
def combiningClass (code : Nat) : Nat :=
  if code < 0x300 then 0
  else
    match combiningClassRanges.find? fun (first, last, _) => first ≤ code ∧ code ≤ last with
    | some (_, _, value) => value
    | none => 0

/-! ## Hangul syllables

Hangul syllables are composed by arithmetic from a leading consonant, a vowel and an optional
trailing consonant.
-/

/-- The parts of a precomposed Hangul syllable. -/
def hangulParts? (code : Nat) : Option (List Nat) :=
  if 0xAC00 ≤ code ∧ code < 0xAC00 + 11172 then
    let offset := code - 0xAC00
    let lead := 0x1100 + offset / 588
    let vowel := 0x1161 + offset % 588 / 28
    let trail := offset % 28
    some (if trail = 0 then [lead, vowel] else [lead, vowel, 0x11A7 + trail])
  else none

/-- The syllable composed of a leading consonant and a vowel, or of such a syllable and a trailing
consonant. -/
def hangulComposite? (first second : Nat) : Option Nat :=
  if 0x1100 ≤ first ∧ first < 0x1100 + 19 ∧ 0x1161 ≤ second ∧ second < 0x1161 + 21 then
    some (0xAC00 + ((first - 0x1100) * 21 + (second - 0x1161)) * 28)
  else if 0xAC00 ≤ first ∧ first < 0xAC00 + 11172 ∧ (first - 0xAC00) % 28 = 0
      ∧ 0x11A7 < second ∧ second < 0x11A7 + 28 then
    some (first + (second - 0x11A7))
  else none

/-- Whether a character can be composed with one before it. -/
def composesBackward (code : Nat) : Bool :=
  (0x1161 ≤ code && code < 0x1161 + 21) || (0x11A7 < code && code < 0x11A7 + 28)
    || secondParts.contains code

/-! ## Clusters -/

/-- The characters that belong to the cluster before them for the sake of their decomposition. -/
def continuations : List Nat :=
  (rowFields continuationRows).filterMap hexNumber?

/-- Whether a character belongs to the cluster of the character before it. -/
def continuesCluster (code : Nat) : Bool :=
  combiningClass code != 0 || composesBackward code || continuations.contains code

/-- Cuts a text into clusters. -/
def clusters : List Nat → List (List Nat)
  | [] => []
  | code :: rest =>
    match clusters rest with
    | [] => [[code]]
    | cluster :: others =>
      if (cluster.head?).any continuesCluster then (code :: cluster) :: others
      else [code] :: cluster :: others

/-! ## Decomposition and order -/

/-- The full decomposition of one character.  No character needs more than four steps. -/
def decomposeCode : Nat → Nat → List Nat
  | 0, code => [code]
  | steps + 1, code =>
    let listed := decompositionTable[code]?.map fun parts => parts.flatMap (decomposeCode steps)
    (hangulParts? code).getD (listed.getD [code])

/-- Places a combining mark after all marks of a class that is not greater. -/
def insertMark (mark : Nat) : List Nat → List Nat
  | [] => [mark]
  | other :: rest =>
    if combiningClass other ≤ combiningClass mark then other :: insertMark mark rest
    else mark :: other :: rest

/-- Sorts each run of combining marks by class, keeping the order of marks of one class. -/
def orderMarks : List Nat → List Nat
  | [] => []
  | codes => go [] codes
where
  /-- `marks` is the run collected so far. -/
  go (marks : List Nat) : List Nat → List Nat
    | [] => marks
    | code :: rest =>
      if combiningClass code = 0 then marks ++ code :: go [] rest
      else go (insertMark code marks) rest

/-! ## Composition -/

/-- A character of a cluster, with the combining class of what it was composed from. -/
structure Part where
  code : Nat
  combiningClass : Nat
  deriving Repr, DecidableEq

/-- A cluster while its characters are composed.  Further characters may be composed with the
target. -/
structure Composition where
  /-- The characters before the target, the last one first. -/
  before : List Part := []
  target : Part
  /-- The characters after the target, the last one first. -/
  after : List Part := []
  deriving Repr

namespace Composition

/-- The last character. -/
def last (composition : Composition) : Part :=
  composition.after.head?.getD composition.target

/-- Adds a character without composing it. -/
def push (composition : Composition) (part : Part) : Composition :=
  { composition with after := part :: composition.after }

/-- Makes the last character the target if it starts a run of marks. -/
def retarget (composition : Composition) : Composition :=
  match composition.after with
  | [] => composition
  | latest :: earlier =>
    if latest.combiningClass = 0 then
      { before := earlier ++ composition.target :: composition.before, target := latest }
    else composition

/-- Whether a character cannot reach the target, since a mark of its class or a greater one stands
between them. -/
def isBlocked (composition : Composition) (part : Part) : Bool :=
  !composition.after.isEmpty && part.combiningClass ≤ composition.last.combiningClass

/-- Composes a character with the target, if they have a composite and nothing blocks it. -/
def join (composite? : Nat → Nat → Option Nat) (composition : Composition) (part : Part) :
    Composition :=
  let aimed := composition.retarget
  match if aimed.isBlocked part then none else composite? aimed.target.code part.code with
  | some code => { aimed with target := { aimed.target with code } }
  | none => aimed.push part

/-- The characters of the cluster. -/
def toList (composition : Composition) : List Nat :=
  ((composition.after ++ composition.target :: composition.before).reverse).map (·.code)

/-- Composes the characters of a cluster one after the other.  From the first conjoining Hangul
letter on, only Hangul syllables are composed. -/
def run (composition : Composition) (inHangul : Bool) : List Part → Composition
  | [] => composition
  | part :: rest =>
    if inHangul || (0x1100 ≤ part.code && part.code < 0x1200) then
      run (composition.join hangulComposite? part) true rest
    else if composesBackward part.code then
      let composite? := fun first second => compositionTable[compositionKey first second]?
      run (composition.join composite? part) false rest
    else run (composition.push part) false rest

end Composition

/-- Composes a cluster of decomposed characters in order. -/
def composeCluster (codes : List Nat) : List Nat :=
  match codes.map fun code => Part.mk code (combiningClass code) with
  | [] => []
  | first :: rest => (Composition.run { target := first } false rest).toList

/-- The composed form of a cluster. -/
def canonicalCluster (codes : List Nat) : List Nat :=
  composeCluster (orderMarks (codes.flatMap (decomposeCode 4)))

/-- A character that is never changed and never composed with what stands before it. -/
def isSimpleCharacter (c : Char) : Bool :=
  c.toNat < 0x300

/-- The composed form of a text.  This is plain normalization form C: the combining grapheme joiner
(`U+034F`) that a normalizer which bounds runs of marks puts after thirty non-starters in a row is
left out, and a run of marks stays as long as it is. -/
def canonical (text : String) : String :=
  if text.toList.all isSimpleCharacter then text
  else
    let codes := (clusters (text.toList.map Char.toNat)).flatMap canonicalCluster
    String.ofList (codes.map Char.ofNat)

/-- A text of simple characters is its own composed form. -/
theorem canonical_of_simple {text : String}
    (simple : text.toList.all isSimpleCharacter = true) : canonical text = text := by
  simp [canonical, simple]

/-- A name whose composed form is composed. -/
def IsStable (name : String) : Prop :=
  canonical (canonical name) = canonical name

instance (name : String) : Decidable (IsStable name) :=
  inferInstanceAs (Decidable (_ = _))

theorem isStable_of_canonical_eq {name : String} (composed : canonical name = name) :
    IsStable name :=
  congrArg canonical composed

namespace IsStable

variable {name : String} (stable : IsStable name)

include stable

theorem canonical_canonical : Text.canonical (Text.canonical name) = Text.canonical name :=
  stable

theorem canonical : IsStable (Text.canonical name) :=
  isStable_of_canonical_eq stable

end IsStable

end Nominal.Text
