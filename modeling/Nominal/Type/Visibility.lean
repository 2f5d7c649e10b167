/-!
# Visibility

The declared accessibility of a type or a member.  Visibilities are ordered by how much they admit:
public, then protected and module on one level, then private, then hidden.
-/

namespace Nominal

/-- The declared accessibility of a type or a member. -/
inductive Visibility where
  | hidden
  | priv
  | moduleOnly
  | prot
  | pub
  deriving Repr, DecidableEq, Inhabited

namespace Visibility

/-- All visibilities, the most visible first. -/
def all : List Visibility :=
  [pub, prot, moduleOnly, priv, hidden]

/-- The position in the order of visibility. -/
def level : Visibility → Nat
  | hidden => 0
  | priv => 1
  | moduleOnly => 2
  | prot => 2
  | pub => 3

/-- Whether a visibility admits strictly less than another one. -/
def isLessThan (visibility other : Visibility) : Bool :=
  visibility.level < other.level

/-- Whether members of this visibility are seen by subclasses. -/
def isSubclassVisible : Visibility → Bool
  | pub | prot | moduleOnly => true
  | priv | hidden => false

/-- The keyword that declares a visibility. -/
def keyword : Visibility → String
  | pub => "public"
  | prot => "protected"
  | moduleOnly => "module"
  | priv => "private"
  | hidden => "hidden"

/-- The adjective that messages use. -/
def description : Visibility → String
  | pub => "public"
  | prot => "protected"
  | moduleOnly => "module-private"
  | priv => "private"
  | hidden => "hidden"

/-- The visibility that a keyword declares. -/
def ofKeyword? (keyword : String) : Option Visibility :=
  all.find? (·.keyword == keyword)

/-- The number of a visibility. -/
def code : Visibility → UInt8
  | hidden => 0
  | priv => 1
  | moduleOnly => 2
  | prot => 3
  | pub => 4

/-- The visibility with a number; the numbers end at four. -/
def ofCode? (code : UInt8) : Option Visibility :=
  all.find? (·.code == code)

/-- The display name of a visibility. -/
def label : Visibility → String
  | hidden => "VisibilityHidden"
  | priv => "VisibilityPrivate"
  | moduleOnly => "VisibilityModule"
  | prot => "VisibilityProtected"
  | pub => "VisibilityPublic"

/-- The display name of a number, also for one that no visibility has. -/
def labelOfCode (code : UInt8) : String :=
  match ofCode? code with
  | some visibility => visibility.label
  | none => "Visibility(" ++ toString code.toNat ++ ")"

/-- Every visibility is found again by its keyword. -/
theorem ofKeyword?_keyword (visibility : Visibility) :
    ofKeyword? visibility.keyword = some visibility := by
  cases visibility <;> decide +kernel

/-- Every visibility is found again by its number. -/
theorem ofCode?_code (visibility : Visibility) : ofCode? visibility.code = some visibility := by
  cases visibility <;> decide

end Visibility

end Nominal
