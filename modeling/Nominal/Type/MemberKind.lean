/-!
# Kinds of members
-/

namespace Nominal

/-- The kind of a declared element of a type. -/
inductive MemberKind where
  | unknown
  | field
  | method
  | constructor
  | initializer
  | staticConstructor
  deriving Repr, DecidableEq, Inhabited, Hashable

namespace MemberKind

/-- All kinds, in the order of their numbers. -/
def all : List MemberKind :=
  [unknown, field, method, constructor, initializer, staticConstructor]

/-- The number of kinds. -/
def count : Nat := all.length

/-- The kind with a number; the numbers end at five. -/
def ofCode? (code : UInt8) : Option MemberKind :=
  all[code.toNat]?

/-- A kind of member that has a parameter list. -/
def isExecutable : MemberKind → Bool
  | method | constructor | initializer | staticConstructor => true
  | unknown | field => false

/-- A kind of member that is visible through a subclass. -/
def isInheritable : MemberKind → Bool
  | field | method => true
  | _ => false

/-- The noun that messages use.  The unknown kind has none. -/
def name? : MemberKind → Option String
  | unknown => none
  | field => some "field"
  | method => some "method"
  | constructor => some "constructor"
  | initializer => some "initializer"
  | staticConstructor => some "static constructor"

/-- The keyword that declares a member of a kind.  Nothing declares the unknown kind. -/
def keyword? : MemberKind → Option String
  | unknown => none
  | field => some "field"
  | method => some "method"
  | constructor => some "constructor"
  | initializer => some "initializer"
  | staticConstructor => some "static_constructor"

/-- The kind that a keyword declares. -/
def ofKeyword? (keyword : String) : Option MemberKind :=
  all.find? (·.keyword? == some keyword)

/-- The display name of a kind. -/
def label : MemberKind → String
  | unknown => "MemberKindUnknown"
  | field => "MemberKindField"
  | method => "MemberKindMethod"
  | constructor => "MemberKindConstructor"
  | initializer => "MemberKindInitializer"
  | staticConstructor => "MemberKindStaticConstructor"

/-- The display name of a number, also for one that no kind has. -/
def labelOfCode (code : UInt8) : String :=
  match ofCode? code with
  | some kind => kind.label
  | none => "MemberKind(" ++ toString code.toNat ++ ")"

end MemberKind

end Nominal
