/-!
# Primitive types

The value types that need no declaration.  Numeric primitives are ordered by rank: a value of a
lower rank widens to a higher rank without loss.
-/

namespace Nominal

/-- A value type that needs no declaration. -/
inductive Primitive where
  | bool
  | char
  | byte
  | short
  | int
  | long
  | float
  | double
  | void
  deriving Repr, DecidableEq, Inhabited

namespace Primitive

/-- All primitive types, in the order of their numbers. -/
def all : List Primitive :=
  [bool, char, byte, short, int, long, float, double, void]

/-- The name of a primitive type. -/
def name : Primitive → String
  | bool => "bool"
  | char => "char"
  | byte => "byte"
  | short => "short"
  | int => "int"
  | long => "long"
  | float => "float"
  | double => "double"
  | void => "void"

/-- The primitive type with a name. -/
def ofName? (name : String) : Option Primitive :=
  all.find? (·.name == name)

/-- The number of a primitive type. -/
def code : Primitive → Nat
  | bool => 0
  | char => 1
  | byte => 2
  | short => 3
  | int => 4
  | long => 5
  | float => 6
  | double => 7
  | void => 8

/-- The rank of a numeric type; the other types have none. -/
def wideningRank? : Primitive → Option Nat
  | bool => none
  | char => some 2
  | byte => some 1
  | short => some 2
  | int => some 3
  | long => some 4
  | float => some 5
  | double => some 6
  | void => none

/-- Whether a value converts without loss.  Nothing but a character widens to a character, and a
character widens to the types above the short integers. -/
def widensTo (source target : Primitive) : Bool :=
  if source = target then true
  else
    match source.wideningRank?, target.wideningRank? with
    | some sourceRank, some targetRank => target ≠ char && sourceRank < targetRank
    | _, _ => false

end Primitive

end Nominal
