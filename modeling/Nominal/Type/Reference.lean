import Nominal.Type.Primitive

/-!
# References to types

A declared type is known by its place in the type graph.  A reference to a type is a primitive
type, a declared type, or an array of either; an absent reference means that nothing is said about
the type, so a value of any type is meant.
-/

namespace Nominal

/-- The place of a declared type in the type graph. -/
abbrev TypeId := Nat

/-- The place of a member in the type graph. -/
abbrev MemberId := Nat

/-- The number of an arena.  Declared types of different arenas cannot be related. -/
abbrev ArenaId := Nat

/-- A type, as a member mentions it.  An array knows the class whose members it offers. -/
inductive TypeRef where
  | primitive (kind : Primitive)
  | nominal (id : TypeId)
  | array (element : TypeRef) (base : Option TypeId)
  deriving Repr, DecidableEq, Inhabited

namespace TypeRef

/-- Whether two references mean the same type.  Arrays are the same if their elements are. -/
def same : TypeRef → TypeRef → Bool
  | primitive kind, primitive other => kind == other
  | nominal id, nominal other => id == other
  | array element _, array other _ => element.same other
  | _, _ => false

theorem same_refl (reference : TypeRef) : reference.same reference = true := by
  induction reference with
  | primitive kind => exact beq_self_eq_true kind
  | nominal id => exact beq_self_eq_true id
  | array element base ih => exact ih

/-- The declared type that is referred to. -/
def nominal? : TypeRef → Option TypeId
  | nominal id => some id
  | _ => none

/-- The class whose members an array offers. -/
def base? : TypeRef → Option TypeId
  | array _ base => base
  | _ => none

/-- Whether values of the type are references, so that an absent value is one of them. -/
def isReference : TypeRef → Bool
  | primitive _ => false
  | nominal _ => true
  | array _ _ => true

end TypeRef

end Nominal
