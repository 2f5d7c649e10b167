import Nominal.Graph.Views

/-!
# Derivation and conversion

A type derives from its ancestors.  An array derives from an array whose reference elements its own
elements derive from, and from everything that the base class of arrays derives from.

A conversion is safe if it loses nothing: between equal types, from a narrow to a wide number, to a
dynamic type, and from a reference to the root class.
-/

namespace Nominal

/-- Whether a declared type derives from another type; `inclusive` decides for the type itself. -/
def nominalDerivesFrom (type : TypeId) (other : Option TypeRef) (inclusive : Bool) :
    Query Bool := do
  match other with
  | none => return false
  | some reference =>
    if (TypeRef.nominal type).same reference then return inclusive
    else
      match reference with
      | .nominal target => return (← ancestorsView type).contains target
      | _ => return false

/-- Whether a type derives from another type; `inclusive` decides for the type itself. -/
def TypeRef.derivesFrom : TypeRef → Option TypeRef → Bool → Query Bool
  | .primitive kind, other, inclusive =>
    return inclusive && other.any (TypeRef.primitive kind).same
  | .nominal type, other, inclusive => nominalDerivesFrom type other inclusive
  | .array element base, other, inclusive => do
    match other with
    | none => return false
    | some reference =>
      if (TypeRef.array element base).same reference then return inclusive
      else
        match reference with
        | .array otherElement _ =>
          if element.isReference && otherElement.isReference then
            element.derivesFrom (some otherElement) true
          else return false
        | .nominal _ =>
          match base with
          | none => return false
          | some baseClass => nominalDerivesFrom baseClass (some reference) true
        | .primitive _ => return false

/-- Whether a value of one type converts to another type without loss.  An absent type is
untyped. -/
def Graph.isSafeConversion (graph : Graph) (source target : Option TypeRef) : Bool :=
  match target with
  | none => true
  | some wanted =>
    if wanted.isDynamic graph then true
    else
      match source with
      | none => wanted.isReference
      | some origin =>
        if origin.same wanted then true
        else
          match origin, wanted with
          | .primitive kind, .primitive other => kind.widensTo other
          | .primitive _, _ => false
          | _, _ => origin.isReference && wanted.isRoot graph

/-- Whether values of a type may be used where a declared type is expected. -/
def canDerive (type : TypeId) (other : Option TypeRef) : Query Bool := do
  match other with
  | none => return true
  | some reference =>
    let graph ← get
    let expected := TypeRef.nominal type
    if expected.isDynamic graph || expected.isRoot graph then
      return reference.isReference || reference.isDynamic graph
    else reference.derivesFrom (some expected) true

end Nominal
