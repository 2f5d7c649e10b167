import Nominal.Graph.Derivation

/-!
# Overload resolution

A constructor call takes the first constructor, in declaration order, whose parameters accept the
arguments.  A constructor may begin by calling another constructor of its class or of the parent
class; `constructorChain` follows these calls.  A method is found by its exact parameter types.
-/

namespace Nominal

/-- Whether a parameter accepts an argument.  An absent argument is the absent value. -/
def parameterAccepts (parameter argument : Option TypeRef) : Query Bool := do
  match parameter with
  | none => return true
  | some expected =>
    let graph ← get
    match argument with
    | none => return expected.isReference || expected.isDynamic graph
    | some given =>
      if expected.same given then return true
      else if ← given.derivesFrom (some expected) false then return true
      else return graph.isSafeConversion (some given) (some expected)

/-- Whether parameters accept arguments, one by one. -/
def parametersAccept : List (Option TypeRef) → List (Option TypeRef) → Query Bool
  | [], [] => return true
  | parameter :: parameters, argument :: arguments => do
    if ← parameterAccepts parameter argument then parametersAccept parameters arguments
    else return false
  | _, _ => return false

/-- The parameter types that a call of a member has to match. -/
def Member.callTypes (member : Member) (matchSelf : Bool) : List (Option TypeRef) :=
  (if matchSelf then member.parameters else member.explicitParameters).map (·.type)

/-- The first of some candidates that accepts the arguments. -/
def firstAccepting? (arguments : List (Option TypeRef)) (matchSelf : Bool) :
    List MemberId → Query (Option MemberId)
  | [] => return none
  | candidate :: rest => do
    let parameters := ((← get).memberAt candidate).callTypes matchSelf
    -- Lists of different lengths are told apart before any type is looked at.
    if parameters.length = arguments.length then
      if ← parametersAccept parameters arguments then return some candidate
      else firstAccepting? arguments matchSelf rest
    else firstAccepting? arguments matchSelf rest

/-- The first of some constructors that accepts the arguments.  There have to be some. -/
def findConstructor (candidates : List MemberId) (arguments : List (Option TypeRef))
    (matchSelf : Bool) : Build (Option MemberId) :=
  if candidates.isEmpty then misuse "no constructor candidates"
  else firstAccepting? arguments matchSelf candidates

/-- How a constructor call is written. -/
def Graph.callText (graph : Graph) (type : TypeId) (arguments : List (Option TypeRef)) : String :=
  graph.nameOf type ++ "(" ++ graph.qualifiedNameList arguments ++ ")"

/-- The constructor of a class that accepts the arguments.  `callChain` lists the calls that led
here. -/
def resolveConstructorFrom (callChain : List String) (type : TypeId)
    (arguments : List (Option TypeRef)) (matchSelf : Bool) : Build MemberId := do
  let graph ← get
  match ← firstAccepting? arguments matchSelf (graph.typeAt type).classPart.constructors with
  | some constructor => return constructor
  | none =>
    reject (.constructorNotFound type arguments (callChain ++ [graph.callText type arguments]))

/-- The constructor of a class that accepts the arguments. -/
def resolveConstructor (type : TypeId) (arguments : List (Option TypeRef)) (matchSelf : Bool) :
    Build MemberId :=
  resolveConstructorFrom [] type arguments matchSelf

/-- Follows the forward calls of a constructor for at most `steps` calls.  `chain` lists the
constructors so far. -/
def followForwardCalls : Nat → TypeId → MemberId → List MemberId → List String →
    Build (List MemberId)
  | 0, _, _, _, _ => throw (.aborted .unreachable)
  | steps + 1, type, constructor, chain, callChain => do
    let graph ← get
    match (graph.memberAt constructor).forwardCall with
    | none => return chain
    | some call =>
      let target? := match call.target with
        | .ownClass => some type
        | .parentClass => (graph.typeAt type).parent?
      match target? with
      | none =>
        reject (.constructorNotFound type call.arguments (callChain ++ [call.describe graph]))
      | some target =>
        let next ← resolveConstructorFrom callChain target call.arguments false
        let calls := callChain ++ [graph.callText target call.arguments]
        if next ∈ chain then reject (.recursiveConstructorCall target calls)
        else followForwardCalls steps target next (chain ++ [next]) calls

/-- The constructors that run when a constructor of a class is called, in call order. -/
def constructorChain (type : TypeId) (constructor : MemberId) : Build (List MemberId) := do
  let graph ← get
  let member := graph.memberAt constructor
  if member.kind ≠ .constructor then
    misuse ("`" ++ member.qualifiedName graph ++ "` is not a constructor")
  else
    let call := graph.callText type (member.explicitParameters.map (·.type))
    followForwardCalls (graph.members.size + 1) type constructor [constructor] [call]

/-! ## Methods -/

/-- Whether parameter types are exactly the given types. -/
def matchesStrictly : List (Option TypeRef) → List (Option TypeRef) → Bool
  | [], [] => true
  | parameter :: parameters, type :: types =>
    (match parameter, type with
      | none, none => true
      | some expected, some given => expected.same given
      | _, _ => false)
      && matchesStrictly parameters types
  | _, _ => false

/-- The methods of a name that a declared type offers. -/
def methodCandidates (type : TypeId) (name : String) (isStatic : Bool) :
    Query (List MemberId) := do
  let graph ← get
  if (graph.typeAt type).isClass then
    if isStatic then staticMethodsByName type name else classMembersByName type name false
  else if isStatic then return (graph.typeAt type).declaredByName name true
  else interfaceMembersByName type name

/-- The method of a name with exactly the given parameter types. -/
def findMethod? (type : Option TypeRef) (name : String) (types : List (Option TypeRef))
    (isStatic : Bool) : Query (Option MemberId) := do
  let owner := match type with
    | some (.nominal id) => some id
    | some (.array _ base) => base
    | _ => none
  match owner with
  | none => return none
  | some id =>
    let candidates ← methodCandidates id name isStatic
    let graph ← get
    return candidates.find? fun candidate =>
      let member := graph.memberAt candidate
      member.kind == .method && matchesStrictly (member.callTypes false) types

end Nominal
