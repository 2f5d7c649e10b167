import Mathlib.Data.List.Chain
import Nominal.Proofs.ConstructorCalls

/-!
# Chains of constructors

A constructor forwards to the constructor that its forward call denotes: `Graph.Forwards` says this
of the class that declares it and of the candidates of the class that the call is made to.  At most
one constructor follows another, so what follows a constructor is a single path, which ends with a
constructor without a forward call, ends with a call that denotes nothing, or never ends.

Resolution tells these cases apart.  It visits no constructor twice, so it ends within as many calls
as there are members.  A path that never ends runs into a cycle, and parents have no cycles, so all
calls of the cycle stay in one class.
-/

namespace Nominal

open Relation

/-! ## Paths of single steps -/

section Paths

variable {Place : Type} {step : Place → Place → Prop} {start last next reached : Place}

/-- Whatever a cycle leads to leads back to it. -/
theorem reaches_back_of_cycle (unique : Relator.RightUnique step) (again : step last next)
    (back : ReflTransGen step next last) (path : ReflTransGen step last reached) :
    ReflTransGen step reached last := by
  induction path with
  | refl => exact .refl
  | @tail middle reached _ link ih =>
      rcases ReflTransGen.cases_head ih with rfl | ⟨other, first, rest⟩
      · rwa [unique link again]
      · rwa [unique link first]

/-- A path that leads into a cycle never ends. -/
theorem exists_step_of_cycle (unique : Relator.RightUnique step)
    (path : ReflTransGen step start last) (again : step last next)
    (back : ReflTransGen step next last) (also : ReflTransGen step start reached) :
    ∃ later, step reached later := by
  have leads : ReflTransGen step reached last := by
    rcases ReflTransGen.total_of_right_unique unique path also with beyond | before
    · exact reaches_back_of_cycle unique again back beyond
    · exact before
  rcases ReflTransGen.cases_head leads with rfl | ⟨later, first, -⟩
  · exact ⟨next, again⟩
  · exact ⟨later, first⟩

/-- A path that has ended ends nowhere else. -/
theorem eq_of_no_step (unique : Relator.RightUnique step)
    (path : ReflTransGen step start last) (ended : ∀ later, ¬ step last later)
    (also : ReflTransGen step start reached) (endedAlso : ∀ later, ¬ step reached later) :
    reached = last := by
  rcases ReflTransGen.total_of_right_unique unique path also with beyond | before
  · rcases ReflTransGen.cases_head beyond with same | ⟨later, first, -⟩
    · exact same.symm
    · exact absurd first (ended later)
  · rcases ReflTransGen.cases_head before with same | ⟨later, first, -⟩
    · exact same
    · exact absurd first (endedAlso later)

end Paths

namespace Graph

/-! ## Forward calls -/

/-- The class that a forward call in a class is made to. -/
def forwardClass? (graph : Graph) (type : TypeId) (call : ForwardCall) : Option TypeId :=
  match call.target with
  | .ownClass => some type
  | .parentClass => (graph.typeAt type).parent?

/-- A call to a class denotes the constructor that is found among those of the class. -/
def Denotes (graph : Graph) (type : TypeId) (arguments : List (Option TypeRef))
    (next : MemberId) : Prop :=
  ((findConstructor (graph.typeAt type).classPart.constructors arguments false).exec graph).1
    = .ok (some next)

/-- The forward call of a constructor denotes another one, of the class that it is made to. -/
def Forwards (graph : Graph) (constructor next : MemberId) : Prop :=
  ∃ call type target, (graph.memberAt constructor).forwardCall = some call ∧
    (graph.memberAt constructor).definingType = some type ∧
    graph.forwardClass? type call = some target ∧ graph.Denotes target call.arguments next

/-- The forward call of a constructor denotes another one of its own class. -/
structure ForwardsWithin (graph : Graph) (type : TypeId) (constructor next : MemberId) : Prop where
  forwards : graph.Forwards constructor next
  owner : (graph.memberAt constructor).definingType = some type
  nextOwner : (graph.memberAt next).definingType = some type
  ownClass : ∃ call, (graph.memberAt constructor).forwardCall = some call ∧
    call.target = .ownClass

variable {graph : Graph} {constructor next : MemberId} {type : TypeId}

theorem lt_size_of_definingType (owner : (graph.memberAt constructor).definingType = some type) :
    constructor < graph.members.size := by
  apply Nat.lt_of_not_le
  intro absent
  rw [memberAt_of_size_le absent] at owner
  cases owner

/-- What follows a constructor is what its forward call denotes. -/
theorem Forwards.denoted (forwards : graph.Forwards constructor next)
    (owner : (graph.memberAt constructor).definingType = some type) {call : ForwardCall}
    (called : (graph.memberAt constructor).forwardCall = some call) :
    ∃ target, graph.forwardClass? type call = some target ∧
      graph.Denotes target call.arguments next := by
  obtain ⟨callAgain, typeAgain, target, calledAgain, ownerAgain, made, denotes⟩ := forwards
  obtain rfl := Option.some.inj (called.symm.trans calledAgain)
  obtain rfl := Option.some.inj (owner.symm.trans ownerAgain)
  exact ⟨target, made, denotes⟩

theorem forwards_rightUnique (graph : Graph) : Relator.RightUnique graph.Forwards := by
  rintro constructor next other ⟨call, type, target, called, owner, made, denotes⟩ forwards
  obtain ⟨targetAgain, madeAgain, denotesAgain⟩ := forwards.denoted owner called
  obtain rfl := Option.some.inj (made.symm.trans madeAgain)
  exact Option.some.inj (Except.ok.inj (denotes.symm.trans denotesAgain))

theorem not_forwards_of_none (final : (graph.memberAt constructor).forwardCall = none) :
    ¬ graph.Forwards constructor next := by
  rintro ⟨call, -, -, called, -⟩
  rw [final] at called
  cases called

/-- A call to a class denotes a constructor that the class declares. -/
theorem Denotes.definingType (enlisted : graph.Enlisted) {arguments : List (Option TypeRef)}
    (denotes : graph.Denotes type arguments next) :
    (graph.memberAt next).definingType = some type := by
  have listed := mem_of_firstAccepting? (findConstructor_eq_some_iff.mp denotes)
  exact (enlisted type .constructor next listed).1

/-- A constructor forwards to a constructor of its class or of the parent. -/
theorem Forwards.classes (enlisted : graph.Enlisted) (forwards : graph.Forwards constructor next) :
    ∃ type target, (graph.memberAt constructor).definingType = some type ∧
      (graph.memberAt next).definingType = some target ∧
      (graph.ForwardsWithin type constructor next ∧ target = type ∨ graph.Extends type target) := by
  have ⟨call, type, target, called, owner, made, denotes⟩ := forwards
  have nextOwner := denotes.definingType enlisted
  refine ⟨type, target, owner, nextOwner, ?_⟩
  unfold forwardClass? at made
  cases aim : call.target with
  | ownClass =>
      rw [aim] at made
      obtain rfl := Option.some.inj made
      exact .inl ⟨⟨forwards, owner, nextOwner, call, called, aim⟩, rfl⟩
  | parentClass =>
      rw [aim] at made
      exact .inr (extends_of_parent? made)

theorem reaches_of_forwards (enlisted : graph.Enlisted) {first last : MemberId}
    (path : ReflTransGen graph.Forwards first last)
    (owner : (graph.memberAt first).definingType = some type) :
    ∃ above, (graph.memberAt last).definingType = some above ∧ graph.Reaches type above := by
  induction path with
  | refl => exact ⟨type, owner, .refl⟩
  | @tail middle last _ forwards ih =>
      obtain ⟨between, middleOwner, reached⟩ := ih
      obtain ⟨same, target, ownerAgain, lastOwner, step⟩ := forwards.classes enlisted
      obtain rfl := Option.some.inj (middleOwner.symm.trans ownerAgain)
      refine ⟨target, lastOwner, ?_⟩
      rcases step with ⟨-, rfl⟩ | link
      · exact reached
      · exact reached.tail link

/-- A forward call that can be followed back stays in its class. -/
theorem Forwards.within_of_back (acyclic : graph.Acyclic) (enlisted : graph.Enlisted)
    (forwards : graph.Forwards constructor next)
    (back : ReflTransGen graph.Forwards next constructor) :
    ∃ type, graph.ForwardsWithin type constructor next := by
  obtain ⟨type, target, owner, nextOwner, step⟩ := forwards.classes enlisted
  rcases step with ⟨within, -⟩ | link
  · exact ⟨type, within⟩
  · obtain ⟨above, ownerAgain, reached⟩ := reaches_of_forwards enlisted back nextOwner
    obtain rfl := Option.some.inj (owner.symm.trans ownerAgain)
    exact absurd (.head' link reached) (acyclic type)

/-- All forward calls of a cycle stay in one class. -/
theorem exists_forwardsWithin_of_cycle (acyclic : graph.Acyclic) (enlisted : graph.Enlisted)
    (cycle : TransGen graph.Forwards constructor constructor) :
    ∃ type, TransGen (graph.ForwardsWithin type) constructor constructor := by
  have within : ∀ last, TransGen graph.Forwards constructor last →
      ReflTransGen graph.Forwards last constructor →
      ∃ type, (graph.memberAt last).definingType = some type ∧
        TransGen (graph.ForwardsWithin type) constructor last := by
    intro last path
    induction path with
    | single forwards =>
        intro back
        obtain ⟨type, step⟩ := forwards.within_of_back acyclic enlisted back
        exact ⟨type, step.nextOwner, .single step⟩
    | tail path forwards ih =>
        intro back
        obtain ⟨type, owner, walked⟩ := ih (.head forwards back)
        obtain ⟨same, step⟩ :=
          forwards.within_of_back acyclic enlisted (back.trans path.to_reflTransGen)
        obtain rfl := Option.some.inj (owner.symm.trans step.owner)
        exact ⟨type, step.nextOwner, walked.tail step⟩
  obtain ⟨type, -, walked⟩ := within constructor cycle .refl
  exact ⟨type, walked⟩

/-! ## The calls followed so far -/

/-- A chain of constructors in which each one forwards to the next, and none comes twice. -/
structure Trail (graph : Graph) (start last : MemberId) (chain : List MemberId) : Prop where
  begins : chain.head? = some start
  ends : chain.getLast? = some last
  distinct : chain.Nodup
  links : chain.IsChain graph.Forwards

namespace Trail

variable {start last : MemberId} {chain : List MemberId}

theorem single (graph : Graph) (start : MemberId) : graph.Trail start start [start] where
  begins := rfl
  ends := rfl
  distinct := List.nodup_singleton start
  links := .singleton start

theorem extend (trail : graph.Trail start last chain) (forwards : graph.Forwards last next)
    (fresh : next ∉ chain) : graph.Trail start next (chain ++ [next]) where
  begins := by rw [List.head?_append, trail.begins, Option.some_or]
  ends := List.getLast?_concat
  distinct := by
    rw [List.nodup_append]
    refine ⟨trail.distinct, List.nodup_singleton next, ?_⟩
    rintro passed listed _ same rfl
    exact fresh (List.mem_singleton.mp same ▸ listed)
  links := by
    refine trail.links.append (.singleton next) ?_
    rintro final ended _ ⟨⟩
    rw [trail.ends] at ended
    cases ended
    exact forwards

theorem leads (trail : graph.Trail start last chain) {passed : MemberId} (listed : passed ∈ chain) :
    ReflTransGen graph.Forwards passed last := by
  refine trail.links.backwards_induction (ReflTransGen graph.Forwards · last) chain
    (fun _ _ forwards rest => .head forwards rest) ?_ passed listed
  intro some
  have ends := trail.ends
  rw [List.getLast?_eq_some_getLast some] at ends
  rw [Option.some.inj ends]

theorem reached (trail : graph.Trail start last chain) :
    ReflTransGen graph.Forwards start last :=
  trail.leads (List.mem_of_head? trail.begins)

/-- A chain has as many constructors as there are members at most. -/
theorem length_le (trail : graph.Trail start last chain)
    (owner : (graph.memberAt last).definingType = some type) :
    chain.length ≤ graph.members.size := by
  have inside : chain ⊆ List.range graph.members.size := by
    intro passed listed
    rw [List.mem_range]
    rcases ReflTransGen.cases_head (trail.leads listed) with rfl | ⟨next, forwards, -⟩
    · exact lt_size_of_definingType owner
    · obtain ⟨call, type, target, -, owner, -⟩ := forwards
      exact lt_size_of_definingType owner
  have short := (trail.distinct.subperm inside).length_le
  rwa [List.length_range] at short

end Trail

/-! ## Resolution -/

/-- How the resolution of the chain of a constructor can end: with the whole chain, at a forward
call that denotes nothing, or at one that leads back into the chain. -/
inductive ChainEnds (graph : Graph) (start : MemberId) : Except Failure (List MemberId) → Prop
  where
  | resolved {last : MemberId} {chain : List MemberId} (trail : graph.Trail start last chain)
      (final : (graph.memberAt last).forwardCall = none) : graph.ChainEnds start (.ok chain)
  | notFound {last : MemberId} {type target : TypeId} {call : ForwardCall} {calls : List String}
      (path : ReflTransGen graph.Forwards start last)
      (owner : (graph.memberAt last).definingType = some type)
      (called : (graph.memberAt last).forwardCall = some call)
      (made : (graph.forwardClass? type call).getD type = target)
      (stuck : ∀ next, ¬ graph.Forwards last next) :
      graph.ChainEnds start
        (.error (.rejected (.constructorNotFound target call.arguments calls)))
  | recursive {last next : MemberId} {type : TypeId} {calls : List String}
      (path : ReflTransGen graph.Forwards start last)
      (forwards : graph.Forwards last next)
      (owner : (graph.memberAt next).definingType = some type)
      (back : ReflTransGen graph.Forwards next last) :
      graph.ChainEnds start (.error (.rejected (.recursiveConstructorCall type calls)))

end Graph

open Nominal.Graph

variable {graph left : Graph} {start last : MemberId} {type : TypeId}

/-- A constructor call is resolved as on the graph of which only views have been kept since. -/
theorem resolveConstructorFrom_exec (sound : graph.Sound) (read : graph.Reads left)
    (callChain : List String) (type : TypeId) (arguments : List (Option TypeRef)) :
    ∃ later, graph.Reads later ∧
      ((∃ next, graph.Denotes type arguments next ∧
          (resolveConstructorFrom callChain type arguments false).exec left = (.ok next, later)) ∨
        (∀ next, ¬ graph.Denotes type arguments next) ∧
          ∃ calls, (resolveConstructorFrom callChain type arguments false).exec left
            = (.error (.rejected (.constructorNotFound type arguments calls)), later)) := by
  obtain ⟨answered, readLater⟩ := firstAccepting?_steady arguments false
    (graph.typeAt type).classPart.constructors graph left sound read
  refine ⟨_, read.trans readLater, ?_⟩
  simp only [Denotes, findConstructor_eq_some_iff]
  rw [resolveConstructorFrom, Build.exec_get_bind, Build.exec_lift_bind,
    typeAt_eq_of_bare read.bare, answered]
  cases ((firstAccepting? arguments false (graph.typeAt type).classPart.constructors).exec
    graph).1 with
  | some next => exact .inl ⟨next, rfl, rfl⟩
  | none => exact .inr ⟨nofun, _, rfl⟩

theorem followForwardCalls_of_call {steps : Nat} {chain : List MemberId} {calls : List String}
    {call : ForwardCall} (called : (graph.memberAt last).forwardCall = some call) :
    (followForwardCalls (steps + 1) type last chain calls).exec graph =
      Build.exec (match graph.forwardClass? type call with
        | none =>
            reject (.constructorNotFound type call.arguments (calls ++ [call.describe graph]))
        | some target => do
            let next ← resolveConstructorFrom calls target call.arguments false
            let longer := calls ++ [graph.callText target call.arguments]
            if next ∈ chain then reject (.recursiveConstructorCall target longer)
            else followForwardCalls steps target next (chain ++ [next]) longer) graph := by
  rewrite [followForwardCalls, Build.exec_get_bind, called]
  obtain ⟨aim, arguments⟩ := call
  cases aim <;> rfl

/-- One forward call ends the chain, or extends it. -/
theorem followForwardCalls_step (sound : graph.Sound) (enlisted : graph.Enlisted)
    (read : graph.Reads left) {chain : List MemberId} (trail : graph.Trail start last chain)
    (owner : (graph.memberAt last).definingType = some type) (steps : Nat) (calls : List String) :
    graph.ChainEnds start ((followForwardCalls (steps + 1) type last chain calls).exec left).1 ∨
      ∃ later target next longer, graph.Reads later ∧ graph.Trail start next (chain ++ [next]) ∧
        (graph.memberAt next).definingType = some target ∧
        (followForwardCalls (steps + 1) type last chain calls).exec left
          = (followForwardCalls steps target next (chain ++ [next]) longer).exec later := by
  have sameMember := memberAt_eq_of_bare read.bare last
  cases called : (graph.memberAt last).forwardCall with
  | none =>
      rw [followForwardCalls, Build.exec_get_bind, sameMember, called]
      exact .inl (.resolved trail called)
  | some call =>
      have sameClass : left.forwardClass? type call = graph.forwardClass? type call := by
        simp only [forwardClass?, typeAt_eq_of_bare read.bare]
      rw [followForwardCalls_of_call (sameMember ▸ called), sameClass]
      cases made : graph.forwardClass? type call with
      | none =>
          refine .inl (.notFound trail.reached owner called (by rw [made]; rfl) ?_)
          intro next forwards
          obtain ⟨target, madeAgain, -⟩ := forwards.denoted owner called
          rw [made] at madeAgain
          cases madeAgain
      | some target =>
          obtain ⟨later, readLater, resolving⟩ :=
            resolveConstructorFrom_exec sound read calls target call.arguments
          rcases resolving with ⟨next, denotes, resolved⟩ | ⟨missing, longer, failed⟩
          · have forwards : graph.Forwards last next :=
              ⟨call, type, target, called, owner, made, denotes⟩
            have nextOwner := denotes.definingType enlisted
            rw [Build.exec_bind_of_ok resolved]
            dsimp only
            split
            next again =>
              exact .inl (.recursive trail.reached forwards nextOwner (trail.leads again))
            next fresh =>
              exact .inr ⟨later, target, next, _, readLater, trail.extend forwards fresh,
                nextOwner, rfl⟩
          · rw [Build.exec_bind_of_error failed]
            refine .inl (.notFound trail.reached owner called (by rw [made]; rfl) ?_)
            intro next forwards
            obtain ⟨targetAgain, madeAgain, denotes⟩ := forwards.denoted owner called
            obtain rfl := Option.some.inj (made.symm.trans madeAgain)
            exact missing next denotes

/-- There are steps enough to follow all forward calls: no constructor comes twice in a chain. -/
theorem followForwardCalls_ends (sound : graph.Sound) (enlisted : graph.Enlisted)
    (read : graph.Reads left) {chain : List MemberId} (trail : graph.Trail start last chain)
    (owner : (graph.memberAt last).definingType = some type) {steps : Nat}
    (enough : graph.members.size < steps + chain.length) (calls : List String) :
    graph.ChainEnds start ((followForwardCalls steps type last chain calls).exec left).1 := by
  induction steps generalizing left last type chain calls with
  | zero =>
      have short := trail.length_le owner
      omega
  | succ steps ih =>
      rcases followForwardCalls_step sound enlisted read trail owner steps calls with
        ended | ⟨later, target, next, longer, readLater, extended, nextOwner, goesOn⟩
      · exact ended
      · rw [goesOn]
        refine ih readLater extended nextOwner ?_ longer
        rw [List.length_append, List.length_singleton]
        omega

theorem constructorChain_ends (sound : graph.Sound) (enlisted : graph.Enlisted)
    {constructor : MemberId}
    (declared : constructor ∈ (graph.typeAt type).classPart.constructors) :
    graph.ChainEnds constructor ((constructorChain type constructor).exec graph).1 := by
  obtain ⟨owner, ofKind⟩ := enlisted type .constructor constructor declared
  rw [constructorChain, Build.exec_get_bind]
  dsimp only
  rw [if_neg (not_not_intro ofKind)]
  refine followForwardCalls_ends sound enlisted (.refl sound) (.single graph constructor) owner ?_ _
  rw [List.length_singleton]
  omega

/-! ## What the outcomes say -/

namespace Graph.ChainEnds

variable {outcome : Except Failure (List MemberId)}

/-- The chain is resolved exactly if some call in it reaches a constructor without one. -/
theorem exists_ok_iff (ends : graph.ChainEnds start outcome) :
    (∃ chain, outcome = .ok chain) ↔
      ∃ last, ReflTransGen graph.Forwards start last ∧
        (graph.memberAt last).forwardCall = none := by
  cases ends with
  | @resolved last chain trail final =>
      exact ⟨fun _ => ⟨last, trail.reached, final⟩, fun _ => ⟨chain, rfl⟩⟩
  | notFound path owner called made stuck =>
      refine ⟨nofun, ?_⟩
      rintro ⟨final, reached, noCall⟩
      obtain rfl := eq_of_no_step (forwards_rightUnique graph) path stuck reached fun _ =>
        not_forwards_of_none noCall
      rw [called] at noCall
      cases noCall
  | recursive path forwards owner back =>
      refine ⟨nofun, ?_⟩
      rintro ⟨final, reached, noCall⟩
      obtain ⟨later, goesOn⟩ :=
        exists_step_of_cycle (forwards_rightUnique graph) path forwards back reached
      exact absurd goesOn (not_forwards_of_none noCall)

/-- Recursion is reported exactly if every call in the chain denotes another one. -/
theorem exists_recursive_iff (ends : graph.ChainEnds start outcome) :
    (∃ type calls, outcome = .error (.rejected (.recursiveConstructorCall type calls))) ↔
      ∀ last, ReflTransGen graph.Forwards start last → ∃ next, graph.Forwards last next := by
  cases ends with
  | resolved trail final =>
      refine ⟨nofun, fun goesOn => ?_⟩
      obtain ⟨next, forwards⟩ := goesOn _ trail.reached
      exact absurd forwards (not_forwards_of_none final)
  | notFound path owner called made stuck =>
      refine ⟨nofun, fun goesOn => ?_⟩
      obtain ⟨next, forwards⟩ := goesOn _ path
      exact absurd forwards (stuck next)
  | recursive path forwards owner back =>
      exact ⟨fun _ _ => exists_step_of_cycle (forwards_rightUnique graph) path forwards back,
        fun _ => ⟨_, _, rfl⟩⟩

/-- The class that is reported for a recursion is one in which calls form a cycle. -/
theorem exists_cycle (ends : graph.ChainEnds start outcome) (acyclic : graph.Acyclic)
    (enlisted : graph.Enlisted) {calls : List String}
    (reported : outcome = .error (.rejected (.recursiveConstructorCall type calls))) :
    ∃ constructor, ReflTransGen graph.Forwards start constructor ∧
      TransGen (graph.ForwardsWithin type) constructor constructor := by
  cases ends with
  | resolved | notFound => cases reported
  | @recursive last next target calls path forwards owner back =>
      cases reported
      obtain ⟨within, cycle⟩ :=
        exists_forwardsWithin_of_cycle acyclic enlisted (TransGen.tail' back forwards)
      obtain ⟨other, first, -⟩ := TransGen.head'_iff.mp cycle
      obtain rfl := Option.some.inj (first.owner.symm.trans owner)
      exact ⟨next, path.tail forwards, cycle⟩

/-- A resolved chain is the path that following forward calls takes. -/
theorem exists_trail (ends : graph.ChainEnds start outcome) {chain : List MemberId}
    (found : outcome = .ok chain) :
    ∃ last, graph.Trail start last chain ∧ (graph.memberAt last).forwardCall = none := by
  cases ends with
  | resolved trail final =>
      cases found
      exact ⟨_, trail, final⟩
  | notFound | recursive => cases found

/-- What fails without a recursion is a forward call that denotes nothing. -/
theorem recursive_or_notFound (ends : graph.ChainEnds start outcome) {failure : Failure}
    (failed : outcome = .error failure) :
    (∃ target calls, failure = .rejected (.recursiveConstructorCall target calls)) ∨
      ∃ last call target calls, ReflTransGen graph.Forwards start last ∧
        (graph.memberAt last).forwardCall = some call ∧ (∀ next, ¬ graph.Forwards last next) ∧
        failure = .rejected (.constructorNotFound target call.arguments calls) := by
  cases ends with
  | resolved => cases failed
  | notFound path owner called made stuck =>
      cases failed
      exact .inr ⟨_, _, _, _, path, called, stuck, rfl⟩
  | recursive =>
      cases failed
      exact .inl ⟨_, _, rfl⟩

end Graph.ChainEnds

/-- After every run, the chain of every constructor that a class declares is resolved without
aborting.  It is found exactly if following forward calls reaches a constructor without one; it then
leads there from the given constructor, each constructor forwarding to the next, and none comes
twice.  Recursion is reported exactly if following forward calls never ends, and only for a class in
which calls of its own constructors form a cycle.  Otherwise a forward call denotes nothing, and the
constructor that it asks for is reported. -/
theorem constructorChain_after {run : List Operation} (admitted : ({} : Graph).admits run = true)
    {type : TypeId} {constructor : MemberId}
    (declared : constructor ∈ ((({} : Graph).after run).typeAt type).classPart.constructors) :
    let graph := ({} : Graph).after run
    let outcome := ((constructorChain type constructor).exec graph).1
    ((∃ chain, outcome = .ok chain) ↔
      ∃ last, ReflTransGen graph.Forwards constructor last ∧
        (graph.memberAt last).forwardCall = none) ∧
    (∀ chain, outcome = .ok chain →
      chain.head? = some constructor ∧ chain.Nodup ∧ chain.IsChain graph.Forwards ∧
        ∃ last, chain.getLast? = some last ∧ (graph.memberAt last).forwardCall = none) ∧
    ((∃ target calls,
        outcome = .error (.rejected (.recursiveConstructorCall target calls))) ↔
      ∀ last, ReflTransGen graph.Forwards constructor last → ∃ next, graph.Forwards last next) ∧
    (∀ target calls, outcome = .error (.rejected (.recursiveConstructorCall target calls)) →
      ∃ again, ReflTransGen graph.Forwards constructor again ∧
        TransGen (graph.ForwardsWithin target) again again) ∧
    ∀ failure, outcome = .error failure →
      (∃ target calls, failure = .rejected (.recursiveConstructorCall target calls)) ∨
        ∃ last call target calls, ReflTransGen graph.Forwards constructor last ∧
          (graph.memberAt last).forwardCall = some call ∧ (∀ next, ¬ graph.Forwards last next) ∧
          failure = .rejected (.constructorNotFound target call.arguments calls) := by
  intro graph outcome
  have sound : graph.Sound := sound_after admitted
  have enlisted : graph.Enlisted := enlisted_start.after sound_start admitted
  have ends : graph.ChainEnds constructor outcome :=
    constructorChain_ends sound enlisted declared
  refine ⟨ends.exists_ok_iff, ?_, ends.exists_recursive_iff, ?_, fun _ =>
    ends.recursive_or_notFound⟩
  · intro chain found
    obtain ⟨last, trail, final⟩ := ends.exists_trail found
    exact ⟨trail.begins, trail.distinct, trail.links, last, trail.ends, final⟩
  · intro target calls reported
    exact ends.exists_cycle sound.wellFormed.hierarchical.acyclic enlisted reported

/-- A class whose constructors call each other without end, or call what is not there, below one
that has a constructor for integers. -/
def loopedCalls : List Operation :=
  let asking (kind : Primitive) : List Parameter :=
    [{ name := "x", type := some (.primitive kind) }]
  let calling (target : ForwardTarget) (kinds : List Primitive) : Option ForwardCall :=
    some { target, arguments := kinds.map (some <| .primitive ·) }
  [.openArena {}, .newClass 0 "Base" "m" .pub {}, .newClass 0 "Loop" "m" .pub {},
    .setParent 1 (some 0),
    .newMember (.constructor none .pub (asking .int)), .declareMember 0 (some 0) false,
    .newMember (.constructor none .pub [] (calling .parentClass [.int])),
    .declareMember 1 (some 1) false,
    .newMember (.constructor none .pub (asking .int) (calling .ownClass [.long])),
    .declareMember 1 (some 2) false,
    .newMember (.constructor none .pub (asking .long) (calling .ownClass [.int])),
    .declareMember 1 (some 3) false,
    .newMember (.constructor none .pub (asking .bool) (calling .parentClass [])),
    .declareMember 1 (some 4) false]

/-- One constructor leads to the parent, the next one around a loop, and the last one nowhere. -/
theorem constructorChain_after_loopedCalls :
    let graph := ({} : Graph).after loopedCalls
    ({} : Graph).admits loopedCalls = true ∧
      (graph.typeAt 1).classPart.constructors = [1, 2, 3, 4] ∧
      (∃ last, ReflTransGen graph.Forwards 1 last ∧ (graph.memberAt last).forwardCall = none) ∧
      (∃ again, ReflTransGen graph.Forwards 2 again ∧
        TransGen (graph.ForwardsWithin 1) again again) ∧
      ∃ last, ReflTransGen graph.Forwards 4 last ∧ ∀ next, ¬ graph.Forwards last next := by
  intro graph
  have admitted : ({} : Graph).admits loopedCalls = true := by
    decide +kernel
  have declared : (graph.typeAt 1).classPart.constructors = [1, 2, 3, 4] := by
    decide +kernel
  have listed : ∀ constructor ∈ [1, 2, 3, 4],
      constructor ∈ (graph.typeAt 1).classPart.constructors := by
    rw [declared]
    exact fun _ => id
  have upwards := constructorChain_after admitted (listed 1 (by decide))
  have around := constructorChain_after admitted (listed 2 (by decide))
  have nowhere := constructorChain_after admitted (listed 4 (by decide))
  refine ⟨admitted, declared, ?_, ?_, ?_⟩
  · exact upwards.1.mp ⟨[1, 0], by decide +kernel⟩
  · refine around.2.2.2.1 1 ["m.Loop(int)", "m.Loop(long)", "m.Loop(int)"] ?_
    decide +kernel
  · have failed : ((constructorChain 1 4).exec graph).1 = .error
        (.rejected (.constructorNotFound 0 [] ["m.Loop(bool)", "m.Base()"])) := by
      decide +kernel
    rcases nowhere.2.2.2.2 _ failed with
      ⟨target, calls, reported⟩ | ⟨last, call, target, calls, path, called, stuck, -⟩
    · cases reported
    · exact ⟨last, path, stuck⟩

end Nominal
