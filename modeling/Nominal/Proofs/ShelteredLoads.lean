import Nominal.Proofs.NamedSupertypes
import Nominal.Proofs.ShelteredWork

/-!
# Types of a loaded module

A type is sheltered if it may mention everything that it is linked to and everything that its
members mention.  The types of a module are sheltered when it is loaded, and nothing that is done
later takes that away.
-/

namespace Nominal

open Nominal.Graph

/-! ## Links -/

section Links

variable {resolver : Resolver} {graph : Graph} {self other : TypeId}
  {declaration : TypeDeclaration}

theorem mayMention_of_kindFailure? {isClass : Bool} {name : String}
    (accepted : resolver.kindFailure? graph self isClass name = none) :
    graph.MayMention self (.nominal (resolver.denoted name)) := by
  rw [Resolver.kindFailure?, Option.or_eq_none_iff] at accepted
  exact mayMention_of_nameFailure? accepted.1

/-- A class may mention its parent, also if that is the root class. -/
theorem mayMention_of_parentFailure?
    (accepted : resolver.parentFailure? graph self declaration = none) :
    graph.MayMention self (.nominal (resolver.declaredParent declaration)) := by
  rw [Resolver.parentFailure?, Option.or_eq_none_iff, Option.map_eq_none_iff] at accepted
  have checked := accepted.2
  unfold parentError? at checked
  split at checked
  · cases checked
  · split at checked
    · cases checked
    · exact checked

theorem mayMention_of_supertypesFailure?
    (accepted : resolver.supertypesFailure? graph self declaration = none)
    (declared : other ∈ resolver.declaredSupertypes declaration) :
    graph.MayMention self (.nominal other) := by
  rw [Resolver.supertypesFailure?, Option.or_eq_none_iff] at accepted
  rw [Resolver.declaredSupertypes, List.mem_append] at declared
  rcases declared with asParent | asInterface
  · cases isInterface : declaration.isInterface with
    | true =>
        rw [isInterface] at asParent
        cases asParent
    | false =>
        rw [isInterface] at asParent accepted
        obtain rfl := List.mem_singleton.mp asParent
        exact mayMention_of_parentFailure? accepted.1
  · obtain ⟨name, listed, rfl⟩ := List.mem_map.mp asInterface
    have here := List.findSome?_eq_none_iff.mp accepted.2 name listed
    rw [Resolver.interfaceFailure?, Option.or_eq_none_iff] at here
    exact mayMention_of_kindFailure? here.1

/-- The extension classes that a declaration asks for, and the classes of its annotations. -/
def Resolver.declaredParts (resolver : Resolver) (declaration : TypeDeclaration) : List TypeId :=
  declaration.extensions.map resolver.denoted
    ++ declaration.annotations.map fun mark => resolver.denoted mark.type

theorem mayMention_of_partsFailure?
    (accepted : resolver.partsFailure? graph self declaration = none)
    (declared : other ∈ resolver.declaredParts declaration) :
    graph.MayMention self (.nominal other) := by
  rw [Resolver.partsFailure?, Option.or_eq_none_iff] at accepted
  rcases List.mem_append.mp declared with asExtension | asMark
  · obtain ⟨name, listed, rfl⟩ := List.mem_map.mp asExtension
    exact mayMention_of_kindFailure? (List.findSome?_eq_none_iff.mp accepted.1 name listed)
  · obtain ⟨mark, listed, rfl⟩ := List.mem_map.mp asMark
    have here := List.findSome?_eq_none_iff.mp accepted.2 mark listed
    rw [Resolver.annotationFailure?, Option.or_eq_none_iff] at here
    exact mayMention_of_kindFailure? here.1

/-- What a declaration links to is there. -/
theorem lt_size_of_mem_declared (hosted : resolver.Hosted graph)
    (supertypes : resolver.FindsSupertypes declaration) (parts : resolver.FindsParts declaration)
    (declared : other ∈ resolver.declaredSupertypes declaration
      ++ resolver.declaredParts declaration) : other < graph.types.size := by
  rcases List.mem_append.mp declared with asSupertype | asPart
  · rcases exists_supertypeName supertypes asSupertype with isRoot | ⟨name, -, denotes⟩
    · exact lt_size_of_isClass (hosted.builtin isRoot)
    · exact hosted.denoted denotes
  · rcases List.mem_append.mp asPart with asExtension | asMark
    · obtain ⟨name, listed, rfl⟩ := List.mem_map.mp asExtension
      exact hosted.denoted (parts.extensions name listed)
    · obtain ⟨mark, listed, rfl⟩ := List.mem_map.mp asMark
      exact hosted.denoted (parts.annotations mark listed)

/-- A linked stub has the supertypes that its declaration asks for. -/
theorem mem_supertypes_withSupertypes {scope : Scope} {arena : ArenaId} {index : Nat}
    (listed : other ∈
      (resolver.withSupertypes declaration (declaration.stub scope arena index)).supertypes) :
    other ∈ resolver.declaredSupertypes declaration := by
  have part := Resolver.withSupertypes_classPart resolver declaration
    (declaration.isClass_stub scope arena index)
  rw [NominalType.supertypes, NominalType.parent?, part, Resolver.withSupertypes_interfaces,
    List.mem_append, mem_listedOnce] at listed
  rw [Resolver.declaredSupertypes, List.mem_append]
  rcases listed with asParent | impossible | asInterface
  · left
    cases isInterface : declaration.isInterface with
    | true => simp [isInterface, TypeDeclaration.stub, NominalType.classPart] at asParent
    | false => simpa [isInterface] using asParent
  · cases impossible
  · exact .inr asInterface

/-- A linked stub is linked to what its declaration asks for. -/
theorem mem_headerTypes_linked {scope : Scope} {arena : ArenaId} {index : Nat}
    (listed : other ∈
      (resolver.linked declaration (declaration.stub scope arena index)).headerTypes) :
    other ∈ resolver.declaredSupertypes declaration ++ resolver.declaredParts declaration := by
  obtain ⟨extensionClasses, annotations, -⟩ := resolver.withSupertypes_body declaration
    (declaration.stub scope arena index)
  have stubExtensions : (declaration.stub scope arena index).extensionClasses = [] := rfl
  have stubAnnotations : (declaration.stub scope arena index).annotations = [] := rfl
  rw [Resolver.linked, Resolver.withParts, NominalType.headerTypes] at listed
  simp only [extensionClasses, annotations, stubExtensions, stubAnnotations, List.nil_append,
    List.mem_append] at listed
  rw [Resolver.declaredParts, List.mem_append, List.mem_append]
  rcases listed with (asSupertype | asExtension) | asMark
  · exact .inl (mem_supertypes_withSupertypes asSupertype)
  · exact .inr (.inl asExtension)
  · right; right
    simpa [Resolver.declaredUse] using asMark

/-- A linked stub has no members. -/
theorem allMembers_linked (resolver : Resolver) (declaration : TypeDeclaration) (scope : Scope)
    (arena : ArenaId) (index : Nat) :
    (resolver.linked declaration (declaration.stub scope arena index)).allMembers = [] := by
  have memberless : (declaration.stub scope arena index).allMembers = [] := by
    unfold NominalType.allMembers TypeDeclaration.stub
    cases declaration.isInterface <;> rfl
  rw [← memberless]
  apply NominalType.allMembers_congr
  · exact resolver.withSupertypes_declared declaration _
  · intro kind
    have part := Resolver.withSupertypes_classPart resolver declaration
      (declaration.isClass_stub scope arena index)
    change ClassPart.listed (resolver.withSupertypes declaration _).classPart kind = _
    rw [part]
    split
    · rfl
    · cases kind <;> rfl

end Links

/-! ## Sheltered types -/

namespace Graph

/-- A type may mention everything that it is linked to and everything that its members mention. -/
structure Shelters (graph : Graph) (type : TypeId) : Prop where
  header : ∀ other ∈ (graph.typeAt type).headerTypes,
    other < graph.types.size ∧ graph.MayMention type (.nominal other)
  members : graph.SheltersMembers type

section Shelters

variable {farm : Farm} {graph left : Graph} {type other : TypeId}

theorem KeepsNames.of_sameTypes (same : graph.SameTypes left) : graph.KeepsNames left :=
  ⟨Nat.le_of_eq same.size.symm, fun type _ => same.identity type⟩

theorem KeepsNames.mayMention_nominal (keeps : graph.KeepsNames left)
    (present : type < graph.types.size) (there : other < graph.types.size)
    (allowed : graph.MayMention type (.nominal other)) : left.MayMention type (.nominal other) :=
  keeps.mayMention present (decide_eq_true there) allowed

theorem KeepsShelter.shelters (keeps : graph.KeepsShelter farm left)
    (present : type < graph.types.size) (shelters : graph.Shelters type) : left.Shelters type where
  header other listed := by
    rw [keeps.header] at listed
    obtain ⟨there, allowed⟩ := shelters.header other listed
    exact ⟨Nat.lt_of_lt_of_le there keeps.names.grows,
      keeps.names.mayMention_nominal present there allowed⟩
  members := keeps.members type present shelters.members

/-- Types that were there before a load are sheltered as before. -/
theorem Shelters.of_grows (shelters : graph.Shelters type) (grows : graph.Grows farm left)
    (present : type < graph.types.size) : left.Shelters type where
  header other listed := by
    rw [grows.types present] at listed
    obtain ⟨there, allowed⟩ := shelters.header other listed
    exact ⟨Nat.lt_of_lt_of_le there grows.size,
      KeepsNames.mayMention_nominal (.of_grows grows) present there allowed⟩
  members := by
    apply shelters.members.later (.of_grows grows) present grows.memberCount
    · intro member old
      rw [grows.members old]
    · intro member listed
      rw [grows.types present] at listed
      exact .inl listed

end Shelters

end Graph

/-! ## After the stubs -/

section Work

variable {resolver : Resolver} {base graph left linked : Graph} {pending : List PendingType}

/-- Completing types shelters what was sheltered before, and keeps array types tame. -/
theorem completeTypes_keepsShelter {order : List Nat} (apart : (pending.map (·.type)).Nodup)
    (ordered : order.Nodup) (unfinished : AllUnfinished resolver base pending order linked)
    (grows : base.Grows resolver.farm linked) (plain : resolver.Plain linked)
    (arrays : linked.TameArrays resolver.farm)
    (distinct : ((completeTypes resolver pending order).exec linked).2.DistinctNames) :
    linked.KeepsShelter resolver.farm ((completeTypes resolver pending order).exec linked).2 := by
  let holds (left : Graph) : Prop :=
    resolver.Plain left ∧ (left.DistinctNames → linked.KeepsShelter resolver.farm left)
  have start : holds linked := ⟨plain, fun _ => .refl grows.houses.interned⟩
  suffices each : ∀ entry left, Unfinished resolver base entry left → holds left →
      holds ((completeType resolver entry).exec left).2 from
    (completeTypes_keeps each apart ordered unfinished grows start).2.2 distinct
  intro entry left here ⟨plainLeft, keeps⟩
  obtain ⟨-, frame, -⟩ := completeType_work here
  have names := (KeepsNames.of_frame frame).1
  refine ⟨plainLeft.later here.piece.hosted names, ?_⟩
  intro distinctLast
  have distinctLeft := names.distinctNames distinctLast
  have before := keeps distinctLeft
  exact before.trans
    (completeType_keepsShelter here plainLeft distinctLeft (before.arrays arrays))

/-- However the rest of a load ends, array types stay tame. -/
theorem finishModule_tameArrays (stubbed : Stubbed resolver base pending graph)
    (hosted : resolver.Hosted graph) (plain : resolver.Plain graph)
    (arrays : graph.TameArrays resolver.farm)
    (distinct : ((finishModule resolver pending).exec graph).2.DistinctNames) :
    ((finishModule resolver pending).exec graph).2.TameArrays resolver.farm := by
  obtain ⟨linked, grows, -, arenas, nothing, complete, ran⟩ := finishModule_exec stubbed
  have names := KeepsNames.of_keepsSealed nothing.keeps
  have arraysLinked : linked.TameArrays resolver.farm :=
    arrays.later names hosted.interned (by rw [arenaAt, arenas, arenaAt])
  rw [ran] at distinct ⊢
  cases accepted : resolver.linksFailure? graph pending with
  | some failure => exact arraysLinked
  | none =>
      rw [accepted] at distinct
      rw [Option.elim_none] at distinct ⊢
      cases plan : completionPlan (pending.map (resolver.dependencies graph pending)) with
      | error cycle => exact arraysLinked
      | ok order =>
          rw [plan] at distinct
          obtain ⟨ordered, -⟩ := DependencyGraph.ordered_of_solve plan
          have unfinished : AllUnfinished resolver base pending order linked :=
            fun _ _ entry found => (complete accepted).2 entry (List.mem_of_getElem? found)
          exact (completeTypes_keepsShelter stubbed.distinct ordered.nodup unfinished grows
            (plain.later hosted names) arraysLinked distinct).arrays arraysLinked

end Work

/-! ## The whole load -/

section Load

variable {farm : Farm} {serial : Nat} {imports : List Module} {declaration : ModuleDeclaration}
  {graph left stubs linked : Graph} {order : List Nat}

/-- The names that the declarations of a module may use are plain. -/
theorem plain_loadResolver (houses : graph.Houses farm) (named : declaration.name ≠ "")
    (distinct : (declaration.types.map (·.name)).Nodup) (grows : graph.Grows farm stubs)
    (same : stubs.bare = (graph.withStubs (.ofModule serial declaration.name) farm.arena
      declaration.types).bare)
    (offers : graph.Offers farm)
    (registered : ∀ imported ∈ imports, imported.Registered graph) :
    (loadResolver farm serial imports declaration graph.types.size).Plain stubs := by
  have names : graph.KeepsNames stubs := .of_grows grows
  apply Resolver.plain_of_registered (registered_of_stubs houses named distinct same)
  · exact offers.later (fun found => lt_size_of_isSealed (houses.builtin found).2) names
  · intro name types found
    have parts := withTypes_parts (Module.importing serial declaration.name imports)
      graph.types.size declaration.types
    unfold loadResolver at found
    rw [parts.1] at found
    obtain ⟨imported, listed, same⟩ := mem_of_importing found
    exact ⟨imported, same, (registered imported listed).later names⟩

/-- However a load ends, array types stay tame. -/
theorem loadModule_tameArrays (serial : Nat) (houses : graph.Houses farm)
    (complete : ∀ imported ∈ imports, imported.Complete graph)
    (offers : graph.Offers farm)
    (registered : ∀ imported ∈ imports, imported.Registered graph)
    (arrays : graph.TameArrays farm)
    (distinct : ((loadModule farm serial imports declaration).exec graph).2.DistinctNames) :
    ((loadModule farm serial imports declaration).exec graph).2.TameArrays farm := by
  by_cases named : declaration.name = ""
  · rw [loadModule_exec_unnamed farm serial imports named]
    exact arrays
  · obtain ⟨free, capacity⟩ := Nat.exists_eq_add_of_le houses.room
    obtain ⟨stubs, grows, -, ready, ran, -, keptArrays, -⟩ :=
      @loadModule_exec graph farm serial free imports declaration houses complete named
        capacity.symm
    have arraysStubs : stubs.TameArrays farm :=
      arrays.later (.of_grows grows) houses.interned keptArrays
    rw [ran] at distinct ⊢
    cases accepted : declarationsFailure? declaration.name free [] declaration.types with
    | some failure => exact arraysStubs
    | none =>
        rw [accepted] at distinct
        obtain ⟨same, apart, stubbed⟩ := ready accepted
        exact finishModule_tameArrays stubbed
          (hosted_of_withStubs houses complete apart grows same)
          (plain_loadResolver houses named apart grows same offers registered)
          arraysStubs distinct

/-- A type may mention what it has been linked to. -/
theorem Finishes.mayMention {resolver : Resolver} {pending : List PendingType}
    (finishes : Finishes resolver graph pending stubs left linked order) {entry : PendingType}
    (waiting : entry ∈ pending) (hosted : resolver.Hosted stubs)
    (present : entry.type < stubs.types.size) {other : TypeId}
    (declared : other ∈ resolver.declaredSupertypes entry.declaration
      ++ resolver.declaredParts entry.declaration) :
    other < linked.types.size ∧ linked.MayMention entry.type (.nominal other) := by
  obtain ⟨before, after, -, supertypes, parts⟩ :=
    exists_split_of_linksFailure? finishes.accepted waiting
  have there := lt_size_of_mem_declared hosted (Resolver.findsSupertypes supertypes)
    (Resolver.findsParts parts) declared
  have later : stubs.KeepsNames linked := .of_keepsSealed finishes.nothing.keeps
  refine ⟨Nat.lt_of_lt_of_le there later.grows, ?_⟩
  -- each link was checked in a graph with some of the links only
  have transfer : ∀ checked : Graph, stubs.SameTypes checked →
      checked.MayMention entry.type (.nominal other) →
      linked.MayMention entry.type (.nominal other) := by
    intro checked same allowed
    have names : checked.KeepsNames linked := (KeepsNames.of_sameTypes same.symm).trans later
    exact names.mayMention_nominal (same.size ▸ present) (same.size ▸ there) allowed
  rcases List.mem_append.mp declared with asSupertype | asPart
  · exact transfer _ (sameTypes_withLinks before)
      (mayMention_of_supertypesFailure? supertypes asSupertype)
  · exact transfer _ (sameTypes_withNextSupertypes before entry)
      (mayMention_of_partsFailure? parts asPart)

/-- A type that has been linked is sheltered; it has no members yet. -/
theorem Loads.shelters_linked
    (loads : Loads farm serial imports declaration graph left stubs linked order)
    (houses : graph.Houses farm) {entry : PendingType}
    (listed : entry ∈ pendingFrom graph.types.size declaration.types) :
    linked.Shelters entry.type := by
  obtain ⟨-, present, index, isStub⟩ := stub_of_mem_pendingFrom houses.arena loads.same listed
  have links : linked.typeAt entry.type = (loadResolver farm serial imports declaration
      graph.types.size).linked entry.declaration
        (entry.declaration.stub (.ofModule serial declaration.name) farm.arena index) := by
    rw [typeAt_eq_of_bare loads.finishes.links,
      typeAt_withLinks loads.stubbed.distinct listed present, isStub]
  constructor
  · intro other inHeader
    rw [links] at inHeader
    exact loads.finishes.mayMention listed (loads.stubbed.ready entry listed).piece.hosted present
      (mem_headerTypes_linked inHeader)
  · intro member isListed
    rw [links, allMembers_linked] at isListed
    cases isListed

/-- The types of a loaded module are sheltered, unless two types have the same name. -/
theorem Loads.shelters
    (loads : Loads farm serial imports declaration graph left stubs linked order)
    (houses : graph.Houses farm) (complete : ∀ imported ∈ imports, imported.Complete graph)
    (offers : graph.Offers farm)
    (registered : ∀ imported ∈ imports, imported.Registered graph)
    (arrays : graph.TameArrays farm) (distinct : left.DistinctNames) {entry : PendingType}
    (listed : entry ∈ pendingFrom graph.types.size declaration.types) :
    left.Shelters entry.type := by
  have finishes := loads.finishes
  have grows := loads.stubbed.grows
  have hosted := hosted_of_withStubs houses complete loads.distinct grows loads.same
  have plain := plain_loadResolver houses loads.named loads.distinct grows loads.same offers
    registered
  have names : stubs.KeepsNames linked := .of_keepsSealed finishes.nothing.keeps
  have arraysStubs : stubs.TameArrays farm := by
    apply arrays.later (.of_grows grows) houses.interned
    rw [arenaAt, arenas_eq_of_bare loads.same, ← arenaAt, (arenaAt_withStubs _ _ farm.arena).2]
  have arraysLinked : linked.TameArrays farm := by
    apply arraysStubs.later names hosted.interned
    rw [arenaAt, arenas_eq_of_bare finishes.links, arenas_withLinks, arenaAt]
  have ran := completeTypes_eq_ok_iff.mpr finishes.completes
  have keeps := completeTypes_keepsShelter loads.stubbed.distinct finishes.order.1
    finishes.allUnfinished finishes.grows (plain.later hosted names) arraysLinked
    (by rw [ran]; exact distinct)
  rw [ran] at keeps
  obtain ⟨-, present, -⟩ := stub_of_mem_pendingFrom houses.arena loads.same listed
  exact keeps.shelters (Nat.lt_of_lt_of_le present names.grows)
    (loads.shelters_linked houses listed)

end Load

end Nominal
