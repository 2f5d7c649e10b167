import Nominal.Proofs.FailedLoads
import Nominal.Proofs.NamedSupertypes
import Nominal.Proofs.ReorderedWork

/-!
# Declarations in another order

A module can be declared with its types in another order.  It is accepted in both orders or in none,
and its types are the same up to their places.  That holds under two conditions.  An annotation
class and everything above it is declared before the types that use it, because annotations are
checked while types are being linked.  And the supertypes that the module declares itself have names
in composed form; otherwise they do not count as dependencies, and a type can be completed before
them.
-/

namespace Nominal

open Nominal.Graph

/-! ## The stubs -/

section Accepted

variable {moduleName : String} {known : List String} {declarations : List TypeDeclaration}

theorem TypeDeclaration.error?_eq_none_iff {declaration : TypeDeclaration} {isKnown : Bool} :
    declaration.error? isKnown = none ↔ isKnown = false ∧ declaration.error? false = none := by
  cases isKnown with
  | false => simp
  | true => simp [declaration.error?_known]

/-- Stubs are made if each declaration is in order, the names are different and there is room. -/
theorem declarationsFailure?_eq_none_iff {free : Nat} :
    declarationsFailure? moduleName free known declarations = none ↔
      (∀ declared ∈ declarations, declared.error? false = none ∧ declared.name ∉ known) ∧
        (declarations.map (·.name)).Nodup ∧ declarations.length ≤ free := by
  induction declarations generalizing free known with
  | nil => simp [declarationsFailure?]
  | cons declaration rest ih =>
      rw [declarationsFailure?]
      cases refused : declaration.error? (known.contains declaration.name) with
      | some error =>
          have faulty : ¬ (declaration.error? false = none ∧ declaration.name ∉ known) := by
            rintro ⟨fine, fresh⟩
            have unknown : known.contains declaration.name = false := by simpa using fresh
            rw [unknown, fine] at refused
            cases refused
          simp only [reduceCtorEq, List.forall_mem_cons, false_iff]
          exact fun accepted => faulty accepted.1.1
      | none =>
          obtain ⟨unknown, fine⟩ := TypeDeclaration.error?_eq_none_iff.mp refused
          have fresh : declaration.name ∉ known := by simpa using unknown
          dsimp only
          by_cases full : free = 0
          · simp [full]
          · rw [if_neg full, ih]
            simp only [List.forall_mem_cons, List.map_cons, List.nodup_cons, List.length_cons,
              List.mem_append, List.mem_singleton, List.mem_map]
            grind

theorem declarationsFailure?_eq_none_of_perm {others : List TypeDeclaration} {free : Nat}
    (same : declarations.Perm others)
    (accepted : declarationsFailure? moduleName free known declarations = none) :
    declarationsFailure? moduleName free known others = none := by
  rw [declarationsFailure?_eq_none_iff] at accepted ⊢
  obtain ⟨each, distinct, room⟩ := accepted
  exact ⟨fun declared listed => each declared (same.symm.subset listed),
    (same.map (·.name)).nodup_iff.mp distinct, same.length_eq ▸ room⟩

theorem exists_rearranged {declaration image : ModuleDeclaration}
    (name : image.name = declaration.name) (same : declaration.types.Perm image.types)
    (distinct : (declaration.types.map (·.name)).Nodup) :
    ∃ places, Rearranged declaration image places := by
  have each : ∀ place : Nat, ∃ shown : Nat, ∀ declared, declaration.types[place]? = some declared →
      image.types[shown]? = some declared := by
    intro place
    cases found : declaration.types[place]? with
    | none => exact ⟨0, fun _ impossible => nomatch impossible⟩
    | some declared =>
        obtain ⟨shown, there⟩ :=
          List.mem_iff_getElem?.mp (same.subset (List.mem_of_getElem? found))
        refine ⟨shown, ?_⟩
        rintro _ ⟨⟩
        exact there
  choose places found using each
  exact ⟨places, name, distinct, (same.map (·.name)).nodup_iff.mp distinct,
    fun here => found _ _ here, fun _ listed => same.symm.subset listed⟩

theorem mem_pendingFrom_iff {first : TypeId} {entry : PendingType} :
    entry ∈ pendingFrom first declarations ↔ ∃ place declared,
      declarations[place]? = some declared ∧ PendingType.mk declared (first + place) = entry := by
  simp only [List.mem_iff_getElem?, getElem?_pendingFrom, Option.map_eq_some_iff]

end Accepted

namespace Mirror.ShowsResolver

variable {mirror : Mirror} {resolver image : Resolver}
  (names : mirror.ShowsResolver resolver image) {declaration : TypeDeclaration}

include names

theorem denotesImage {name : String} (denotes : resolver.Denotes name (resolver.denoted name)) :
    image.Denotes name (image.denoted name) := by
  rw [Resolver.Denotes, names.denotes, denotes, (names.denoted denotes).2]
  rfl

theorem findsSupertypes (finds : resolver.FindsSupertypes declaration) :
    image.FindsSupertypes declaration where
  root isClass rooted := by
    have found := finds.root isClass rooted
    rw [Resolver.builtin, names.farm, found]
    rfl
  parent isClass named := names.denotesImage (finds.parent isClass named)
  interfaces name listed := names.denotesImage (finds.interfaces name listed)

theorem findsParts (finds : resolver.FindsParts declaration) : image.FindsParts declaration :=
  ⟨fun name listed => names.denotesImage (finds.extensions name listed),
    fun mark listed => names.denotesImage (finds.annotations mark listed)⟩

end Mirror.ShowsResolver

namespace StubbedTwice

variable {farm : Farm} {imports : List Module} {declaration image : ModuleDeclaration}
  {places : Nat → Nat} {serial : Nat} {graph stubs imageStubs : Graph}
  (twice : StubbedTwice farm imports declaration image places serial serial graph graph stubs
    imageStubs)

include twice

theorem mem_pending_iff (exact : Prop) {shown : PendingType} :
    shown ∈ (pendingFrom graph.types.size declaration.types).map (twice.mirror exact).showsEntry ↔
      shown ∈ pendingFrom graph.types.size image.types := by
  rw [List.mem_map, mem_pendingFrom_iff]
  constructor
  · rintro ⟨entry, listed, rfl⟩
    obtain ⟨place, declared, found, rfl⟩ := mem_pendingFrom_iff.mp listed
    exact ⟨places place, declared, twice.rearranged.found found,
      (congrArg (PendingType.mk declared) (twice.rename_new place)).symm⟩
  · rintro ⟨shownPlace, declared, found, rfl⟩
    obtain ⟨place, here⟩ := List.mem_iff_getElem?.mp
      (twice.rearranged.covered declared (List.mem_of_getElem? found))
    have there := twice.rearranged.found here
    have inRange := (List.getElem?_eq_some_iff.mp found).1
    have same : shownPlace = places place :=
      (List.getElem?_inj (by rwa [List.length_map]) twice.rearranged.imageDistinct).mp
        (show (image.types.map (·.name))[shownPlace]? = (image.types.map (·.name))[places place]? by
          simp [found, there])
    refine ⟨⟨declared, graph.types.size + place⟩, mem_pendingFrom_iff.mpr
      ⟨place, declared, here, rfl⟩, ?_⟩
    rw [same]
    exact congrArg (PendingType.mk declared) (twice.rename_new place)

theorem relists (exact : Prop)
    (stubbed : Stubbed (loadResolver farm serial imports declaration graph.types.size) graph
      (pendingFrom graph.types.size declaration.types) stubs)
    (imageStubbed : Stubbed (loadResolver farm serial imports image graph.types.size) graph
      (pendingFrom graph.types.size image.types) imageStubs) :
    (twice.mirror exact).Relists (loadResolver farm serial imports declaration graph.types.size)
      (loadResolver farm serial imports image graph.types.size) graph
      (pendingFrom graph.types.size declaration.types)
      (pendingFrom graph.types.size image.types) stubs imageStubs where
  names := twice.showsResolver exact
  shows := twice.shows fun _ _ _ _ absent found => by
    rw [absent] at found
    cases found
  common := rfl
  stubbed := stubbed
  imageStubbed := imageStubbed
  entries := by
    have present : ∀ entry ∈ pendingFrom graph.types.size declaration.types,
        entry.type < stubs.types.size := fun entry listed =>
      (stubbed.ready entry listed).piece.present
    refine (List.perm_ext_iff_of_nodup ?_ imageStubbed.distinct.of_map).mpr fun shown =>
      twice.mem_pending_iff exact
    refine stubbed.distinct.of_map.map_on ?_
    intro entry listed other otherListed same
    exact List.inj_on_of_nodup_map stubbed.distinct listed otherListed
      ((twice.mirror exact).injective (present entry listed) (present other otherListed)
        (congrArg PendingType.type same))
  unlinked _ listed := supertypesOf_stub twice.houses.arena twice.same listed

section Links

variable
  (stubbed : Stubbed (loadResolver farm serial imports declaration graph.types.size) graph
    (pendingFrom graph.types.size declaration.types) stubs)
  (imageStubbed : Stubbed (loadResolver farm serial imports image graph.types.size) graph
    (pendingFrom graph.types.size image.types) imageStubs)
  (accepted : (loadResolver farm serial imports declaration graph.types.size).linksFailure? stubs
    (pendingFrom graph.types.size declaration.types) = none)

include stubbed imageStubbed accepted

theorem finds_image {shown : PendingType}
    (listed : shown ∈ pendingFrom graph.types.size image.types) :
    (loadResolver farm serial imports image graph.types.size).FindsSupertypes shown.declaration ∧
      (loadResolver farm serial imports image graph.types.size).FindsParts shown.declaration := by
  have relists := twice.relists False stubbed imageStubbed
  obtain ⟨entry, inPending, rfl⟩ := relists.exists_entry listed
  obtain ⟨supertypes, parts⟩ := Mirror.Relists.finds accepted inPending
  exact ⟨relists.names.findsSupertypes supertypes, relists.names.findsParts parts⟩

theorem linksFailure?_image (first : image.DeclaresMarksFirst) :
    (loadResolver farm serial imports image graph.types.size).linksFailure? imageStubs
      (pendingFrom graph.types.size image.types) = none := by
  refine (twice.relists False stubbed imageStubbed).linksFailure?_listed accepted ?_
  intro before shown after split mark marked later listed
  exact not_reaches_later twice.houses twice.complete twice.rearranged.imageDistinct
    twice.imageSame first imageStubbed
    (fun _ waiting => twice.finds_image stubbed imageStubbed accepted waiting) split marked listed

end Links

end StubbedTwice

/-! ## The load -/

section Loads

variable {farm : Farm} {imports : List Module} {declaration image : ModuleDeclaration}
  {serial : Nat} {graph left : Graph}

/-- A module that is accepted is accepted in another order, with the same types up to their places.
-/
theorem loadModule_reordered (houses : graph.Houses farm)
    (complete : ∀ imported ∈ imports, imported.Complete graph)
    (name : image.name = declaration.name) (perm : declaration.types.Perm image.types)
    (composed : declaration.IsComposed) (first : image.DeclaresMarksFirst) {module : Module}
    (succeeded : (loadModule farm serial imports declaration).exec graph = (.ok module, left)) :
    ∃ (shown : Module) (last : Graph) (mirror : Mirror),
      (loadModule farm serial imports image).exec graph = (.ok shown, last) ∧
      (graph.NewArraysApart left farm → graph.NewArraysApart last farm → mirror.exact) ∧
      mirror.common = graph.types.size ∧ mirror.ShowsModule module shown ∧
      mirror.Shows farm (· < mirror.source.types.size) left last := by
  obtain ⟨rfl, stubs, linked, order, loads⟩ := exists_loads houses complete succeeded
  obtain ⟨named, ⟨free, capacity, fine⟩, same, distinct, stubbed, finishes⟩ := loads
  have imageFine := declarationsFailure?_eq_none_of_perm perm fine
  rw [← name] at imageFine
  obtain ⟨imageStubs, -, -, imageReady, imageRan, -⟩ := loadModule_exec houses complete
    (name ▸ named : image.name ≠ "") capacity
  obtain ⟨imageSame, -, imageStubbed⟩ := imageReady imageFine
  obtain ⟨places, rearranged⟩ := exists_rearranged name perm distinct
  have twice : StubbedTwice farm imports declaration image places serial serial graph graph stubs
      imageStubs :=
    ⟨houses, .refl houses, complete, rearranged, same, imageSame, stubbed.grows.houses.sound⟩
  have accepted := finishes.accepted
  have tracks := tracks_of_isComposed houses complete distinct same composed
    fun _ listed => (Mirror.Relists.finds accepted listed).1
  have imageTracks := tracks_of_isComposed houses complete rearranged.imageDistinct imageSame
    (composed.of_perm perm)
    fun _ listed => (twice.finds_image stubbed imageStubbed accepted listed).1
  have planned : Planned (loadResolver farm serial imports declaration graph.types.size) graph
      (pendingFrom graph.types.size declaration.types) stubs linked order :=
    ⟨stubbed, fun _ listed => supertypesOf_stub houses.arena same listed, accepted, finishes.links,
      finishes.grows, finishes.unfinished, finishes.plan, tracks⟩
  obtain ⟨imageLinked, imageOrder, imagePlanned, ends⟩ := exists_planned imageStubbed
    (fun _ listed => supertypesOf_stub houses.arena imageSame listed)
    (twice.linksFailure?_image stubbed imageStubbed accepted first) imageTracks
  have completes := completes_iff.mp finishes.completes
  -- The mirror is needed before it is known that the second run succeeds, so its exactness speaks
  -- of the run that would succeed.
  let apart := ∃ last, CompletesEach (loadResolver farm serial imports image graph.types.size)
    (entriesAt (pendingFrom graph.types.size image.types) imageOrder) imageLinked last ∧
      graph.NewArraysApart last farm ∧ graph.NewArraysApart left farm
  have redoes : (twice.mirror apart).Redoes
      (loadResolver farm serial imports declaration graph.types.size)
      (loadResolver farm serial imports image graph.types.size) graph
      (pendingFrom graph.types.size declaration.types)
      (pendingFrom graph.types.size image.types) stubs imageStubs linked imageLinked order
      imageOrder :=
    ⟨houses, twice.relists apart stubbed imageStubbed, planned, imagePlanned⟩
  obtain ⟨last, imageCompletes, caught⟩ := redoes.completesEach_listed completes
    (fun ⟨_, _, _, leftApart⟩ => leftApart) (List.nil_append _).symm .nil
    (fun _ _ _ _ _ _ _ impossible => nomatch impossible)
    fun ⟨last, imageCompletes, lastApart, _⟩ => ⟨last, imageCompletes, lastApart⟩
  rw [List.nil_append] at caught
  have shows := redoes.shows_last completes imageCompletes caught
    fun ⟨_, again, lastApart, leftApart⟩ => ⟨leftApart, imageCompletes.unique again ▸ lastApart⟩
  refine ⟨_, last, twice.mirror apart, ?_, fun leftApart lastApart =>
    ⟨last, imageCompletes, lastApart, leftApart⟩, rfl, twice.showsModule apart, shows⟩
  rw [imageRan, imageFine]
  exact ends last imageCompletes

end Loads

theorem Graph.NewArraysApart.of_bare {graph left last : Graph} {farm : Farm}
    (apart : graph.NewArraysApart left farm) (same : last.bare = left.bare) :
    graph.NewArraysApart last farm := by
  intro name element base absent found
  rw [Graph.arenaAt, arenas_eq_of_bare same, ← Graph.arenaAt] at found
  exact (apart absent found).of_types (types_eq_of_bare same)

namespace Workspace

variable {settings : ArenaSettings} {workspace after : Workspace} {imports : List Module}
  {declaration image : ModuleDeclaration}

theorem exec_of_loadDeclaration {module : Module}
    (succeeded : workspace.loadDeclaration imports declaration = (.ok module, after)) :
    ∃ left, (loadModule workspace.farm workspace.loads imports declaration).exec workspace.graph
      = (.ok module, left) ∧ after.graph.bare = left.bare := by
  obtain ⟨left, ended, same⟩ := workspace.loadDeclaration_exec imports declaration
  rw [succeeded] at ended
  obtain ⟨outcome, rfl⟩ := Prod.mk.inj ended
  exact ⟨_, Prod.ext outcome.symm rfl, same⟩

theorem exists_loadDeclaration_reordered (ready : workspace.Ready settings)
    (known : ∀ imported ∈ imports, imported ∈ workspace.modules)
    (name : image.name = declaration.name) (perm : declaration.types.Perm image.types)
    (composed : declaration.IsComposed) (first : image.DeclaresMarksFirst) {module : Module}
    (succeeded : workspace.loadDeclaration imports declaration = (.ok module, after)) :
    ∃ (shown : Module) (last : Workspace) (mirror : Mirror),
      workspace.loadDeclaration imports image = (.ok shown, last) ∧
      (workspace.graph.NewArraysApart after.graph workspace.farm →
        workspace.graph.NewArraysApart last.graph workspace.farm → mirror.exact) ∧
      mirror.common = workspace.graph.types.size ∧ mirror.ShowsModule module shown ∧
      mirror.Shows workspace.farm (· < mirror.source.types.size) after.graph last.graph := by
  obtain ⟨left, ran, same⟩ := exec_of_loadDeclaration succeeded
  obtain ⟨shown, grown, mirror, imageRan, exactly, common, showsModule, shows⟩ :=
    loadModule_reordered ready.houses
      (fun imported listed => ready.complete imported (known imported listed)) name perm composed
      first ran
  obtain ⟨journal, ended⟩ := loadDeclaration_of_ok imageRan
  refine ⟨shown, _, mirror, ended, fun apart imageApart => ?_, common, showsModule,
    shows.of_bare same rfl⟩
  have imageSame : grown.bare = Graph.bare { grown with journal } := rfl
  exact exactly (apart.of_bare same.symm) (imageApart.of_bare imageSame)

/-- In every state of a session, a module is accepted in one order of its declarations if and only
if it is accepted in another order, and its names denote corresponding types, with their supertypes,
annotations and members.  The types of members that are arrays have corresponding elements if the
new array types can be told apart. -/
theorem loadDeclaration_reordered (session : Session settings workspace)
    (known : ∀ imported ∈ imports, imported ∈ workspace.modules)
    (name : image.name = declaration.name) (perm : declaration.types.Perm image.types)
    (composed : declaration.IsComposed) (first : declaration.DeclaresMarksFirst)
    (imageFirst : image.DeclaresMarksFirst) :
    ((workspace.loadDeclaration imports declaration).1.isOk
        = (workspace.loadDeclaration imports image).1.isOk) ∧
      ∀ {module shown : Module} {after last : Workspace},
        workspace.loadDeclaration imports declaration = (.ok module, after) →
        workspace.loadDeclaration imports image = (.ok shown, last) →
        ∃ mirror : Mirror,
          (workspace.graph.NewArraysApart after.graph workspace.farm →
            workspace.graph.NewArraysApart last.graph workspace.farm → mirror.exact) ∧
          mirror.common = workspace.graph.types.size ∧ mirror.ShowsModule module shown ∧
          mirror.Shows workspace.farm (· < mirror.source.types.size) after.graph last.graph := by
  have ready := session.ready
  constructor
  · rcases ran : workspace.loadDeclaration imports declaration with ⟨failure | module, after⟩
    · rcases imageRan : workspace.loadDeclaration imports image with ⟨reason | shown, last⟩
      · rfl
      · obtain ⟨_, _, _, again, -⟩ := exists_loadDeclaration_reordered ready known name.symm
          perm.symm (composed.of_perm perm) first imageRan
        rw [ran] at again
        cases again
    · obtain ⟨_, _, _, again, -⟩ := exists_loadDeclaration_reordered ready known name perm composed
        imageFirst ran
      rw [again]
      rfl
  · intro module shown after last succeeded imageSucceeded
    obtain ⟨_, _, mirror, again, exactly, corresponds⟩ := exists_loadDeclaration_reordered ready
      known name perm composed imageFirst succeeded
    rw [imageSucceeded] at again
    cases again
    exact ⟨mirror, exactly, corresponds⟩

/-- A class with an annotation, a class below another one and an array field, in one order. -/
def markedTrio : ModuleDeclaration :=
  { name := "m"
    types := [
      { className := "Mark", parent := "Attribute" },
      { className := "A", parent := "B", annotations := [{ type := "Mark" }] },
      { className := "B", members := [{ kind := "field", name := "x", type := "A[]" }] }] }

/-- The same module in another order. -/
def turnedTrio : ModuleDeclaration :=
  { name := "m"
    types := [
      { className := "B", members := [{ kind := "field", name := "x", type := "A[]" }] },
      { className := "Mark", parent := "Attribute" },
      { className := "A", parent := "B", annotations := [{ type := "Mark" }] }] }

theorem loadDeclaration_reordered_turnedTrio :
    ∃ (workspace after last : Workspace) (module shown : Module) (mirror : Mirror),
      Session {} workspace ∧ markedTrio.types.Perm turnedTrio.types ∧
      workspace.loadDeclaration [] markedTrio = (.ok module, after) ∧
      workspace.loadDeclaration [] turnedTrio = (.ok shown, last) ∧
      module.lookup? "B" = some 10 ∧ shown.lookup? "B" = some 8 ∧ mirror.exact ∧
      mirror.ShowsModule module shown ∧
      mirror.Shows workspace.farm (· < mirror.source.types.size) after.graph last.graph := by
  have perm : markedTrio.types.Perm turnedTrio.types := by decide
  have composed : markedTrio.IsComposed := by
    unfold ModuleDeclaration.IsComposed
    decide +kernel
  have first : markedTrio.DeclaresMarksFirst := .of_closed
    (show ∀ declared ∈ markedTrio.types, declared.name ∈ ["Mark", "Attribute"] → _ by decide)
    (by decide)
  have imageFirst : turnedTrio.DeclaresMarksFirst := .of_closed
    (show ∀ declared ∈ turnedTrio.types, declared.name ∈ ["Mark", "Attribute"] → _ by decide)
    (by decide)
  have evaluated : startsIn (fun started => started.accepts [] markedTrio fun module after =>
      started.accepts [] turnedTrio fun shown last =>
        decide (module.lookup? "B" = some 10 ∧ shown.lookup? "B" = some 8) &&
        isToldApart started.graph after.graph after.graph started.farm.arena &&
        isToldApart started.graph last.graph last.graph started.farm.arena) = true := by
    decide +kernel
  obtain ⟨started, session, accepted⟩ := exists_of_startsIn evaluated
  obtain ⟨module, after, ran, again⟩ := exists_of_accepts accepted
  obtain ⟨shown, last, imageRan, checked⟩ := exists_of_accepts again
  rw [Bool.and_eq_true, Bool.and_eq_true] at checked
  obtain ⟨⟨places, apart⟩, imageApart⟩ := checked
  obtain ⟨here, there⟩ := of_decide_eq_true places
  have name : turnedTrio.name = markedTrio.name := rfl
  obtain ⟨mirror, exactly, -, showsModule, shows⟩ :=
    (loadDeclaration_reordered session (by simp) name perm composed first imageFirst).2 ran imageRan
  exact ⟨started, after, last, module, shown, mirror, session, perm, ran, imageRan, here, there,
    exactly (sole_of_isToldApart apart) (sole_of_isToldApart imageApart), showsModule, shows⟩

/-- An annotation class before the class that uses it. -/
def markFirst : ModuleDeclaration :=
  { name := "m"
    types := [
      { className := "Mark", parent := "Attribute" },
      { className := "A", annotations := [{ type := "Mark" }] }] }

/-- An annotation class after the class that uses it. -/
def markLast : ModuleDeclaration :=
  { markFirst with types := markFirst.types.reverse }

/-- A module with a class that has no array types. -/
def earlierModule : ModuleDeclaration :=
  { name := "m", types := [{ className := "A" }] }

/-- A module with array types over a class and over an imported class of the same name. -/
def twinArrays : ModuleDeclaration :=
  { name := "m"
    types := [
      { className := "A", members := [{ kind := "field", name := "x", type := "A[]" }] },
      { className := "B", members := [{ kind := "field", name := "y", type := "m.A[]" }] }] }

def turnedArrays : ModuleDeclaration :=
  { twinArrays with types := twinArrays.types.reverse }

/-- The order of declarations matters if an annotation class comes after its use, and if one array
type can be taken for another one. -/
theorem not_reordered_markLast :
    (∃ workspace, Session {} workspace ∧ markFirst.types.Perm markLast.types ∧
      (workspace.loadDeclaration [] markFirst).1.isOk = true ∧
      (workspace.loadDeclaration [] markLast).1.isOk = false) ∧
    ∃ workspace module after shown last, Session {} workspace ∧
      twinArrays.types.Perm turnedArrays.types ∧
      workspace.loadDeclaration workspace.modules twinArrays = (.ok module, after) ∧
      workspace.loadDeclaration workspace.modules turnedArrays = (.ok shown, last) ∧
      hasArrayField module after.graph "A" "x" "A" = true ∧
      hasArrayField shown last.graph "A" "x" "A" = false := by
  have evaluated : startsIn (fun started =>
      let between := (started.loadDeclaration [] earlierModule).2
      decide ((started.loadDeclaration [] markFirst).1.isOk = true ∧
        (started.loadDeclaration [] markLast).1.isOk = false) &&
      between.accepts between.modules twinArrays fun module after =>
        between.accepts between.modules turnedArrays fun shown last =>
          decide (hasArrayField module after.graph "A" "x" "A" = true ∧
            hasArrayField shown last.graph "A" "x" "A" = false)) = true := by
    decide +kernel
  obtain ⟨started, session, checked⟩ := exists_of_startsIn evaluated
  have between := @Session.load {} started session [] (by simp) earlierModule
  rw [Bool.and_eq_true] at checked
  obtain ⟨marks, arrays⟩ := checked
  obtain ⟨module, after, ran, again⟩ := exists_of_accepts arrays
  obtain ⟨shown, last, imageRan, differs⟩ := exists_of_accepts again
  exact ⟨⟨started, session, by decide, of_decide_eq_true marks⟩, _, module, after, shown, last,
    between, by decide, ran, imageRan, of_decide_eq_true differs⟩

end Workspace

end Nominal
