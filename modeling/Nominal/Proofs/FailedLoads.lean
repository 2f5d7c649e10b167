import Nominal.Proofs.MirroredStubs
import Nominal.Proofs.Sessions

/-!
# Loads after failed loads

A load that fails leaves its stubs, and the array types that it has asked for.  The next load ends
as it would have ended without them: it succeeds or fails alike, and what it builds is the same up
to the places of the types.  Only array types make a difference.  They are found by the names of
their elements, so an array type over a stub that was left behind also stands for the arrays over a
later type of the same name.
-/

namespace Nominal

open Nominal.Graph

/-- Corresponding modules: names denote corresponding types. -/
structure Mirror.ShowsModule (mirror : Mirror) (module shown : Module) : Prop where
  name : shown.name = module.name
  lookup : ∀ name, shown.lookup? name = (module.lookup? name).map mirror.rename

/-! ## Stubs that are refused -/

section Refused

variable {moduleName : String} {known : List String} {declarations : List TypeDeclaration}

theorem TypeDeclaration.error?_plain {declaration : TypeDeclaration} {isKnown : Bool}
    {error : Error}
    (found : declaration.error? isKnown = some error) (graph other : Graph) :
    error.message? other = error.message? graph ∧ error.hint? other = error.hint? graph := by
  unfold TypeDeclaration.error? at found
  repeat' split at found
  all_goals
    cases found
    try exact ⟨rfl, rfl⟩

theorem declarationsFailure?_plain {free : Nat} {failure : Failure}
    (found : declarationsFailure? moduleName free known declarations = some failure)
    (mirror : Mirror) (left last : Graph) : mirror.ShowsFailure left last failure failure := by
  induction declarations generalizing free known with
  | nil => cases found
  | cons declaration rest ih =>
      rw [declarationsFailure?] at found
      cases refused : declaration.error? (known.contains declaration.name) with
      | some error =>
          rw [refused] at found
          cases found
          have plain : mirror.ShowsError left last error error :=
            .of_plain (declaration.error?_plain refused) left last
          exact .rejected (plain.declaration moduleName declaration.name)
      | none =>
          rw [refused] at found
          dsimp only at found
          split at found
          · cases found
            exact .aborted (.of_plain (fun _ _ => ⟨rfl, rfl⟩) left last)
          · exact ih found

theorem declarationsFailure?_of_le {free more : Nat} (room : free ≤ more)
    (enough : ∀ error, declarationsFailure? moduleName free known declarations
      ≠ some (.aborted error)) :
    declarationsFailure? moduleName more known declarations
      = declarationsFailure? moduleName free known declarations := by
  induction declarations generalizing free more known with
  | nil => rfl
  | cons declaration rest ih =>
      rw [declarationsFailure?] at enough ⊢
      rw [declarationsFailure?]
      cases refused : declaration.error? (known.contains declaration.name) with
      | some error => rfl
      | none =>
          rw [refused] at enough
          dsimp only at enough ⊢
          by_cases full : free = 0
          · rw [if_pos full] at enough
            exact absurd rfl (enough _)
          · rw [if_neg full] at enough
            rw [if_neg full, if_neg (by omega)]
            exact ih (by omega) enough

end Refused

/-! ## Names that tell types apart -/

namespace Graph

/-- Whether no other type, primitive type or array type can have the name of a type. -/
def isSoleName (graph : Graph) (type : TypeId) : Bool :=
  (List.range graph.types.size).all (fun other =>
      other == type || graph.nameOf other != graph.nameOf type) &&
    Primitive.all.all (fun kind => kind.name != graph.nameOf type) &&
    (graph.nameOf type).toList.getLast? != some ']'

theorem sole_of_isSoleName {graph : Graph} {type : TypeId}
    (checked : graph.isSoleName type = true) :
    graph.Sole (.nominal type) := by
  simp only [isSoleName, Bool.and_eq_true, List.all_eq_true, Bool.or_eq_true, bne_iff_ne,
    beq_iff_eq] at checked
  obtain ⟨⟨others, primitives⟩, last⟩ := checked
  intro reference within named
  cases reference with
  | primitive kind => exact absurd named (primitives kind (by cases kind <;> decide))
  | nominal other =>
      have present : other < graph.types.size := of_decide_eq_true within
      rcases others other (List.mem_range.mpr present) with same | different
      · exact beq_iff_eq.mpr same
      · exact absurd named different
  | array element base =>
      have spelled : element.qualifiedName graph ++ "[]" = graph.nameOf type := named
      rw [← spelled] at last
      simp at last

end Graph

/-! ## One module in a graph that has grown -/

/-- The array types that a graph has got are over the only types of their names, also among the
types that a module is about to declare. -/
def Graph.ToldApart (graph grown : Graph) (farm : Farm) (serial : Nat)
    (declaration : ModuleDeclaration) : Prop :=
  ∀ name element base, (graph.arenaAt farm.arena).arrays.get? name = none →
    (grown.arenaAt farm.arena).arrays.get? name = some (.array element base) →
      (grown.withStubs (.ofModule serial declaration.name) farm.arena
        declaration.types).Sole element

section Loads

variable {farm : Farm} {imports : List Module} {declaration : ModuleDeclaration}
  {serial imageSerial : Nat} {graph grown stubs imageStubs : Graph}

theorem rearranged_refl (distinct : (declaration.types.map (·.name)).Nodup) :
    Rearranged declaration declaration id :=
  ⟨rfl, distinct, distinct, fun found => found, fun _ listed => listed⟩

theorem stubbedTwice_nil (houses : graph.Houses farm) (grows : graph.Grows farm grown)
    (imports : List Module) (complete : ∀ imported ∈ imports, imported.Complete graph) :
    StubbedTwice farm imports { name := "", types := [] } { name := "", types := [] } id 0 0 graph
      grown graph grown :=
  ⟨houses, grows, complete, rearranged_refl List.nodup_nil, rfl, rfl, houses.sound⟩

theorem StubbedTwice.pending
    (twice : StubbedTwice farm imports declaration declaration id serial imageSerial graph grown
      stubs
      imageStubs) (exact : Prop) :
    (pendingFrom graph.types.size declaration.types).map (twice.mirror exact).showsEntry
      = pendingFrom grown.types.size declaration.types := by
  apply List.ext_getElem?
  intro place
  rw [List.getElem?_map, getElem?_pendingFrom, getElem?_pendingFrom, Option.map_map]
  cases declaration.types[place]? with
  | none => rfl
  | some declared =>
      refine congrArg (fun type => some (PendingType.mk declared type)) ?_
      exact twice.rename_new place

theorem StubbedTwice.showsModule {image : ModuleDeclaration} {places : Nat → Nat}
    (twice : StubbedTwice farm imports declaration image places serial imageSerial graph grown stubs
      imageStubs) (exact : Prop) :
    (twice.mirror exact).ShowsModule
      (loadResolver farm serial imports declaration graph.types.size).module
      (loadResolver farm imageSerial imports image grown.types.size).module := by
  have names := twice.showsResolver exact
  refine ⟨names.moduleName, fun name => ?_⟩
  unfold Module.lookup?
  cases known : (loadResolver farm serial imports declaration graph.types.size).module.types.get?
      name with
  | some type =>
      obtain ⟨place, declared, found, named, rfl⟩ :=
        (get?_loadResolver twice.rearranged.distinct).mp known
      rw [Option.map_some, twice.rename_new]
      exact (get?_loadResolver twice.rearranged.imageDistinct).mpr
        ⟨places place, declared, twice.rearranged.found found, named, rfl⟩
  | none => exact twice.foreign known

/-- A module is loaded alike into a graph that has grown, as long as there is room.  Array types
correspond to each other if those that the graph has got can be told apart. -/
theorem loadModule_agree (houses : graph.Houses farm) (grows : graph.Grows farm grown)
    (complete : ∀ imported ∈ imports, imported.Complete graph)
    (room : (((loadModule farm imageSerial imports declaration).exec grown).2.arenaAt
      farm.arena).types.length < arenaCapacity) :
    ∃ mirror : Mirror, mirror.exact = graph.ToldApart grown farm imageSerial declaration ∧
      mirror.common = graph.types.size ∧
      mirror.Agree farm (· < mirror.source.types.size) mirror.ShowsModule
        ((loadModule farm serial imports declaration).exec graph)
        ((loadModule farm imageSerial imports declaration).exec grown) := by
  have before := stubbedTwice_nil houses grows imports complete
  by_cases named : declaration.name = ""
  · refine ⟨before.mirror _, rfl, rfl, ?_⟩
    rw [loadModule_exec_unnamed _ _ _ named, loadModule_exec_unnamed _ _ _ named]
    exact .error (.rejected (.of_plain (fun _ _ => ⟨rfl, rfl⟩) graph grown))
  · have grownComplete : ∀ imported ∈ imports, imported.Complete grown :=
      fun imported listed => Module.Complete.of_grows (complete imported listed) grows
    obtain ⟨free, capacity⟩ := Nat.exists_eq_add_of_le houses.room
    obtain ⟨grownFree, grownCapacity⟩ := Nat.exists_eq_add_of_le grows.houses.room
    obtain ⟨stubs, stubsGrow, -, ready, ran, -⟩ :=
      @loadModule_exec graph farm serial free imports declaration houses complete named
      capacity.symm
    obtain ⟨imageStubs, -, -, imageReady, imageRan, full, -⟩ :=
      @loadModule_exec grown farm imageSerial grownFree imports declaration grows.houses
      grownComplete
        named grownCapacity.symm
    have enough : ∀ error, declarationsFailure? declaration.name grownFree [] declaration.types
        ≠ some (.aborted error) := by
      intro error aborted
      rw [imageRan, aborted] at room
      exact Nat.lt_irrefl _ (full error aborted ▸ room)
    have same := declarationsFailure?_of_le
      (by have := grows.population; omega : grownFree ≤ free) enough
    rw [ran, imageRan, same]
    cases accepted : declarationsFailure? declaration.name grownFree [] declaration.types with
    | some failure =>
        exact ⟨before.mirror _, rfl, rfl,
          .error (declarationsFailure?_plain accepted _ stubs imageStubs)⟩
    | none =>
        rw [accepted] at same
        obtain ⟨stubsSame, distinct, stubbed⟩ := ready same
        obtain ⟨imageSame, -, imageStubbed⟩ := imageReady accepted
        have twice : StubbedTwice farm imports declaration declaration id serial imageSerial graph
            grown stubs imageStubs :=
          ⟨houses, grows, complete, rearranged_refl distinct, stubsSame, imageSame,
            stubsGrow.houses.sound⟩
        have shows := twice.shows fun
          (told : graph.ToldApart grown farm imageSerial declaration) _ _ _ absent found =>
            (told _ _ _ absent found).of_types (types_eq_of_bare imageSame)
        refine ⟨twice.mirror _, rfl, rfl, ?_⟩
        rw [← twice.pending (graph.ToldApart grown farm imageSerial declaration)]
          at imageStubbed ⊢
        have agree := Mirror.finishModule_agree (twice.showsResolver _) (fun present => present)
          shows stubbed imageStubbed (Nat.le_refl _)
        exact agree.mono fun modules => by
          rw [modules.1, modules.2]
          exact twice.showsModule _

end Loads

/-! ## Sessions -/

namespace Workspace

variable {settings : ArenaSettings} {workspace after : Workspace} {imports : List Module}

theorem loadDeclaration_exec (workspace : Workspace) (imports : List Module)
    (declaration : ModuleDeclaration) :
    ∃ left, Prod.map id Workspace.graph (workspace.loadDeclaration imports declaration)
        = (((loadModule workspace.farm workspace.loads imports declaration).exec
            workspace.graph).1, left) ∧
      left.bare = ((loadModule workspace.farm workspace.loads imports declaration).exec
        workspace.graph).2.bare := by
  rcases ran : (loadModule workspace.farm workspace.loads imports declaration).exec
    workspace.graph with ⟨failure | module, left⟩
  · rw [loadDeclaration_of_error ran]
    exact ⟨left, rfl, rfl⟩
  · obtain ⟨journal, ended⟩ := loadDeclaration_of_ok ran
    rw [ended]
    exact ⟨{ left with journal }, rfl, rfl⟩

/-- In every state of a session, after a load that has failed a module is loaded as if there had
been no such load: it is refused for corresponding reasons, or its types correspond to each other,
with their supertypes and members.  The two loads agree on array types and on the wording of errors
if the array types that were left behind can be told apart. -/
theorem loadDeclaration_after_failed (session : Session settings workspace)
    {failing declaration : ModuleDeclaration} {failingImports imports : List Module}
    (known : ∀ imported ∈ failingImports ++ imports, imported ∈ workspace.modules)
    {failure : Failure}
    (failed : workspace.loadDeclaration failingImports failing = (.error failure, after))
    (room : ((after.loadDeclaration imports declaration).2.graph.arenaAt
      workspace.farm.arena).types.length < arenaCapacity) :
    ∃ mirror : Mirror,
      mirror.exact
        = workspace.graph.ToldApart after.graph workspace.farm after.loads declaration ∧
      mirror.common = workspace.graph.types.size ∧
      mirror.Agree workspace.farm (· < mirror.source.types.size) mirror.ShowsModule
        (Prod.map id Workspace.graph (workspace.loadDeclaration imports declaration))
        (Prod.map id Workspace.graph (after.loadDeclaration imports declaration)) := by
  have ready := session.ready
  have complete : ∀ imported ∈ imports, imported.Complete workspace.graph := fun imported listed =>
    ready.complete imported (known imported (List.mem_append_right failingImports listed))
  have grows := ready.grows (fun imported listed =>
    known imported (List.mem_append_left imports listed)) failing
  rcases ran : (loadModule workspace.farm workspace.loads failingImports failing).exec
    workspace.graph with ⟨reason | module, grown⟩
  · rw [loadDeclaration_of_error ran] at failed
    rw [ran] at grows
    cases failed
    obtain ⟨left, ended, same⟩ := workspace.loadDeclaration_exec imports declaration
    obtain ⟨last, imageEnded, imageSame⟩ := loadDeclaration_exec
      { workspace with graph := grown, loads := workspace.loads + 1 } imports declaration
    have lastGraph := congrArg Prod.snd imageEnded
    dsimp only [Prod.map] at lastGraph
    have imageArenas := arenas_eq_of_bare imageSame
    rw [lastGraph, Graph.arenaAt, imageArenas, ← Graph.arenaAt] at room
    obtain ⟨mirror, exactly, common, agree⟩ := loadModule_agree ready.houses grows complete room
    refine ⟨mirror, exactly, common, ?_⟩
    rw [ended, imageEnded]
    exact agree.of_bare same imageSame
  · obtain ⟨journal, ended⟩ := loadDeclaration_of_ok ran
    rw [ended] at failed
    cases failed

/-- A module that fails after it has asked for an array type over one of its classes. -/
def strayArray : ModuleDeclaration :=
  { name := "n"
    types := [
      { className := "Q", members := [{ kind := "field", name := "x", type := "Q[]" }] },
      { className := "R", members := [{ kind := "field", name := "y", type := "Missing" }] }] }

/-- Whether all array types that a graph has got are over classes with names of their own. -/
def isToldApart (graph grown stubs : Graph) (arena : ArenaId) : Bool :=
  (grown.arenaAt arena).arrays.entries.all fun entry =>
    ((graph.arenaAt arena).arrays.get? entry.1).isSome ||
      match entry.2 with
      | .array (.nominal type) _ => stubs.isSoleName type
      | _ => false

theorem sole_of_isToldApart {graph grown stubs : Graph} {arena : ArenaId}
    (checked : isToldApart graph grown stubs arena = true) {name : String} {element : TypeRef}
    {base : Option TypeId} (absent : (graph.arenaAt arena).arrays.get? name = none)
    (found : (grown.arenaAt arena).arrays.get? name = some (.array element base)) :
    stubs.Sole element := by
  have here := List.all_eq_true.mp checked _ (Table.mem_of_get?_eq_some found)
  rw [absent, Option.isSome_none, Bool.false_or] at here
  cases element with
  | nominal type => exact sole_of_isSoleName here
  | primitive | array => cases here

/-- A module with a class that has an array field. -/
def arrayModule : ModuleDeclaration :=
  { name := "m"
    types := [{ className := "P", members := [{ kind := "field", name := "x", type := "P[]" }] }] }

theorem loadDeclaration_after_failed_strayArray :
    ∃ (workspace after : Workspace) (failure : Failure) (mirror : Mirror),
      Session {} workspace ∧ workspace.loadDeclaration [] strayArray = (.error failure, after) ∧
      (after.graph.arenaAt workspace.farm.arena).arrays.contains "n.Q" = true ∧ mirror.exact ∧
      mirror.Agree workspace.farm (· < mirror.source.types.size) mirror.ShowsModule
        (Prod.map id Workspace.graph (workspace.loadDeclaration [] arrayModule))
        (Prod.map id Workspace.graph (after.loadDeclaration [] arrayModule)) := by
  have evaluated : startsIn (fun started => started.rejects [] strayArray fun after =>
      (after.graph.arenaAt started.farm.arena).arrays.contains "n.Q" &&
      isToldApart started.graph after.graph (after.graph.withStubs
        (.ofModule after.loads arrayModule.name) started.farm.arena arrayModule.types)
        started.farm.arena &&
      decide (((after.loadDeclaration [] arrayModule).2.graph.arenaAt
        started.farm.arena).types.length < arenaCapacity)) = true := by
    decide +kernel
  obtain ⟨started, session, rejected⟩ := exists_of_startsIn evaluated
  obtain ⟨failure, after, failed, checked⟩ := exists_of_rejects rejected
  rw [Bool.and_eq_true, Bool.and_eq_true] at checked
  obtain ⟨⟨left, apart⟩, room⟩ := checked
  obtain ⟨mirror, exactly, -, agree⟩ :=
    loadDeclaration_after_failed session (by simp) failed (of_decide_eq_true room)
  have toldApart : started.graph.ToldApart after.graph started.farm after.loads arrayModule :=
    fun _ _ _ => sole_of_isToldApart apart
  exact ⟨started, after, failure, mirror, session, failed, left, exactly ▸ toldApart, agree⟩

/-- A module whose second class mentions a type that is not there. -/
def brokenPair : ModuleDeclaration :=
  { name := "m"
    types := [
      { className := "P", members := [{ kind := "field", name := "x", type := "A[]" }] },
      { className := "A", parent := "P"
        members := [{ kind := "field", name := "y", type := "Missing" }] }] }

/-- The same module without the mistake. -/
def repairedPair : ModuleDeclaration :=
  { name := "m"
    types := [
      { className := "P", members := [{ kind := "field", name := "x", type := "A[]" }] },
      { className := "A", parent := "P" }] }

/-- Whether a field of a class is an array over another class of the same module. -/
def hasArrayField (module : Module) (graph : Graph) (owner field element : String) : Bool :=
  match module.lookup? owner, module.lookup? element with
  | some type, some expected =>
    ((graph.typeAt type).declaredByName field false).any fun member =>
      match (graph.memberAt member).declaredType with
      | some (.array (.nominal found) _) => found == expected
      | _ => false
  | _, _ => false

/-- The repaired module gets an array type over a class of the broken one. -/
theorem not_isolated_repairedPair :
    ∃ workspace failure after module direct shown last, Session {} workspace ∧
      workspace.loadDeclaration [] brokenPair = (.error failure, after) ∧
      workspace.loadDeclaration [] repairedPair = (.ok module, direct) ∧
      after.loadDeclaration [] repairedPair = (.ok shown, last) ∧
      hasArrayField module direct.graph "P" "x" "A" = true ∧
      hasArrayField shown last.graph "P" "x" "A" = false := by
  have evaluated : startsIn (fun started => started.rejects [] brokenPair fun after =>
      started.accepts [] repairedPair fun module direct =>
        after.accepts [] repairedPair fun shown last =>
          decide (hasArrayField module direct.graph "P" "x" "A" = true ∧
            hasArrayField shown last.graph "P" "x" "A" = false)) = true := by
    decide +kernel
  obtain ⟨started, session, rejected⟩ := exists_of_startsIn evaluated
  obtain ⟨failure, after, broken, accepted⟩ := exists_of_rejects rejected
  obtain ⟨module, direct, directly, again⟩ := exists_of_accepts accepted
  obtain ⟨shown, last, later, differs⟩ := exists_of_accepts again
  exact ⟨started, failure, after, module, direct, shown, last, session, broken, directly, later,
    of_decide_eq_true differs⟩

end Workspace

end Nominal
