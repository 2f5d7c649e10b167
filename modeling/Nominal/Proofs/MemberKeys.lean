import Mathlib.Data.List.Forall2
import Nominal.Proofs.ArrayTypes

/-!
# Member keys

The key of a member that can be called holds its composed name and the qualified names of its
explicit parameter types, joined by commas.  Members that agree in both have the same key.

In a session the converse fails for two reasons only, and both lie in the names of types that
modules declare.  The name of such a type may have a comma, so that it reads like several types.
And references to two such types may have the same name, if the types have, or if one of them has an
array suffix in its own name.  Primitive types, built-in types, arrays over them and parameters that
are left open are always told apart, from each other and from the types of modules.
-/

namespace Nominal

open Nominal.Graph

/-! ## Joined texts -/

namespace Text

/-- Joined texts are cut at the commas between them. -/
theorem splitOn_comma {texts : List String} (plain : ∀ text ∈ texts, ',' ∉ text.toList)
    (nonempty : texts ≠ []) :
    (",".intercalate texts).toList.splitOn ',' = texts.map String.toList := by
  rw [String.toList_intercalate]
  refine List.splitOn_intercalate ',' ?_ (by simpa using nonempty)
  simpa only [List.forall_mem_map] using plain

theorem intercalate_comma_ne {texts : List String}
    (plain : ∀ text ∈ texts, text ≠ "" ∧ ',' ∉ text.toList) (nonempty : texts ≠ []) :
    ",".intercalate texts ≠ "" := by
  intro joined
  have cut := splitOn_comma (fun text listed => (plain text listed).2) nonempty
  rw [joined] at cut
  obtain ⟨first, rest, rfl⟩ := List.exists_cons_of_ne_nil nonempty
  have empty : first.toList = [] := (List.cons.inj cut).1.symm
  exact (plain first List.mem_cons_self).1 (by simpa using empty)

/-- Texts without commas are known from the text that joins them by commas. -/
theorem eq_of_intercalate_comma {first second : List String}
    (plain : ∀ text ∈ first, text ≠ "" ∧ ',' ∉ text.toList)
    (plainSecond : ∀ text ∈ second, text ≠ "" ∧ ',' ∉ text.toList)
    (joined : ",".intercalate first = ",".intercalate second) : first = second := by
  by_cases empty : first = []
  · subst empty
    by_contra different
    exact intercalate_comma_ne plainSecond (Ne.symm different) joined.symm
  · have nonempty : second ≠ [] := by
      rintro rfl
      exact intercalate_comma_ne plain empty joined
    have cut := splitOn_comma (fun text listed => (plain text listed).2) empty
    rw [joined, splitOn_comma (fun text listed => (plainSecond text listed).2) nonempty] at cut
    exact (List.map_injective_iff.mpr fun _ _ => String.toList_injective) cut.symm

end Text

/-! ## Names that stand for one type -/

namespace Primitive

theorem name_ne_empty (kind : Primitive) : kind.name ≠ "" := by
  cases kind <;> decide

theorem name_ne_untypedName (kind : Primitive) : kind.name ≠ untypedName := by
  cases kind <;> decide

theorem name_unseparated (kind : Primitive) : ',' ∉ kind.name.toList := by
  cases kind <;> decide

end Primitive

namespace Graph

variable {graph left : Graph} {reference first second : TypeRef} {type : TypeId}

theorem IsLoaded.dot_mem (isLoaded : graph.IsLoaded type) : '.' ∈ (graph.nameOf type).toList := by
  unfold IsLoaded at isLoaded
  simp [nameOf, NominalType.qualifiedName, isLoaded]

/-- References that have the same name lead to different types, which modules have declared. -/
structure Confuses (graph : Graph) (first second : TypeRef) : Prop where
  named : first.qualifiedName graph = second.qualifiedName graph
  leads : ∃ type other, first.innermost? = some type ∧ second.innermost? = some other ∧
    type ≠ other ∧ graph.IsLoaded type ∧ graph.IsLoaded other

theorem Confuses.symm (confuses : graph.Confuses first second) : graph.Confuses second first := by
  obtain ⟨named, type, other, leads, otherLeads, different, isLoaded, otherIsLoaded⟩ := confuses
  exact ⟨named.symm, other, type, otherLeads, leads, different.symm, otherIsLoaded, isLoaded⟩

/-- The name of a reference is not shorter than that of the type it leads to. -/
theorem length_nameOf_le (leads : reference.innermost? = some type) :
    (graph.nameOf type).length ≤ (reference.qualifiedName graph).length := by
  induction reference with
  | primitive kind => cases leads
  | nominal found =>
      cases leads
      exact Nat.le_refl _
  | array element base ih =>
      have below : (graph.nameOf type).length ≤ (element.qualifiedName graph).length := ih leads
      simp only [TypeRef.qualifiedName, String.length_append]
      omega

namespace NamesBuiltin

variable (names : graph.NamesBuiltin)

include names

/-- Only references to the types of modules have a dot in their names. -/
theorem exists_isLoaded (within : reference.isWithin graph.types.size = true)
    (dotted : '.' ∈ (reference.qualifiedName graph).toList) :
    ∃ type, reference.innermost? = some type ∧ graph.IsLoaded type := by
  induction reference with
  | primitive kind => exact absurd dotted kind.name_undotted
  | nominal type =>
      refine ⟨type, rfl, ?_⟩
      by_contra builtin
      exact (names.builtin type (by simpa [TypeRef.isWithin] using within) builtin).undotted dotted
  | array element base ih =>
      simp only [TypeRef.isWithin, Bool.and_eq_true] at within
      exact ih within.1 (by simpa [TypeRef.qualifiedName] using dotted)

/-- Only the primitive type itself has its name. -/
theorem eq_primitive {kind : Primitive} (within : reference.isWithin graph.types.size = true)
    (named : reference.qualifiedName graph = kind.name) : reference = .primitive kind := by
  cases reference with
  | primitive other =>
      have read := other.ofName?_name
      rw [show other.name = kind.name from named, kind.ofName?_name] at read
      cases read
      rfl
  | nominal type =>
      have isName : graph.nameOf type = kind.name := named
      by_cases isLoaded : graph.IsLoaded type
      · exact absurd (isName ▸ isLoaded.dot_mem) kind.name_undotted
      · have nominal := (names.builtin type (by simpa [TypeRef.isWithin] using within)
          isLoaded).nominal
        rw [isName, kind.ofName?_name] at nominal
        cases nominal
  | array element base =>
      exact absurd named.symm (unsuffixed_qualifiedName kind.name_unsuffixed)

/-- A reference with the name of a declared type leads to this type, or to another one that a module
has declared as well. -/
theorem same_or_confuses_nominal (present : type < graph.types.size)
    (within : reference.isWithin graph.types.size = true)
    (named : graph.nameOf type = reference.qualifiedName graph) :
    (TypeRef.nominal type).same reference = true ∨ graph.Confuses (.nominal type) reference := by
  by_cases isLoaded : graph.IsLoaded type
  · obtain ⟨other, leads, otherIsLoaded⟩ :=
      names.exists_isLoaded within (named ▸ isLoaded.dot_mem)
    by_cases different : type = other
    · subst different
      left
      cases reference with
      | primitive kind => cases leads
      | nominal found =>
          cases leads
          exact TypeRef.same_refl _
      | array element base =>
          -- The name of an array is longer than that of the type it leads to.
          have shorter := @length_nameOf_le graph element type leads
          have length := congrArg String.length named
          simp only [TypeRef.qualifiedName, String.length_append] at length
          have suffix : "[]".length = 2 := rfl
          omega
    · exact .inr ⟨named, type, other, rfl, leads, different, isLoaded, otherIsLoaded⟩
  · have builtin := names.builtin type present isLoaded
    left
    cases reference with
    | primitive kind =>
        have read := builtin.nominal
        rw [named, show (TypeRef.primitive kind).qualifiedName graph = kind.name from rfl,
          kind.ofName?_name] at read
        cases read
    | nominal other =>
        have otherPresent : other < graph.types.size := by simpa [TypeRef.isWithin] using within
        have sameName : graph.nameOf type = graph.nameOf other := named
        by_cases otherIsLoaded : graph.IsLoaded other
        · exact absurd (sameName ▸ otherIsLoaded.dot_mem) builtin.undotted
        · obtain rfl := names.distinct type present other otherPresent isLoaded otherIsLoaded
            sameName
          exact TypeRef.same_refl _
    | array element base => exact absurd named (unsuffixed_qualifiedName builtin.unsuffixed)

/-- References with the same name mean the same type, or lead to different types of modules. -/
theorem same_or_confuses (within : first.isWithin graph.types.size = true)
    (secondWithin : second.isWithin graph.types.size = true)
    (named : first.qualifiedName graph = second.qualifiedName graph) :
    first.same second = true ∨ graph.Confuses first second := by
  induction first generalizing second with
  | primitive kind =>
      obtain rfl := names.eq_primitive secondWithin named.symm
      exact .inl (TypeRef.same_refl _)
  | nominal type =>
      exact names.same_or_confuses_nominal (by simpa [TypeRef.isWithin] using within) secondWithin
        named
  | array element base ih =>
      cases second with
      | primitive kind => cases names.eq_primitive within named
      | nominal other =>
          rw [TypeRef.same_comm]
          exact (names.same_or_confuses_nominal (by simpa [TypeRef.isWithin] using secondWithin)
            within named.symm).imp_right Confuses.symm
      | array otherElement otherBase =>
          simp only [TypeRef.isWithin, Bool.and_eq_true] at within secondWithin
          have elements : element.qualifiedName graph = otherElement.qualifiedName graph := by
            simpa [TypeRef.qualifiedName] using named
          exact (ih within.1 secondWithin.1 elements).imp_right fun confuses =>
            ⟨named, confuses.leads⟩

/-- A reference that leads to no type of a module is the only one of its name. -/
theorem sole (within : reference.isWithin graph.types.size = true)
    (builtin : ∀ type, reference.innermost? = some type → ¬ graph.IsLoaded type) :
    graph.Sole reference := by
  intro other inside named
  refine (names.same_or_confuses inside within named).resolve_right ?_
  rintro ⟨-, _, type, -, leads, -, -, isLoaded⟩
  exact builtin type leads isLoaded

theorem qualifiedName_ne_empty (within : reference.isWithin graph.types.size = true) :
    reference.qualifiedName graph ≠ "" := by
  cases reference with
  | primitive kind => exact kind.name_ne_empty
  | nominal type =>
      by_cases isLoaded : graph.IsLoaded type
      · intro named
        have dotted := isLoaded.dot_mem
        rw [show graph.nameOf type = "" from named] at dotted
        exact absurd dotted (by decide)
      · exact (names.builtin type (by simpa [TypeRef.isWithin] using within) isLoaded).nonempty
  | array element base => simp [TypeRef.qualifiedName]

/-- No reference has the name that stands for a type that is left open. -/
theorem qualifiedName_ne_untypedName (within : reference.isWithin graph.types.size = true) :
    reference.qualifiedName graph ≠ untypedName := by
  cases reference with
  | primitive kind => exact kind.name_ne_untypedName
  | nominal type =>
      by_cases isLoaded : graph.IsLoaded type
      · intro named
        have dotted := isLoaded.dot_mem
        rw [show graph.nameOf type = untypedName from named] at dotted
        exact absurd dotted (by decide)
      · exact (names.builtin type (by simpa [TypeRef.isWithin] using within) isLoaded).typed
  | array element base => exact (unsuffixed_qualifiedName (by decide)).symm

/-- The name of a reference has a comma only if it leads to a type of a module whose name has
one. -/
theorem exists_separated (within : reference.isWithin graph.types.size = true)
    (separated : ',' ∈ (reference.qualifiedName graph).toList) :
    ∃ type, reference.innermost? = some type ∧ graph.IsLoaded type ∧
      ',' ∈ (graph.nameOf type).toList := by
  induction reference with
  | primitive kind => exact absurd separated kind.name_unseparated
  | nominal type =>
      refine ⟨type, rfl, ?_, separated⟩
      by_contra builtin
      exact (names.builtin type (by simpa [TypeRef.isWithin] using within) builtin).unseparated
        separated
  | array element base ih =>
      simp only [TypeRef.isWithin, Bool.and_eq_true] at within
      exact ih within.1 (by simpa [TypeRef.qualifiedName] using separated)

end NamesBuiltin

/-- Types keep their names, and the new ones are declared by modules. -/
theorem NamesBuiltin.later (names : graph.NamesBuiltin) (keeps : graph.KeepsNames left)
    (young : ∀ type, graph.types.size ≤ type → type < left.types.size → left.IsLoaded type) :
    left.NamesBuiltin := by
  have old : ∀ type < left.types.size, ¬ left.IsLoaded type →
      type < graph.types.size ∧ ¬ graph.IsLoaded type := by
    intro type present builtin
    have isOld : type < graph.types.size := by
      by_contra new
      exact builtin (young type (Nat.le_of_not_lt new) present)
    refine ⟨isOld, ?_⟩
    rwa [IsLoaded, (keeps.identity type isOld).moduleName, ← IsLoaded] at builtin
  constructor
  · intro first firstPresent second secondPresent firstBuiltin secondBuiltin named
    obtain ⟨firstOld, firstBuiltin⟩ := old first firstPresent firstBuiltin
    obtain ⟨secondOld, secondBuiltin⟩ := old second secondPresent secondBuiltin
    rw [keeps.nameOf firstOld, keeps.nameOf secondOld] at named
    exact names.distinct first firstOld second secondOld firstBuiltin secondBuiltin named
  · intro type present builtin
    obtain ⟨isOld, builtin⟩ := old type present builtin
    rw [keeps.nameOf isOld]
    exact names.builtin type isOld builtin

end Graph

/-! ## Names in a session -/

section Loads

variable {graph base : Graph}

/-- The rest of a load makes no types and leaves their names as they are. -/
theorem finishModule_keepsNames {resolver : Resolver} {pending : List PendingType}
    (stubbed : Stubbed resolver base pending graph) :
    graph.KeepsNames ((finishModule resolver pending).exec graph).2 ∧
      ((finishModule resolver pending).exec graph).2.types.size = graph.types.size := by
  obtain ⟨linked, grows, size, -, nothing, complete, ran⟩ := finishModule_exec stubbed
  have linkedKeeps : graph.KeepsNames linked ∧ linked.types.size = graph.types.size :=
    ⟨.of_keepsSealed nothing.keeps, size⟩
  rw [ran]
  cases accepted : resolver.linksFailure? graph pending with
  | some failure => exact linkedKeeps
  | none =>
      rw [Option.elim_none]
      cases plan : completionPlan (pending.map (resolver.dependencies graph pending)) with
      | error cycle => exact linkedKeeps
      | ok order =>
          have each : ∀ entry left, Unfinished resolver base entry left →
              graph.KeepsNames left ∧ left.types.size = graph.types.size →
                graph.KeepsNames ((completeType resolver entry).exec left).2 ∧
                  ((completeType resolver entry).exec left).2.types.size
                    = graph.types.size := by
            intro entry left unfinished kept
            obtain ⟨-, frame, -⟩ := completeType_work unfinished
            exact ⟨kept.1.trans (KeepsNames.of_frame frame).1, frame.size.trans kept.2⟩
          obtain ⟨ordered, -⟩ := DependencyGraph.ordered_of_solve plan
          exact (completeTypes_keeps each stubbed.distinct ordered.nodup
            (fun place _ entry found => (complete accepted).2 entry (List.mem_of_getElem? found))
            grows linkedKeeps).2

/-- However a load ends, the types that it leaves are called after the module. -/
theorem isLoaded_loadModule {farm : Farm} (serial : Nat) {imports : List Module}
    (declaration : ModuleDeclaration) (houses : graph.Houses farm)
    (complete : ∀ imported ∈ imports, imported.Complete graph) {type : TypeId}
    (young : graph.types.size ≤ type)
    (present : type < ((loadModule farm serial imports declaration).exec graph).2.types.size) :
    ((loadModule farm serial imports declaration).exec graph).2.IsLoaded type := by
  by_cases named : declaration.name = ""
  · rw [loadModule_exec_unnamed farm serial imports named] at present
    exact absurd present (Nat.not_lt_of_le young)
  · obtain ⟨free, capacity⟩ := Nat.exists_eq_add_of_le houses.room
    obtain ⟨stubs, -, -, ready, ran, -, -, made, same⟩ :=
      @loadModule_exec graph farm serial free imports declaration houses complete named
        capacity.symm
    have kept : stubs.KeepsNames ((loadModule farm serial imports declaration).exec graph).2 ∧
        ((loadModule farm serial imports declaration).exec graph).2.types.size
          = stubs.types.size := by
      rw [ran]
      cases accepted : declarationsFailure? declaration.name free [] declaration.types with
      | some failure => exact ⟨.of_types rfl, rfl⟩
      | none => exact finishModule_keepsNames (ready accepted).2.2
    rw [kept.2] at present
    obtain ⟨declared, index, isStub⟩ := exists_stub houses.arena same young present
    rw [IsLoaded, (kept.1.identity type present).moduleName, isStub]
    exact named

end Loads

/-- In every state of a session, types that no module has declared have names of their own. -/
theorem Workspace.Session.namesBuiltin {settings : ArenaSettings} {workspace : Workspace}
    (session : Session settings workspace) : workspace.graph.NamesBuiltin := by
  have quiet : ∀ {graph left : Graph}, graph.NamesBuiltin → graph.KeepsNames left →
      left.types.size = graph.types.size → left.NamesBuiltin := by
    intro graph left names keeps size
    refine names.later keeps fun type young present => ?_
    exact absurd present (Nat.not_lt_of_le (size ▸ young))
  induction session with
  | start started => exact (registered_start started).2.1
  | load session known declaration ih =>
      have ready := session.ready
      have loaded := ih.later (.of_grows (ready.grows known declaration)) fun _ =>
        isLoaded_loadModule _ declaration ready.houses fun imported listed =>
          ready.complete imported (known imported listed)
      have types := types_eq_of_bare (reads_loadDeclaration session known declaration).bare
      exact quiet loaded (.of_types types) (by rw [types])
  | read session reads ih =>
      have types := types_eq_of_bare reads.bare
      exact quiet ih (.of_types types) (by rw [types])
  | @intern workspace session element within ih =>
      have types : ((workspace.farm.arrayOf element).exec workspace.graph).2.types
          = workspace.graph.types := by
        have run : (workspace.farm.arrayOf element).exec workspace.graph = _ :=
          exec_arrayOf _ _ _ _
        rw [run]
        exact types_withArray ..
      exact quiet ih (.of_types types) (by rw [types])

/-! ## Keys -/

namespace Member

/-- The types of the parameters without a leading receiver; nothing where a type is left open. -/
def explicitTypes (member : Member) : List (Option TypeRef) :=
  member.explicitParameters.map (·.type)

/-- Members have the same name and, apart from a leading receiver, parameters of the same types; a
parameter whose type is left open corresponds to another such one. -/
structure Agrees (first second : Member) : Prop where
  identifier : Text.canonical first.identifier = Text.canonical second.identifier
  types : List.Forall₂ (Option.Rel fun type other => type.same other = true) first.explicitTypes
    second.explicitTypes

/-- The type of a parameter leads to a type of a module that has a comma in its name. -/
def Separates (graph : Graph) (member : Member) : Prop :=
  ∃ reference type, some reference ∈ member.explicitTypes ∧ reference.innermost? = some type ∧
    graph.IsLoaded type ∧ ',' ∈ (graph.nameOf type).toList

/-- Parameter types at the same place have the same name and lead to different types of modules. -/
def Confuses (graph : Graph) (first second : Member) : Prop :=
  ∃ reference other, (some reference, some other) ∈ first.explicitTypes.zip second.explicitTypes ∧
    graph.Confuses reference other

theorem signature_eq (graph : Graph) (member : Member) :
    member.signature graph = ",".intercalate (member.explicitTypes.map graph.qualifiedNameOf) := by
  rw [signature, explicitTypes, List.map_map]
  rfl

/-- The key of a member that can be called is made of its kind, its name and its signature. -/
theorem key_eq_iff (graph : Graph) {first second : Member} (kinds : first.kind = second.kind)
    (executable : first.kind.isExecutable = true) :
    first.key graph = second.key graph ↔
      Text.canonical first.identifier = Text.canonical second.identifier ∧
        first.signature graph = second.signature graph := by
  rw [key, key, ← kinds, if_pos executable, if_pos executable]
  simp

/-- Members that agree have the same key. -/
theorem Agrees.key_eq (graph : Graph) {first second : Member} (agrees : first.Agrees second)
    (kinds : first.kind = second.kind) (executable : first.kind.isExecutable = true) :
    first.key graph = second.key graph := by
  rw [key_eq_iff graph kinds executable]
  refine ⟨agrees.identifier, ?_⟩
  rw [signature_eq, signature_eq]
  refine congrArg ",".intercalate (Mirror.map_eq_of_forall₂ agrees.types ?_).symm
  rintro _ _ (same | _)
  · exact (qualifiedName_eq_of_same graph same).symm
  · rfl

end Member

namespace Graph.NamesBuiltin

variable {graph : Graph} (names : graph.NamesBuiltin)

include names

/-- What a signature writes for a parameter is not empty, and has no comma unless the name of a type
of a module has one. -/
theorem qualifiedNameOf_plain {type : Option TypeRef}
    (within : type.all (·.isWithin graph.types.size) = true)
    (unseparated : ∀ reference id, type = some reference → reference.innermost? = some id →
      graph.IsLoaded id → ',' ∉ (graph.nameOf id).toList) :
    graph.qualifiedNameOf type ≠ "" ∧ ',' ∉ (graph.qualifiedNameOf type).toList := by
  cases type with
  | none =>
      change untypedName ≠ "" ∧ ',' ∉ untypedName.toList
      decide
  | some reference =>
      refine ⟨names.qualifiedName_ne_empty within, ?_⟩
      intro separated
      obtain ⟨id, leads, isLoaded, comma⟩ := names.exists_separated within separated
      exact unseparated reference id rfl leads isLoaded comma

/-- Parameter types that are written alike are the same, or there are two that lead to different
types of modules. -/
theorem rel_or_confuses {first second : List (Option TypeRef)}
    (within : ∀ type ∈ first, type.all (·.isWithin graph.types.size) = true)
    (secondWithin : ∀ type ∈ second, type.all (·.isWithin graph.types.size) = true)
    (named : first.map graph.qualifiedNameOf = second.map graph.qualifiedNameOf) :
    List.Forall₂ (Option.Rel fun type other => type.same other = true) first second ∨
      ∃ reference other, (some reference, some other) ∈ first.zip second ∧
        graph.Confuses reference other := by
  induction first generalizing second with
  | nil =>
      obtain rfl := List.map_eq_nil_iff.mp named.symm
      exact .inl .nil
  | cons type types ih =>
      cases second with
      | nil => cases named
      | cons other others =>
          rw [List.forall_mem_cons] at within secondWithin
          obtain ⟨sameName, otherNames⟩ := List.cons.inj named
          have here : Option.Rel (fun type other => type.same other = true) type other ∨
              ∃ reference shown, type = some reference ∧ other = some shown ∧
                graph.Confuses reference shown := by
            cases type with
            | none =>
                cases other with
                | none => exact .inl .none
                | some shown =>
                    exact absurd sameName.symm (names.qualifiedName_ne_untypedName secondWithin.1)
            | some reference =>
                cases other with
                | none => exact absurd sameName (names.qualifiedName_ne_untypedName within.1)
                | some shown =>
                    exact (names.same_or_confuses within.1 secondWithin.1 sameName).imp .some
                      fun confuses => ⟨reference, shown, rfl, rfl, confuses⟩
          rcases here with same | ⟨reference, shown, rfl, rfl, confuses⟩
          · refine (ih within.2 secondWithin.2 otherNames).imp (.cons same) ?_
            rintro ⟨reference, shown, listed, confuses⟩
            exact ⟨reference, shown, List.mem_cons_of_mem _ listed, confuses⟩
          · exact .inr ⟨reference, shown, List.mem_cons_self, confuses⟩

end Graph.NamesBuiltin

/-- In a session, members of one kind that can be called have the same key if they agree.  Members
with the same key agree, or a parameter type leads to a type of a module that has a comma in its
name, or parameter types at the same place have the same name and lead to different types of
modules. -/
theorem Workspace.key_eq_iff_agrees {settings : ArenaSettings} {workspace : Workspace}
    (session : Session settings workspace) {first second : Member}
    (kinds : first.kind = second.kind) (executable : first.kind.isExecutable = true)
    (within : ∀ type ∈ first.explicitTypes,
      type.all (·.isWithin workspace.graph.types.size) = true)
    (secondWithin : ∀ type ∈ second.explicitTypes,
      type.all (·.isWithin workspace.graph.types.size) = true) :
    (first.Agrees second → first.key workspace.graph = second.key workspace.graph) ∧
      (first.key workspace.graph = second.key workspace.graph →
        first.Agrees second ∨ first.Separates workspace.graph ∨
          second.Separates workspace.graph ∨ first.Confuses workspace.graph second) := by
  refine ⟨fun agrees => agrees.key_eq _ kinds executable, fun sameKey => ?_⟩
  obtain ⟨identifier, signature⟩ :=
    (Member.key_eq_iff workspace.graph kinds executable).mp sameKey
  by_cases separates : first.Separates workspace.graph
  · exact .inr (.inl separates)
  by_cases secondSeparates : second.Separates workspace.graph
  · exact .inr (.inr (.inl secondSeparates))
  have names := session.namesBuiltin
  have plain : ∀ {member : Member}, ¬ member.Separates workspace.graph →
      (∀ type ∈ member.explicitTypes,
        type.all (·.isWithin workspace.graph.types.size) = true) →
      ∀ text ∈ member.explicitTypes.map workspace.graph.qualifiedNameOf,
        text ≠ "" ∧ ',' ∉ text.toList := by
    intro member unseparated inside
    rw [List.forall_mem_map]
    intro type listed
    refine names.qualifiedNameOf_plain (inside type listed) ?_
    rintro reference id rfl leads isLoaded comma
    exact unseparated ⟨reference, id, listed, leads, isLoaded, comma⟩
  rw [Member.signature_eq, Member.signature_eq] at signature
  have named := Text.eq_of_intercalate_comma (plain separates within)
    (plain secondSeparates secondWithin) signature
  rcases names.rel_or_confuses within secondWithin named with types | confuses
  · exact .inl ⟨identifier, types⟩
  · exact .inr (.inr (.inr confuses))

namespace Workspace

/-- A method with a parameter of a type, one of an array over it and one that is left open. -/
def mixedMethod (leading : List Parameter) (type : TypeId) (base : Option TypeId) : Member :=
  .method none .pub false "f"
    (leading ++ [{ name := "x", type := some (.nominal type) },
      { name := "y", type := some (.array (.nominal type) base) }, { name := "z", type := none }]) none

/-- A leading receiver and the base class of an array have no influence on the key. -/
theorem key_eq_iff_agrees_baseModule :
    ∃ workspace, Session {} workspace ∧ workspace.graph.nameOf 8 = "base.P" ∧
      (mixedMethod [.self (some (.nominal 8))] 8 (some 0)).key workspace.graph
        = (mixedMethod [] 8 none).key workspace.graph := by
  have evaluated : startsIn (fun started =>
      let loaded := (started.loadDeclaration [] baseModule).2
      decide (loaded.graph.nameOf 8 = "base.P" ∧
        (∀ type ∈ (mixedMethod [.self (some (.nominal 8))] 8 (some 0)).explicitTypes,
          type.all (·.isWithin loaded.graph.types.size) = true) ∧
        ∀ type ∈ (mixedMethod [] 8 none).explicitTypes,
          type.all (·.isWithin loaded.graph.types.size) = true)) = true := by
    decide +kernel
  obtain ⟨started, session, evaluated⟩ := exists_of_startsIn evaluated
  obtain ⟨named, within, otherWithin⟩ := of_decide_eq_true evaluated
  have loaded := @Session.load {} started session [] (by simp) baseModule
  have agrees : (mixedMethod [.self (some (.nominal 8))] 8 (some 0)).Agrees
      (mixedMethod [] 8 none) :=
    ⟨rfl, .cons (.some rfl) (.cons (.some rfl) (.cons .none .nil))⟩
  have kinds : (mixedMethod [.self (some (.nominal 8))] 8 (some 0)).kind
      = (mixedMethod [] 8 none).kind := rfl
  exact ⟨_, loaded, named, (key_eq_iff_agrees loaded kinds rfl within otherWithin).1 agrees⟩

/-- Methods over the two classes of a module that is loaded twice have the same key. -/
theorem not_key_eq_iff_agrees_baseModule :
    ∃ workspace, Session {} workspace ∧ ∃ first second : Member, first.kind = second.kind ∧
      first.kind.isExecutable = true ∧
      (∀ type ∈ first.explicitTypes ++ second.explicitTypes,
        type.all (·.isWithin workspace.graph.types.size) = true) ∧
      first.key workspace.graph = second.key workspace.graph ∧ ¬ first.Agrees second := by
  have evaluated : startsIn (fun started =>
      let once := (started.loadDeclaration [] baseModule).2
      let twice := (once.loadDeclaration [] baseModule).2
      decide ((∀ type ∈ (mixedMethod [] 8 none).explicitTypes
          ++ (mixedMethod [] 9 none).explicitTypes,
          type.all (·.isWithin twice.graph.types.size) = true) ∧
        (mixedMethod [] 8 none).key twice.graph = (mixedMethod [] 9 none).key twice.graph))
      = true := by
    decide +kernel
  obtain ⟨started, session, evaluated⟩ := exists_of_startsIn evaluated
  obtain ⟨within, sameKey⟩ := of_decide_eq_true evaluated
  have once := @Session.load {} started session [] (by simp) baseModule
  have twice := @Session.load {} _ once [] (by simp) baseModule
  refine ⟨_, twice, mixedMethod [] 8 none, mixedMethod [] 9 none, rfl, rfl, within, sameKey, ?_⟩
  rintro ⟨-, _ | ⟨⟨different⟩, -⟩⟩
  exact absurd different (by decide)

end Workspace

end Nominal
