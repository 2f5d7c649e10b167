import Nominal.Build.Seal

/-!
# Reading a changed graph

What is found at a place of a graph after a type, a member or the progress of a build has been
changed, or after a type or a member has been added.
-/

namespace Nominal

/-! ## Places of a graph -/

namespace Graph

variable {graph : Graph} {type other : TypeId} {member : MemberId}

theorem typeAt_of_size_le (absent : graph.types.size ≤ type) : graph.typeAt type = .blank := by
  simp [typeAt, Array.getElem?_eq_none absent]

theorem memberAt_of_size_le (absent : graph.members.size ≤ member) :
    graph.memberAt member = default := by
  simp [memberAt, Array.getElem?_eq_none absent]

theorem progressAt_of_size_le (absent : graph.progress.size ≤ type) :
    graph.progressAt type = {} := by
  simp [progressAt, Array.getElem?_eq_none absent]

theorem lt_size_of_isSealed (isFinal : graph.isSealed type = true) :
    type < graph.types.size := by
  apply Nat.lt_of_not_le
  intro absent
  rw [isSealed, typeAt_of_size_le absent] at isFinal
  cases isFinal

theorem lt_size_of_isClass (isClass : (graph.typeAt type).isClass = true) :
    type < graph.types.size := by
  apply Nat.lt_of_not_le
  intro absent
  rw [typeAt_of_size_le absent] at isClass
  cases isClass

theorem lt_size_of_isInheritable
    (inheritable : (graph.memberAt member).kind.isInheritable = true) :
    member < graph.members.size := by
  apply Nat.lt_of_not_le
  intro absent
  rw [memberAt_of_size_le absent] at inheritable
  cases inheritable

@[simp]
theorem size_modifyType (change : NominalType → NominalType) :
    (graph.modifyType type change).types.size = graph.types.size := by
  simp [modifyType]

theorem typeAt_modifyType_self (present : type < graph.types.size)
    (change : NominalType → NominalType) :
    (graph.modifyType type change).typeAt type = change (graph.typeAt type) := by
  simp [modifyType, typeAt, present, Array.getElem_modify]

theorem typeAt_modifyType_of_ne (different : other ≠ type)
    (change : NominalType → NominalType) :
    (graph.modifyType type change).typeAt other = graph.typeAt other := by
  simp [modifyType, typeAt, Array.getElem?_modify, different.symm]

@[simp]
theorem memberAt_modifyType (change : NominalType → NominalType) (member : MemberId) :
    (graph.modifyType type change).memberAt member = graph.memberAt member := rfl

@[simp]
theorem arenaAt_modifyType (change : NominalType → NominalType) (arena : ArenaId) :
    (graph.modifyType type change).arenaAt arena = graph.arenaAt arena := rfl

@[simp]
theorem size_modifyMember (change : Member → Member) :
    (graph.modifyMember member change).members.size = graph.members.size := by
  simp [modifyMember]

theorem memberAt_modifyMember_self (present : member < graph.members.size)
    (change : Member → Member) :
    (graph.modifyMember member change).memberAt member = change (graph.memberAt member) := by
  simp [modifyMember, memberAt, present, Array.getElem_modify]

theorem memberAt_modifyMember_of_ne {another : MemberId} (different : another ≠ member)
    (change : Member → Member) :
    (graph.modifyMember member change).memberAt another = graph.memberAt another := by
  simp [modifyMember, memberAt, Array.getElem?_modify, different.symm]

@[simp]
theorem typeAt_modifyMember (change : Member → Member) (type : TypeId) :
    (graph.modifyMember member change).typeAt type = graph.typeAt type := rfl

/-- A type is changed only where it is modified. -/
theorem typeAt_modifyType_cases (graph : Graph) (type : TypeId)
    (change : NominalType → NominalType) (other : TypeId) :
    (graph.modifyType type change).typeAt other = graph.typeAt other ∨
      other = type ∧ type < graph.types.size ∧
        (graph.modifyType type change).typeAt other = change (graph.typeAt type) := by
  by_cases same : other = type
  · subst same
    by_cases present : other < graph.types.size
    · exact .inr ⟨rfl, present, typeAt_modifyType_self present change⟩
    · left
      have absent := Nat.le_of_not_lt present
      rw [typeAt_of_size_le (by simpa using absent), typeAt_of_size_le absent]
  · exact .inl (typeAt_modifyType_of_ne same change)

/-- What relates a type to itself and to its change relates every type to what becomes of it. -/
theorem typeAt_modifyType_related {Related : NominalType → NominalType → Prop}
    (unchanged : ∀ old, Related old old) {change : NominalType → NominalType}
    (related : Related (graph.typeAt type) (change (graph.typeAt type))) (other : TypeId) :
    Related (graph.typeAt other) ((graph.modifyType type change).typeAt other) := by
  rcases typeAt_modifyType_cases graph type change other with same | ⟨rfl, -, changed⟩
  · rw [same]
    exact unchanged _
  · rw [changed]
    exact related

/-- What a change keeps of a type, it keeps of every type. -/
theorem typeAt_modifyType_kept {Part : Type} (read : NominalType → Part)
    {change : NominalType → NominalType}
    (kept : read (change (graph.typeAt type)) = read (graph.typeAt type)) (other : TypeId) :
    read ((graph.modifyType type change).typeAt other) = read (graph.typeAt other) := by
  rcases typeAt_modifyType_cases graph type change other with same | ⟨rfl, -, changed⟩
  · rw [same]
  · rw [changed, kept]

theorem isSealed_modifyType {change : NominalType → NominalType}
    (kept : (change (graph.typeAt type)).isSealed = (graph.typeAt type).isSealed)
    (other : TypeId) : (graph.modifyType type change).isSealed other = graph.isSealed other :=
  typeAt_modifyType_kept NominalType.isSealed kept other

/-- A change that does nothing to a type does nothing to the graph. -/
theorem modifyType_eq_self {change : NominalType → NominalType}
    (unchanged : type < graph.types.size → change (graph.typeAt type) = graph.typeAt type) :
    graph.modifyType type change = graph := by
  have types : graph.types.modify type change = graph.types := by
    apply Array.ext_getElem?
    intro place
    rw [Array.getElem?_modify]
    split
    next here =>
      subst here
      by_cases present : type < graph.types.size
      · have same := unchanged present
        simp only [typeAt, Array.getElem?_eq_getElem present, Option.getD_some] at same
        rw [Array.getElem?_eq_getElem present, Option.map_some, same]
      · rw [Array.getElem?_eq_none (Nat.le_of_not_lt present), Option.map_none]
    next => rfl
  simp only [modifyType, types]

theorem modifyType_modifyType (graph : Graph) (type : TypeId)
    (first second : NominalType → NominalType) :
    (graph.modifyType type first).modifyType type second
      = graph.modifyType type fun old => second (first old) := by
  have types : (graph.types.modify type first).modify type second
      = graph.types.modify type fun old => second (first old) := by
    apply Array.ext_getElem?
    intro place
    simp only [Array.getElem?_modify]
    by_cases here : type = place
    · simp [here, Function.comp_def]
    · simp [here]
  simp only [modifyType, types]

theorem modifyType_congr {first second : NominalType → NominalType}
    (same : first (graph.typeAt type) = second (graph.typeAt type)) :
    graph.modifyType type first = graph.modifyType type second := by
  have types : graph.types.modify type first = graph.types.modify type second := by
    apply Array.ext_getElem?
    intro place
    simp only [Array.getElem?_modify]
    by_cases here : type = place
    · subst here
      rw [typeAt] at same
      cases found : graph.types[type]? with
      | none => rfl
      | some kept => simpa [found] using same
    · simp [here]
  simp only [modifyType, types]

/-! ### The progress of a build -/

section Progress

variable {change : BuildProgress → BuildProgress}

theorem progressAt_modifyProgress_self (present : type < graph.progress.size)
    (change : BuildProgress → BuildProgress) :
    (graph.modifyProgress type change).progressAt type = change (graph.progressAt type) := by
  simp [progressAt, modifyProgress, Array.getElem_modify, present]

theorem progressAt_modifyProgress_of_ne (different : other ≠ type) :
    (graph.modifyProgress type change).progressAt other = graph.progressAt other := by
  simp only [progressAt, modifyProgress, Array.getElem?_modify, if_neg (Ne.symm different)]

theorem modifyProgress_of_size_le (absent : graph.progress.size ≤ type) :
    graph.modifyProgress type change = graph := by
  have same : graph.progress.modify type change = graph.progress := by
    apply Array.ext_getElem?
    intro place
    rw [Array.getElem?_modify]
    split
    next here => rw [← here, Array.getElem?_eq_none absent, Option.map_none]
    next => rfl
  rw [modifyProgress, same]

/-- What is read of the progress of a build is left alone by a change that leaves it alone. -/
theorem progress_modifyProgress {Value : Type} (read : BuildProgress → Value)
    (blind : ∀ progress, read (change progress) = read progress) :
    read ((graph.modifyProgress type change).progressAt other) = read (graph.progressAt other) := by
  by_cases present : type < graph.progress.size
  · by_cases here : other = type
    · rw [here, progressAt_modifyProgress_self present, blind]
    · rw [progressAt_modifyProgress_of_ne here]
  · rw [modifyProgress_of_size_le (Nat.le_of_not_lt present)]

end Progress

/-- The graph with a further type, which stands last in its arena. -/
def withType (graph : Graph) (type : NominalType) : Graph :=
  { graph with
    arenas := graph.arenas.modify type.arena fun old =>
      { old with types := old.types ++ [graph.types.size] }
    types := graph.types.push type
    progress := graph.progress.push {} }

theorem typeAt_withType_of_ne {added : NominalType} (different : other ≠ graph.types.size) :
    (graph.withType added).typeAt other = graph.typeAt other := by
  simp [withType, typeAt, Array.getElem?_push, different]

theorem typeAt_withType_self (added : NominalType) :
    (graph.withType added).typeAt graph.types.size = added := by
  simp [withType, typeAt]

@[simp]
theorem memberAt_withType (added : NominalType) (member : MemberId) :
    (graph.withType added).memberAt member = graph.memberAt member := rfl

@[simp]
theorem size_withType (graph : Graph) (added : NominalType) :
    (graph.withType added).types.size = graph.types.size + 1 := by
  simp [withType]

/-- A further type stands where no type was. -/
theorem typeAt_withType_cases (graph : Graph) (added : NominalType) (other : TypeId) :
    (graph.withType added).typeAt other = graph.typeAt other ∨
      other = graph.types.size ∧ (graph.withType added).typeAt other = added := by
  by_cases new : other = graph.types.size
  · subst new
    exact .inr ⟨rfl, typeAt_withType_self added⟩
  · exact .inl (typeAt_withType_of_ne new)

/-- A further type that is open leaves what is sealed. -/
theorem isSealed_withType {added : NominalType} (isOpen : added.isSealed = false)
    (other : TypeId) : (graph.withType added).isSealed other = graph.isSealed other := by
  rcases typeAt_withType_cases graph added other with same | ⟨rfl, new⟩
  · rw [isSealed, same, isSealed]
  · rw [isSealed, new, isOpen, isSealed, typeAt_of_size_le (Nat.le_refl _)]
    rfl

theorem progressAt_withType (graph : Graph) (added : NominalType) (other : TypeId) :
    (graph.withType added).progressAt other = graph.progressAt other := by
  by_cases new : other = graph.progress.size
  · rw [progressAt_of_size_le (Nat.le_of_eq new.symm)]
    simp [progressAt, withType, new]
  · simp [progressAt, withType, Array.getElem?_push, new]

/-- An arena is changed only where it is modified. -/
theorem arenaAt_modify_cases (graph : Graph) (arena : ArenaId) (change : Arena → Arena)
    (asked : ArenaId) :
    { graph with arenas := graph.arenas.modify arena change : Graph }.arenaAt asked
        = graph.arenaAt asked ∨
      asked = arena ∧
        { graph with arenas := graph.arenas.modify arena change : Graph }.arenaAt asked
        = change (graph.arenaAt arena) := by
  simp only [arenaAt, Array.getElem?_modify]
  by_cases same : arena = asked
  · subst same
    cases found : graph.arenas[arena]? with
    | none => simp
    | some kept => simp
  · simp [same]

@[simp]
theorem arenaCount_withType (graph : Graph) (added : NominalType) :
    (graph.withType added).arenas.size = graph.arenas.size :=
  Array.size_modify

/-- A further type changes no arena but in the list of its types. -/
theorem arenaAt_withType (graph : Graph) (added : NominalType) (arena : ArenaId) :
    ((graph.withType added).arenaAt arena).settings = (graph.arenaAt arena).settings ∧
      ((graph.withType added).arenaAt arena).arrays = (graph.arenaAt arena).arrays := by
  rcases arenaAt_modify_cases graph added.arena
    (fun old => { old with types := old.types ++ [graph.types.size] }) arena with
    same | ⟨rfl, changed⟩
  · exact ⟨congrArg Arena.settings same, congrArg Arena.arrays same⟩
  · exact ⟨(congrArg Arena.settings changed :), (congrArg Arena.arrays changed :)⟩

/-- The types of an arena, with the further type if it belongs there. -/
theorem arenaTypes_withType {added : NominalType} (present : added.arena < graph.arenas.size)
    (arena : ArenaId) : ((graph.withType added).arenaAt arena).types =
      if arena = added.arena then (graph.arenaAt arena).types ++ [graph.types.size]
      else (graph.arenaAt arena).types := by
  simp only [withType, arenaAt, Array.getElem?_modify]
  by_cases here : arena = added.arena
  · subst here
    simp [present]
  · simp [here, Ne.symm here]

/-- The graph with a further member. -/
def withMember (graph : Graph) (member : Member) : Graph :=
  { graph with members := graph.members.push member }

theorem memberAt_withMember_of_ne {added : Member} (different : member ≠ graph.members.size) :
    (graph.withMember added).memberAt member = graph.memberAt member := by
  simp [withMember, memberAt, Array.getElem?_push, different]

theorem memberAt_withMember_self (added : Member) :
    (graph.withMember added).memberAt graph.members.size = added := by
  simp [withMember, memberAt]

end Graph

/-! ## Parts of a type -/

namespace NominalType

/-- What a type has from the beginning and never changes. -/
structure SameIdentity (old new : NominalType) : Prop where
  identifier : new.identifier = old.identifier
  moduleName : new.moduleName = old.moduleName
  visibility : new.visibility = old.visibility
  properties : new.properties = old.properties
  arena : new.arena = old.arena
  index : new.index = old.index
  isClass : new.isClass = old.isClass

namespace SameIdentity

theorem refl (type : NominalType) : type.SameIdentity type :=
  ⟨rfl, rfl, rfl, rfl, rfl, rfl, rfl⟩

theorem trans {first second third : NominalType} (early : first.SameIdentity second)
    (late : second.SameIdentity third) : first.SameIdentity third :=
  ⟨late.identifier.trans early.identifier, late.moduleName.trans early.moduleName,
    late.visibility.trans early.visibility, late.properties.trans early.properties,
    late.arena.trans early.arena, late.index.trans early.index,
    late.isClass.trans early.isClass⟩

theorem symm {old new : NominalType} (same : old.SameIdentity new) : new.SameIdentity old :=
  ⟨same.identifier.symm, same.moduleName.symm, same.visibility.symm, same.properties.symm,
    same.arena.symm, same.index.symm, same.isClass.symm⟩

theorem qualifiedName {old new : NominalType} (same : old.SameIdentity new) :
    new.qualifiedName = old.qualifiedName := by
  simp only [NominalType.qualifiedName, same.identifier, same.moduleName]

end SameIdentity

variable {type : NominalType}

theorem mapClassPart_identity (type : NominalType) (change : ClassPart → ClassPart) :
    type.SameIdentity (type.mapClassPart change) := by
  cases shape : type.shape with
  | classShape part =>
      constructor <;> simp [mapClassPart, shape, isClass]
  | interfaceShape =>
      simp only [mapClassPart, shape]
      exact .refl type

@[simp]
theorem mapClassPart_state (type : NominalType) (change : ClassPart → ClassPart) :
    (type.mapClassPart change).state = type.state := by
  cases shape : type.shape <;> simp [mapClassPart, shape]

@[simp]
theorem mapClassPart_interfaces (type : NominalType) (change : ClassPart → ClassPart) :
    (type.mapClassPart change).interfaces = type.interfaces := by
  cases shape : type.shape <;> simp [mapClassPart, shape]

@[simp]
theorem mapClassPart_annotations (type : NominalType) (change : ClassPart → ClassPart) :
    (type.mapClassPart change).annotations = type.annotations := by
  cases shape : type.shape <;> simp [mapClassPart, shape]

@[simp]
theorem mapClassPart_extensionClasses (type : NominalType) (change : ClassPart → ClassPart) :
    (type.mapClassPart change).extensionClasses = type.extensionClasses := by
  cases shape : type.shape <;> simp [mapClassPart, shape]

@[simp]
theorem mapClassPart_docString (type : NominalType) (change : ClassPart → ClassPart) :
    (type.mapClassPart change).docString = type.docString := by
  cases shape : type.shape <;> simp [mapClassPart, shape]

@[simp]
theorem mapClassPart_implementation (type : NominalType) (change : ClassPart → ClassPart) :
    (type.mapClassPart change).implementation = type.implementation := by
  cases shape : type.shape <;> simp [mapClassPart, shape]

@[simp]
theorem mapClassPart_declared (type : NominalType) (change : ClassPart → ClassPart)
    (isStatic : Bool) : (type.mapClassPart change).declared isStatic = type.declared isStatic := by
  cases shape : type.shape <;> simp [mapClassPart, shape, declared]

theorem mapClassPart_classPart (isClass : type.isClass = true) (change : ClassPart → ClassPart) :
    (type.mapClassPart change).classPart = change type.classPart := by
  cases shape : type.shape with
  | classShape part => simp [mapClassPart, shape, classPart]
  | interfaceShape => simp [NominalType.isClass, shape] at isClass

/-- An interface has nothing that only a class has. -/
theorem mapClassPart_of_interface (isInterface : type.isClass = false)
    (change : ClassPart → ClassPart) : type.mapClassPart change = type := by
  cases shape : type.shape with
  | classShape part => simp [NominalType.isClass, shape] at isInterface
  | interfaceShape => simp [mapClassPart, shape]

theorem mapClassPart_parent? (isClass : type.isClass = true) (change : ClassPart → ClassPart) :
    (type.mapClassPart change).parent? = (change type.classPart).parent := by
  cases shape : type.shape with
  | classShape part => simp [mapClassPart, shape, parent?, classPart]
  | interfaceShape => simp [NominalType.isClass, shape] at isClass

/-- A change that keeps the parent keeps it also for an interface, which has none. -/
theorem mapClassPart_parent?_of_eq (type : NominalType) {change : ClassPart → ClassPart}
    (kept : ∀ part, (change part).parent = part.parent) :
    (type.mapClassPart change).parent? = type.parent? := by
  cases shape : type.shape with
  | classShape part => simp [mapClassPart, shape, parent?, classPart, kept]
  | interfaceShape => simp [mapClassPart, shape]

theorem mapDeclared_identity (type : NominalType) (isStatic : Bool)
    (change : MemberTable → MemberTable) :
    type.SameIdentity (type.mapDeclared isStatic change) := by
  cases isStatic <;> exact ⟨rfl, rfl, rfl, rfl, rfl, rfl, rfl⟩

@[simp]
theorem mapDeclared_state (type : NominalType) (isStatic : Bool)
    (change : MemberTable → MemberTable) :
    (type.mapDeclared isStatic change).state = type.state := by
  cases isStatic <;> rfl

@[simp]
theorem mapDeclared_parent? (type : NominalType) (isStatic : Bool)
    (change : MemberTable → MemberTable) :
    (type.mapDeclared isStatic change).parent? = type.parent? := by
  cases isStatic <;> rfl

@[simp]
theorem mapDeclared_interfaces (type : NominalType) (isStatic : Bool)
    (change : MemberTable → MemberTable) :
    (type.mapDeclared isStatic change).interfaces = type.interfaces := by
  cases isStatic <;> rfl

@[simp]
theorem mapDeclared_annotations (type : NominalType) (isStatic : Bool)
    (change : MemberTable → MemberTable) :
    (type.mapDeclared isStatic change).annotations = type.annotations := by
  cases isStatic <;> rfl

@[simp]
theorem mapDeclared_implementation (type : NominalType) (isStatic : Bool)
    (change : MemberTable → MemberTable) :
    (type.mapDeclared isStatic change).implementation = type.implementation := by
  cases isStatic <;> rfl

theorem mapDeclared_declared (type : NominalType) (isStatic asked : Bool)
    (change : MemberTable → MemberTable) :
    (type.mapDeclared isStatic change).declared asked =
      if asked = isStatic then change (type.declared asked) else type.declared asked := by
  cases isStatic <;> cases asked <;> rfl

end NominalType

end Nominal
