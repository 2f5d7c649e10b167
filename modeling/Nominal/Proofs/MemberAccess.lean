import Nominal.Proofs.Coherence

/-!
# What access to a member grants

`Graph.AdmitsMember` is the rule that the visibility of a member stands for.  A look-up that gives a
declaring type has found a member of that type above the type that it was asked for, and the rule
admits the reference, with one exception: `Graph.LeaksMember` says when a member that is reserved to
another module is given out.
-/

namespace Nominal

namespace Graph

/-! ## The rule of visibility -/

/-- The visibility of a declared member admits a reference made at a site. -/
def AdmitsMember (graph : Graph) (declaring : TypeId) (member : MemberId) (site : AccessSite) :
    Prop :=
  match (graph.memberAt member).visibility with
  | .pub => True
  | .prot => ∃ referencing, site.referencing = some referencing ∧
      graph.Reaches referencing declaring
  | .moduleOnly => site.moduleOf graph = (graph.typeAt declaring).moduleName
  | .priv => site.referencing = some declaring
  | .hidden => False

/-- A superclass makes the reference, and the closest member of the name is private to another
class, so what the superclass itself sees is given: a member that is reserved to another module. -/
structure LeaksMember (graph : Graph) (type : TypeId) (name : String) (site : AccessSite)
    (isStatic : Bool) (declaring : TypeId) (member : MemberId) : Prop where
  reserved : (graph.memberAt member).visibility = .moduleOnly
  foreign : site.moduleOf graph ≠ (graph.typeAt declaring).moduleName
  referenced : ∃ referencing, site.referencing = some referencing ∧
    referencing ∈ (graph.parentChain type).tail ∧ graph.Reaches referencing declaring ∧
    ∃ closest, (ClassMemberMap.ofClass graph type isStatic).closestByName? graph name true
        = some closest ∧
      (graph.memberAt closest.member).visibility = .priv ∧
      (graph.memberAt closest.member).definingType ≠ some referencing

/-- What a look-up of a name on a declared type gives. -/
structure Grants (graph : Graph) (type : TypeId) (name : String) (site : AccessSite)
    (isStatic : Bool) (declaring : TypeId) : Prop where
  above : graph.Reaches type declaring
  declared : ∃ member ∈ (graph.typeAt declaring).declaredByName name isStatic,
    (graph.memberAt member).visibility ≠ .hidden ∧
      (graph.AdmitsMember declaring member site ∨
        graph.LeaksMember type name site isStatic declaring member)

/-! ## Members found by name -/

section Loaded

variable {graph : Graph} {type : TypeId} {isStatic : Bool}

/-- A member that a class sees is declared by one of its superclasses. -/
theorem declared_of_mem_loadedAtRank (membered : graph.Membered) (rank : Nat) {name : String}
    {includeNonVisible : Bool} {loaded : LoadedMember}
    (listed : loaded ∈ (ClassMemberMap.ofClass graph type isStatic).loadedAtRank graph rank name
      includeNonVisible) :
    ∃ place declaring, (graph.parentChain type)[rank + place]? = some declaring ∧
      loaded.member ∈ (graph.typeAt declaring).declaredByName name isStatic ∧
      ClassMemberMap.takesPart graph includeNonVisible place loaded.member = true ∧
      (graph.memberAt loaded.member).definingType = some declaring := by
  obtain ⟨_, held⟩ := ClassMemberMap.mem_loadedAtRank.mp listed
  obtain ⟨_, place, _, takes, _⟩ := ClassMemberMap.takesPartAt_of_mem_mergeLevels held
  have declared := takes.declared
  simp only [ClassMemberMap.buckets, ClassMemberMap.ofClass, List.getElem?_map,
    List.getElem?_drop] at declared
  cases found : (graph.parentChain type)[rank + place]? with
  | none => simp [found] at declared
  | some declaring =>
      rw [found] at declared
      have inTable : loaded.member ∈ (graph.typeAt declaring).declaredByName name isStatic :=
        declared
      refine ⟨place, declaring, found, inTable, by simpa using takes.admitted, ?_⟩
      exact (membered.owns_of_mem_bucket inTable).owner

theorem visible_of_takesPart {includeNonVisible : Bool} {distance : Nat} {member : MemberId}
    (takes : ClassMemberMap.takesPart graph includeNonVisible distance member = true) :
    (graph.memberAt member).visibility ≠ .hidden := by
  simp only [ClassMemberMap.takesPart, Bool.and_eq_true, decide_eq_true_eq] at takes
  exact takes.1

/-- What a superclass sees is declared above it, and by itself if it is private. -/
theorem declared_of_superclassMember? (membered : graph.Membered) {referencing : TypeId}
    {name : String} {member : MemberId}
    (found : superclassMember? graph (ClassMemberMap.ofClass graph type isStatic) referencing name
      = some member) :
    referencing ∈ (graph.parentChain type).tail ∧ ∃ declaring,
      graph.Reaches type declaring ∧ graph.Reaches referencing declaring ∧
      member ∈ (graph.typeAt declaring).declaredByName name isStatic ∧
      (graph.memberAt member).definingType = some declaring ∧
      (graph.memberAt member).visibility ≠ .hidden ∧
      (declaring = referencing ∨ (graph.memberAt member).visibility.isSubclassVisible = true) := by
  simp only [superclassMember?, Option.bind_eq_bind, Option.bind_eq_some_iff] at found
  obtain ⟨rank, ranked, loaded, first, picked⟩ := found
  obtain rfl : loaded.member = member := Option.some.inj picked
  have chain : (ClassMemberMap.ofClass graph type isStatic).ranks.map (·.1)
      = graph.parentChain type := by
    simp [ClassMemberMap.ofClass, Function.comp_def]
  rw [chain] at ranked
  obtain ⟨inside, here, _⟩ := List.findIdx?_eq_some_iff_getElem.mp ranked
  have placed : (graph.parentChain type)[rank + 1]? = some referencing := by
    rw [← List.getElem?_tail, List.getElem?_eq_getElem inside]
    simpa using here
  have listed : loaded ∈ (ClassMemberMap.ofClass graph type isStatic).loadedAtRank graph
      ((rank + 1 : Nat) : Int) name false :=
    List.mem_of_head? first
  obtain ⟨place, declaring, above, declared, takes, owner⟩ :=
    declared_of_mem_loadedAtRank membered (rank + 1) listed
  refine ⟨?_, declaring, ?_, ?_, declared, owner, visible_of_takesPart takes, ?_⟩
  · exact List.mem_of_getElem? (by rw [List.getElem?_tail]; exact placed)
  · exact reaches_of_mem_parentChainFrom (List.mem_of_getElem? above)
  · exact reaches_of_getElem?_parentChain placed above
  · cases place with
    | zero =>
        left
        exact Option.some.inj (above.symm.trans placed)
    | succ place =>
        right
        simpa [ClassMemberMap.takesPart] using (Bool.and_eq_true_iff.mp takes).2

end Loaded

/-! ## Graphs that differ in kept views -/

section Bare

variable {graph left : Graph} (sound : graph.Sound) (read : graph.Reads left)

include read

theorem moduleOf_eq_of_reads (site : AccessSite) : site.moduleOf left = site.moduleOf graph := by
  simp only [AccessSite.moduleOf, typeAt_eq_of_bare read.bare]

include sound

theorem Grants.of_reads {type : TypeId} {name : String} {site : AccessSite} {isStatic : Bool}
    {declaring : TypeId} (grants : left.Grants type name site isStatic declaring) :
    graph.Grants type name site isStatic declaring := by
  obtain ⟨above, member, declared, visible, access⟩ := grants
  rw [reaches_eq_of_reads read] at above
  rw [typeAt_eq_of_bare read.bare] at declared
  rw [memberAt_eq_of_bare read.bare] at visible
  refine ⟨above, member, declared, visible, ?_⟩
  rcases access with admitted | ⟨reserved, foreign, referencing, site, below, reached, closest,
    first, secret, other⟩
  · left
    simp only [AdmitsMember, memberAt_eq_of_bare read.bare, reaches_eq_of_reads read,
      moduleOf_eq_of_reads read, typeAt_eq_of_bare read.bare] at admitted
    exact admitted
  · right
    rw [memberAt_eq_of_bare read.bare] at reserved secret other
    rw [moduleOf_eq_of_reads read, typeAt_eq_of_bare read.bare] at foreign
    rw [parentChain_eq_of_reads sound read] at below
    rw [reaches_eq_of_reads read] at reached
    refine ⟨reserved, foreign, referencing, site, below, reached, closest, ?_, secret, other⟩
    rw [ClassMemberMap.closestByName?, ofClass_eq_of_reads sound read,
      loadedByName_eq_of_reads sound read] at first
    exact first

end Bare

end Graph

/-! ## Builds that only read -/

/-- The build only reads, and what it gives satisfies a condition. -/
structure Build.Inspects {α : Type} (build : Build α) (graph : Graph) (condition : α → Prop) :
    Prop where
  reads : graph.Reads (build.exec graph).2
  given : ∀ answer, (build.exec graph).1 = .ok answer → condition answer

namespace Build.Inspects

variable {α β : Type} {graph : Graph} {condition : β → Prop}

theorem of_ok {build : Build β} {left : Graph} (read : graph.Reads left) {answer : β}
    (run : build.exec graph = (.ok answer, left)) (holds : condition answer) :
    build.Inspects graph condition := by
  constructor
  · rw [run]
    exact read
  · intro given equal
    rw [run] at equal
    cases equal
    exact holds

theorem of_error {build : Build β} {left : Graph} (read : graph.Reads left) {failure : Failure}
    (run : build.exec graph = (.error failure, left)) : build.Inspects graph condition := by
  constructor
  · rw [run]
    exact read
  · intro given equal
    rw [run] at equal
    cases equal

theorem mono {build : Build β} {weaker : β → Prop} (inspects : build.Inspects graph condition)
    (implies : ∀ answer, condition answer → weaker answer) : build.Inspects graph weaker :=
  ⟨inspects.reads, fun answer equal => implies answer (inspects.given answer equal)⟩

theorem bind_of_ok {build : Build α} {value : α} {left : Graph} {next : α → Build β}
    (read : graph.Reads left) (run : build.exec graph = (.ok value, left))
    (inspects : (next value).Inspects left condition) :
    Build.Inspects (build >>= next) graph condition := by
  have whole : (build >>= next).exec graph = (next value).exec left :=
    Build.exec_bind_of_ok run
  constructor
  · rw [whole]
    exact read.trans inspects.reads
  · rw [whole]
    exact inspects.given

theorem get_bind {next : Graph → Build β} (inspects : (next graph).Inspects graph condition) :
    Build.Inspects (get >>= next) graph condition :=
  ⟨inspects.reads, inspects.given⟩

theorem lift_bind {query : Query α} {value : Graph → α} (answers : query.Answers value)
    (sound : graph.Sound) {next : α → Build β}
    (inspects : ∀ left, graph.Reads left → (next (value graph)).Inspects left condition) :
    Build.Inspects (liftM query >>= next) graph condition := by
  obtain ⟨answered, read⟩ := answers graph sound
  have rest := inspects _ read
  rw [← answered] at rest
  exact ⟨read.trans rest.reads, rest.given⟩

end Build.Inspects

variable {graph : Graph} {type : TypeId} {name : String} {site : AccessSite} {isStatic : Bool}

theorem nominalDerivesFrom_answers (type other : TypeId) :
    (nominalDerivesFrom type (some (.nominal other)) true).Answers fun graph =>
      type == other || (graph.ancestors type false).contains other := by
  unfold nominalDerivesFrom
  dsimp only
  rw [TypeRef.same]
  split
  next same =>
    intro graph sound
    exact ⟨by simp [same, Query.exec_pure], .refl sound⟩
  next different =>
    apply (Query.Answers.ancestors type).bind
    intro graph sound left read
    exact ⟨by simp [different, View.value], .refl read.sound⟩

theorem reaches_of_derives {other : TypeId}
    (derives : (type == other || (graph.ancestors type false).contains other) = true) :
    graph.Reaches type other := by
  rcases Bool.or_eq_true_iff.mp derives with same | above
  · rw [eq_of_beq same]
    exact .refl
  · exact Graph.reaches_of_mem_ancestors (by simpa using above)

theorem nominalMemberNames_reads (sound : graph.Sound) (type : TypeId) (isStatic : Bool) :
    graph.Reads ((nominalMemberNames type isStatic).exec graph).2 := by
  unfold nominalMemberNames
  rw [Query.exec_bind, Query.exec_get]
  dsimp only
  split
  · exact (Query.Answers.classMemberMap type isStatic).reads sound
  · split
    · exact .refl sound
    · exact (Query.Answers.interfaceMemberMap type).reads sound

theorem rejectUnknownMember_inspects {α : Type} {condition : α → Prop} (sound : graph.Sound)
    (reference : TypeRef) (name : String) (isStatic : Bool) :
    (rejectUnknownMember reference name isStatic : Build α).Inspects graph condition := by
  have reads : graph.Reads ((memberNames reference isStatic).exec graph).2 := by
    unfold memberNames
    split
    · exact nominalMemberNames_reads sound _ _
    · exact nominalMemberNames_reads sound _ _
    · exact .refl sound
  exact .of_error reads rfl

/-! ## Look-ups on a class -/

theorem exec_definingTypeOf {member : MemberId} {declaring : TypeId}
    (owner : (graph.memberAt member).definingType = some declaring) :
    (definingTypeOf member).exec graph = (.ok declaring, graph) := by
  rw [definingTypeOf, Build.exec_get_bind, owner]
  rfl

/-- The member that a superclass sees is admitted or leaked. -/
theorem superclassMember?_grants (sound : graph.Sound) {closest : LoadedMember}
    (first : (ClassMemberMap.ofClass graph type isStatic).closestByName? graph name true
      = some closest)
    (secret : (graph.memberAt closest.member).visibility = .priv) {referencing : TypeId}
    (referenced : site.referencing = some referencing)
    (other : (graph.memberAt closest.member).definingType ≠ some referencing)
    {member : MemberId}
    (found : superclassMember? graph (ClassMemberMap.ofClass graph type isStatic) referencing name
      = some member) :
    ∃ declaring, (graph.memberAt member).definingType = some declaring ∧
      graph.Grants type name site isStatic declaring := by
  obtain ⟨below, declaring, above, reached, declared, owner, visible, seen⟩ :=
    Graph.declared_of_superclassMember? sound.wellFormed.membered found
  refine ⟨declaring, owner, above, member, declared, visible, ?_⟩
  have moduleOf : site.moduleOf graph = (graph.typeAt referencing).moduleName := by
    simp only [AccessSite.moduleOf, referenced]
  unfold Graph.AdmitsMember
  cases visibility : (graph.memberAt member).visibility with
  | pub => exact .inl trivial
  | prot => exact .inl ⟨referencing, referenced, reached⟩
  | moduleOnly =>
      by_cases same : site.moduleOf graph = (graph.typeAt declaring).moduleName
      · exact .inl same
      · exact .inr ⟨visibility, same, referencing, referenced, below, reached, closest, first,
          secret, other⟩
  | priv =>
      rw [visibility] at seen
      rcases seen with own | inherited
      · exact .inl (own ▸ referenced)
      · cases inherited
  | hidden => exact absurd visibility visible

theorem checkLoadedMember_inspects (sound : graph.Sound) :
    (checkLoadedMember type name site isStatic).Inspects graph
      (graph.Grants type name site isStatic) := by
  unfold checkLoadedMember
  refine .lift_bind (Query.Answers.classMemberMap type isStatic) sound ?_
  intro left read
  refine .mono ?_ fun _ => Graph.Grants.of_reads sound read
  rw [← Graph.ofClass_eq_of_reads sound read]
  have membered := read.sound.wellFormed.membered
  refine .get_bind ?_
  cases first : (ClassMemberMap.ofClass left type isStatic).closestByName? left name true with
  | none => exact rejectUnknownMember_inspects read.sound _ _ _
  | some closest =>
      dsimp only
      obtain ⟨place, declaring, placed, declared, takes, owner⟩ :=
        Graph.declared_of_mem_loadedAtRank membered 0 (List.mem_of_head? first)
      have above := Graph.reaches_of_mem_parentChainFrom (List.mem_of_getElem? placed)
      have grants : left.AdmitsMember declaring closest.member site →
          left.Grants type name site isStatic declaring := fun admitted =>
        ⟨above, closest.member, declared, Graph.visible_of_takesPart takes, .inl admitted⟩
      refine .bind_of_ok (.refl read.sound) (exec_definingTypeOf owner) ?_
      unfold Graph.AdmitsMember at grants
      cases visibility : (left.memberAt closest.member).visibility with
      | pub =>
          rw [visibility] at grants
          exact .of_ok (.refl read.sound) rfl (grants trivial)
      | prot =>
          rw [visibility] at grants
          dsimp only
          cases referenced : site.referencing with
          | none => exact .of_error (.refl read.sound) rfl
          | some referencing =>
              refine .lift_bind (nominalDerivesFrom_answers referencing declaring) read.sound ?_
              intro last readLast
              split
              next derives =>
                exact .of_ok (.refl readLast.sound) rfl
                  (grants ⟨referencing, referenced, reaches_of_derives derives⟩)
              next => exact .of_error (.refl readLast.sound) rfl
      | moduleOnly =>
          rw [visibility] at grants
          dsimp only
          split
          next same => exact .of_ok (.refl read.sound) rfl (grants same)
          next => exact .of_error (.refl read.sound) rfl
      | priv =>
          rw [visibility] at grants
          dsimp only
          split
          next own => exact .of_ok (.refl read.sound) rfl (grants own)
          next other =>
            cases found : (site.referencingClass? left).bind
                (superclassMember? left (ClassMemberMap.ofClass left type isStatic) · name) with
            | none => exact .of_error (.refl read.sound) rfl
            | some member =>
                obtain ⟨referencing, isClass, seen⟩ := Option.bind_eq_some_iff.mp found
                obtain ⟨referenced, _⟩ := Option.filter_eq_some_iff.mp isClass
                obtain ⟨owning, ownerOfSeen, grantsSeen⟩ := superclassMember?_grants read.sound
                  first visibility referenced
                  (fun same => other (referenced.trans (owner.symm.trans same).symm)) seen
                exact .of_ok (.refl read.sound) (exec_definingTypeOf ownerOfSeen) grantsSeen
      | hidden => exact .of_error (.refl read.sound) rfl

theorem checkClassMember_inspects (sound : graph.Sound) :
    (checkClassMember type name site isStatic).Inspects graph
      (graph.Grants type name site isStatic) := by
  unfold checkClassMember
  refine .get_bind ?_
  have loaded : ∀ {left : Graph}, graph.Reads left →
      (checkLoadedMember type name site isStatic).Inspects left
        (graph.Grants type name site isStatic) := fun read =>
    (checkLoadedMember_inspects read.sound).mono fun _ => Graph.Grants.of_reads sound read
  split
  next referencing inBody =>
    have referenced : site.referencing = some referencing := by
      split at inBody
      · exact (Option.filter_eq_some_iff.mp inBody).1
      · cases inBody
    refine .lift_bind (nominalDerivesFrom_answers type referencing) sound ?_
    intro left read
    split
    next derives =>
      split
      next own rest declared =>
        split
        next secret =>
          refine .of_ok (.refl read.sound) rfl ⟨reaches_of_derives derives, own, ?_, ?_, .inl ?_⟩
          · rw [declared]
            exact List.mem_cons_self
          · rw [secret]
            exact nofun
          · rw [Graph.AdmitsMember, secret]
            exact referenced
        next => exact loaded read
      next => exact loaded read
    next => exact loaded read
  next => exact loaded (.refl sound)

/-! ## Look-ups on an interface -/

namespace InterfaceMemberMap

/-- Every listed member is declared under its name by an interface above the owner. -/
def Collects (graph : Graph) (owner : TypeId) (map : InterfaceMemberMap) : Prop :=
  ∀ name members, map.byName.get? name = some members → ∀ member ∈ members,
    ∃ interface bucket, graph.Reaches owner interface ∧
      (name, bucket) ∈ (graph.typeAt interface).instanceMembers.entries ∧ member ∈ bucket

variable {owner : TypeId} {map : InterfaceMemberMap}

theorem Collects.addMember (collects : map.Collects graph owner) {interface : TypeId}
    (above : graph.Reaches owner interface) {name : String} {bucket : List MemberId}
    (entry : (name, bucket) ∈ (graph.typeAt interface).instanceMembers.entries)
    {member : MemberId} (declared : member ∈ bucket) :
    (map.addMember graph interface name member).Collects graph owner := by
  unfold InterfaceMemberMap.addMember
  split
  · exact collects
  · dsimp only
    split
    · exact collects
    · intro asked members found known listed
      rw [Table.get?_set] at found
      split at found
      next here =>
        subst here
        obtain rfl := Option.some.inj found
        rcases List.mem_append.mp listed with earlier | new
        · cases old : map.byName.get? asked with
          | none => simp [old] at earlier
          | some members =>
              rw [old, Option.getD_some] at earlier
              exact collects asked members old known earlier
        · rw [List.mem_singleton.mp new]
          exact ⟨interface, bucket, above, entry, declared⟩
      next => exact collects asked members found known listed

theorem Collects.addMembers (collects : map.Collects graph owner) {interface : TypeId}
    (above : graph.Reaches owner interface) {name : String} {bucket members : List MemberId}
    (entry : (name, bucket) ∈ (graph.typeAt interface).instanceMembers.entries)
    (declared : ∀ member ∈ members, member ∈ bucket) :
    (members.foldl (InterfaceMemberMap.addMember graph interface name) map).Collects
      graph owner := by
  induction members generalizing map with
  | nil => exact collects
  | cons member rest induction =>
      apply induction (collects.addMember above entry (declared member List.mem_cons_self))
      exact fun later listed => declared later (List.mem_cons_of_mem member listed)

theorem Collects.addInterface (collects : map.Collects graph owner) {interface : TypeId}
    (above : graph.Reaches owner interface) :
    (map.addInterface graph interface).Collects graph owner := by
  unfold InterfaceMemberMap.addInterface
  have all : ∀ (entries : List (String × List MemberId)) (map : InterfaceMemberMap),
      (∀ entry ∈ entries, entry ∈ (graph.typeAt interface).instanceMembers.entries) →
      map.Collects graph owner →
      (entries.foldl (fun map entry =>
        entry.2.foldl (InterfaceMemberMap.addMember graph interface entry.1) map) map).Collects
          graph owner := by
    intro entries
    induction entries with
    | nil => exact fun map _ collects => collects
    | cons entry rest induction =>
        intro map inside collects
        apply induction _ (fun later listed => inside later (List.mem_cons_of_mem entry listed))
        exact collects.addMembers above (inside entry List.mem_cons_self) fun _ listed => listed
  exact all _ map (fun _ listed => listed) collects

theorem Collects.mergeFrom (collects : map.Collects graph owner) (steps : Nat)
    (merged pending : List TypeId)
    (above : ∀ interface ∈ pending, graph.Reaches owner interface) :
    (InterfaceMemberMap.mergeFrom graph steps merged pending map).Collects graph owner := by
  induction steps generalizing merged pending map with
  | zero => exact collects
  | succ steps induction =>
      cases pending with
      | nil => exact collects
      | cons interface rest =>
          have later : ∀ other ∈ rest, graph.Reaches owner other := fun other listed =>
            above other (List.mem_cons_of_mem interface listed)
          have here := above interface List.mem_cons_self
          rw [InterfaceMemberMap.mergeFrom]
          split
          · exact induction collects _ _ later
          · apply induction (collects.addInterface here) _ _
            intro other listed
            rcases List.mem_append.mp listed with extended | waiting
            · exact here.tail (extends_of_mem_interfaces extended)
            · exact later other waiting

theorem collects_ofInterface (graph : Graph) (owner : TypeId) :
    (ofInterface graph owner).Collects graph owner := by
  refine Collects.mergeFrom ?_ _ _ _ ?_
  · intro name members found
    cases found
  · intro interface listed
    rw [List.mem_singleton.mp listed]
    exact .refl

end InterfaceMemberMap

/-- The members of an interface are public. -/
theorem grants_of_interfaceMember (sound : graph.Sound) {declaring : TypeId}
    {entry : String × List MemberId}
    (isInterface : (graph.typeAt declaring).isClass = false)
    (above : graph.Reaches type declaring)
    (listed : entry ∈ ((graph.typeAt declaring).declared isStatic).entries)
    (named : entry.1 = Text.canonical name) {member : MemberId} (declared : member ∈ entry.2) :
    (graph.memberAt member).definingType = some declaring ∧
      graph.Grants type name site isStatic declaring := by
  have membered := sound.wellFormed.membered
  have owns := membered.owned listed declared
  have publicly := owns.publicly isInterface
  have found := Table.get?_eq_some_of_mem (membered.distinct declaring isStatic) listed
  refine ⟨owns.owner, above, member, ?_, ?_, .inl ?_⟩
  · rw [NominalType.declaredByName, ← named, found]
    exact declared
  · rw [publicly]
    intro isPrivate
    cases isPrivate
  · rw [Graph.AdmitsMember, publicly]
    trivial

theorem isInterface_of_reaches (sound : graph.Sound)
    (isInterface : (graph.typeAt type).isClass = false) {ancestor : TypeId}
    (above : graph.Reaches type ancestor) : (graph.typeAt ancestor).isClass = false := by
  induction above with
  | refl => exact isInterface
  | @tail middle ancestor _ link below =>
      rcases List.mem_append.mp link with parent | interface
      · cases shape : (graph.typeAt middle).shape with
        | classShape part => simp [NominalType.isClass, shape] at below
        | interfaceShape => simp [NominalType.parent?, NominalType.classPart, shape] at parent
      · exact sound.wellFormed.hierarchical.interfaces interface

/-- The first member of a name of an interface. -/
def Graph.interfaceMember? (graph : Graph) (type : TypeId) (name : String) (isStatic : Bool) :
    Option MemberId :=
  if isStatic then ((graph.typeAt type).declaredByName name true).head?
  else ((InterfaceMemberMap.ofInterface graph type).membersByName name).head?

theorem interfaceMembersByName_answers (type : TypeId) (name : String) :
    (interfaceMembersByName type name).Answers fun graph =>
      (InterfaceMemberMap.ofInterface graph type).membersByName name := by
  apply (Query.Answers.interfaceMemberMap type).bind
  intro graph sound left read
  exact ⟨rfl, .refl read.sound⟩

theorem interfaceMemberByName?_answers (type : TypeId) (name : String) (isStatic : Bool) :
    (interfaceMemberByName? type name isStatic).Answers
      (·.interfaceMember? type name isStatic) := by
  unfold interfaceMemberByName? Graph.interfaceMember?
  cases isStatic with
  | true =>
      intro graph sound
      exact ⟨rfl, .refl sound⟩
  | false =>
      apply (interfaceMembersByName_answers type name).bind
      intro graph sound left read
      exact ⟨rfl, .refl read.sound⟩

theorem interfaceMember?_grants (sound : graph.Sound)
    (isInterface : (graph.typeAt type).isClass = false) {member : MemberId}
    (found : graph.interfaceMember? type name isStatic = some member) :
    ∃ declaring, (graph.memberAt member).definingType = some declaring ∧
      graph.Grants type name site isStatic declaring := by
  unfold Graph.interfaceMember? at found
  cases isStatic with
  | true =>
      have declared := List.mem_of_head? found
      unfold NominalType.declaredByName at declared
      cases bucket : ((graph.typeAt type).declared true).get? (Text.canonical name) with
      | none => simp [bucket] at declared
      | some members =>
          rw [bucket, Option.getD_some] at declared
          exact ⟨type, grants_of_interfaceMember sound isInterface .refl
            (Table.mem_of_get?_eq_some bucket) rfl declared⟩
  | false =>
      have listed := List.mem_of_head? found
      unfold InterfaceMemberMap.membersByName at listed
      cases bucket : (InterfaceMemberMap.ofInterface graph type).byName.get?
          (Text.canonical name) with
      | none => simp [bucket] at listed
      | some members =>
          rw [bucket, Option.getD_some] at listed
          obtain ⟨declaring, declared, above, entry, inBucket⟩ :=
            InterfaceMemberMap.collects_ofInterface graph type _ members bucket member listed
          exact ⟨declaring, grants_of_interfaceMember sound
            (isInterface_of_reaches sound isInterface above) above entry rfl inBucket⟩

theorem checkNominalMember_inspects (sound : graph.Sound) :
    (checkNominalMember type name site isStatic).Inspects graph
      (graph.Grants type name site isStatic) := by
  unfold checkNominalMember
  refine .get_bind ?_
  split
  · exact checkClassMember_inspects sound
  next isInterface =>
    refine .lift_bind (interfaceMemberByName?_answers type name isStatic) sound ?_
    intro left read
    split
    next member found =>
      obtain ⟨declaring, owner, grants⟩ :=
        interfaceMember?_grants sound (by simpa using isInterface) found
      rw [← Graph.memberAt_eq_of_bare read.bare] at owner
      exact .of_ok (.refl read.sound) (exec_definingTypeOf owner) grants
    next => exact rejectUnknownMember_inspects read.sound _ _ _

/-- The declared type whose members a reference offers. -/
def TypeRef.memberOwner? : TypeRef → Option TypeId
  | nominal id => some id
  | array _ base => base
  | primitive _ => none

/-- What a look-up on any type gives. -/
theorem checkMemberAccess_inspects (sound : graph.Sound) (reference : TypeRef) :
    (checkMemberAccess reference name site isStatic).Inspects graph fun declaring =>
      ∃ owner, reference.memberOwner? = some owner ∧
        graph.Grants owner (Text.canonical name) site isStatic declaring := by
  unfold checkMemberAccess
  dsimp only
  split
  next id =>
    exact (checkNominalMember_inspects sound).mono fun _ grants => ⟨id, rfl, grants⟩
  next base =>
    exact (checkNominalMember_inspects sound).mono fun _ grants => ⟨base, rfl, grants⟩
  next => exact rejectUnknownMember_inspects sound _ _ _

end Nominal
