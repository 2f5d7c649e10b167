import Nominal.Proofs.MirroredWork

/-!
# Completing a type in two graphs

A type takes the members of its declaration and is sealed.  In graphs that correspond to each other
on the type and on everything above it, the completed types correspond to each other, or the
completion fails in both graphs.
-/

namespace Nominal

open Nominal.Graph

namespace Mirror

variable {mirror : Mirror} {farm : Farm} {population : TypeId → Prop} {resolver image : Resolver}
  {type : TypeId} {graph other : Graph}

/-! ## Placing a member -/

section Placing

variable {member shown : MemberId} (related : mirror.ShowsMemberAt graph other member shown)

theorem ShowsTable.set {table imageTable : MemberTable}
    (shows : mirror.ShowsTable graph other table imageTable) (name : String)
    {bucket imageBucket : List MemberId}
    (listed : List.Forall₂ (mirror.ShowsMemberAt graph other) bucket imageBucket) :
    mirror.ShowsTable graph other (table.set name bucket) (imageTable.set name imageBucket) := by
  obtain ⟨entries⟩ := table
  obtain ⟨images⟩ := imageTable
  unfold ShowsTable at shows
  unfold ShowsTable Table.set
  dsimp only at shows ⊢
  induction shows with
  | nil => exact .cons ⟨rfl, listed⟩ .nil
  | @cons entry shown _ _ here rest ih =>
      unfold Table.setEntry
      rw [here.1]
      split
      · exact .cons ⟨rfl, listed⟩ rest
      · exact .cons here ih

include related

theorem ShowsTable.add {table imageTable : MemberTable}
    (shows : mirror.ShowsTable graph other table imageTable) (name : String) :
    mirror.ShowsTable graph other
      (table.set name ((table.get? name).getD [] ++ [member]))
      (imageTable.set name ((imageTable.get? name).getD [] ++ [shown])) :=
  shows.set name (List.rel_append (shows.get? name) (.cons related .nil))

variable {old imageOld : NominalType}

theorem ShowsType.withListed (shows : mirror.ShowsType graph other old imageOld) (isStatic : Bool)
    (name : String) :
    mirror.ShowsType graph other (old.withListed isStatic name member)
      (imageOld.withListed isStatic name shown) := by
  unfold NominalType.withListed NominalType.mapDeclared
  cases isStatic with
  | true =>
      refine ⟨shows.state, shows.parent, shows.interfaces, fun asked => ?_⟩
      cases asked with
      | true => exact (shows.declared true).add related name
      | false => exact shows.declared false
  | false =>
      refine ⟨shows.state, shows.parent, shows.interfaces, fun asked => ?_⟩
      cases asked with
      | true => exact shows.declared true
      | false => exact (shows.declared false).add related name

omit related in
theorem ShowsBody.withListed (shows : mirror.ShowsBody graph other old imageOld) (isStatic : Bool)
    (name : String) :
    mirror.ShowsBody graph other (old.withListed isStatic name member)
      (imageOld.withListed isStatic name shown) := by
  unfold NominalType.withListed NominalType.mapDeclared
  cases isStatic with
  | true | false => exact ⟨shows.extensionClasses, shows.annotations, shows.docString, shows.part⟩

omit related in
theorem shows_mapClassPart (face : old.SameFace imageOld)
    (shows : mirror.ShowsType graph other old imageOld)
    (body : mirror.ShowsBody graph other old imageOld) {change imageChange : ClassPart → ClassPart}
    (parent : ∀ part : ClassPart, (change part).parent = part.parent)
    (imageParent : ∀ part : ClassPart, (imageChange part).parent = part.parent)
    (changed : mirror.ShowsPart graph other (change old.classPart)
      (imageChange imageOld.classPart)) :
    mirror.ShowsType graph other (old.mapClassPart change) (imageOld.mapClassPart imageChange) ∧
      mirror.ShowsBody graph other (old.mapClassPart change)
        (imageOld.mapClassPart imageChange) := by
  have kept := face.isClass
  cases isClass : old.isClass with
  | true =>
      rw [isClass] at kept
      refine ⟨⟨?_, ?_, ?_, fun isStatic => ?_⟩, ⟨?_, ?_, ?_, ?_⟩⟩
      · rw [NominalType.mapClassPart_state, NominalType.mapClassPart_state, shows.state]
      · rw [NominalType.mapClassPart_parent?_of_eq _ parent,
          NominalType.mapClassPart_parent?_of_eq _ imageParent, shows.parent]
      · rw [NominalType.mapClassPart_interfaces, NominalType.mapClassPart_interfaces,
          shows.interfaces]
      · rw [NominalType.mapClassPart_declared, NominalType.mapClassPart_declared]
        exact shows.declared isStatic
      · rw [NominalType.mapClassPart_extensionClasses, NominalType.mapClassPart_extensionClasses,
          body.extensionClasses]
      · rw [NominalType.mapClassPart_annotations, NominalType.mapClassPart_annotations,
          body.annotations]
      · rw [NominalType.mapClassPart_docString, NominalType.mapClassPart_docString, body.docString]
      · rw [NominalType.mapClassPart_classPart isClass, NominalType.mapClassPart_classPart kept]
        exact changed
  | false =>
      rw [isClass] at kept
      rw [NominalType.mapClassPart_of_interface isClass,
        NominalType.mapClassPart_of_interface kept]
      exact ⟨shows, body⟩

theorem shows_placed {before imageBefore : Graph}
    (face : old.SameFace imageOld)
    (offered : mirror.ShowsMember (before.memberAt member) (imageBefore.memberAt shown))
    (shows : mirror.ShowsType graph other old imageOld)
    (body : mirror.ShowsBody graph other old imageOld) :
    mirror.ShowsType graph other (before.placed member old) (imageBefore.placed shown imageOld) ∧
      mirror.ShowsBody graph other (before.placed member old)
        (imageBefore.placed shown imageOld) := by
  unfold Graph.placed
  rw [offered.kind, offered.isStatic, offered.identifier]
  cases (before.memberAt member).kind with
  | constructor =>
      exact shows_mapClassPart face shows body (fun _ => rfl) (fun _ => rfl)
        { body.part with
          constructors := List.rel_append body.part.constructors (.cons related .nil) }
  | initializer =>
      exact shows_mapClassPart face shows body (fun _ => rfl) (fun _ => rfl)
        { body.part with
          initializers := List.rel_append body.part.initializers (.cons related .nil) }
  | staticConstructor =>
      exact shows_mapClassPart face shows body (fun _ => rfl) (fun _ => rfl)
        { body.part with staticConstructor := .some related }
  | field | method | unknown =>
      exact ⟨shows.withListed related _ _, body.withListed _ _⟩

end Placing

/-! ## Changes of the type under construction -/

section Changes

theorem typeAt_of_types {left : Graph} (same : left.types = graph.types) (asked : TypeId) :
    left.typeAt asked = graph.typeAt asked := by
  rw [Graph.typeAt, same, Graph.typeAt]

theorem sameTypes_modifyType {change : NominalType → NominalType}
    (identity : ∀ old : NominalType, old.SameIdentity (change old)) :
    graph.SameTypes (graph.modifyType type change) := by
  refine ⟨size_modifyType change, fun asked => ?_⟩
  by_cases same : asked = type
  · subst same
    by_cases present : asked < graph.types.size
    · rw [typeAt_modifyType_self present]
      exact identity _
    · have absent := Nat.le_of_not_lt present
      rw [typeAt_of_size_le absent, typeAt_of_size_le ((size_modifyType change).symm ▸ absent)]
      exact .refl _
  · rw [typeAt_modifyType_of_ne same]
    exact .refl _

variable (shows : mirror.Shows farm population graph other) (inside : population type)
  {left last : Graph}

include shows inside

/-- Corresponding changes of corresponding types. -/
theorem Shows.changeType (retains : graph.RetainsMembers left)
    (imageRetains : other.RetainsMembers last) {change imageChange : NominalType → NominalType}
    (types : left.types = (graph.modifyType type change).types)
    (imageTypes : last.types = (other.modifyType (mirror.rename type) imageChange).types)
    (arenas : left.arenas = graph.arenas) (imageArenas : last.arenas = other.arenas)
    (identity : ∀ old : NominalType, old.SameIdentity (change old))
    (imageIdentity : ∀ old : NominalType, old.SameIdentity (imageChange old))
    (closed : ∀ {type supertype}, population type → left.Extends type supertype →
      population supertype)
    (changed : mirror.ShowsType left last (change (graph.typeAt type))
      (imageChange (other.typeAt (mirror.rename type))))
    (changedBody : mirror.common ≤ type → mirror.ShowsBody left last (change (graph.typeAt type))
      (imageChange (other.typeAt (mirror.rename type)))) :
    mirror.Shows farm population left last := by
  have typeAt := typeAt_of_types types
  have imageTypeAt := typeAt_of_types imageTypes
  have present := shows.within inside
  have same : graph.SameTypes left := by
    refine (sameTypes_modifyType identity).trans ⟨by rw [types], fun asked => ?_⟩
    rw [typeAt]
    exact .refl _
  have imageSame : other.SameTypes last := by
    refine (sameTypes_modifyType imageIdentity).trans ⟨by rw [imageTypes], fun asked => ?_⟩
    rw [imageTypeAt]
    exact .refl _
  have arenaAt : left.arenaAt farm.arena = graph.arenaAt farm.arena := by
    rw [Graph.arenaAt, arenas, Graph.arenaAt]
  have imageArenaAt : last.arenaAt farm.arena = other.arenaAt farm.arena := by
    rw [Graph.arenaAt, imageArenas, Graph.arenaAt]
  refine shows.step retains imageRetains same imageSame closed ?_ ?_ ?_
  · intro asked listed
    rw [typeAt, imageTypeAt]
    by_cases here : asked = type
    · subst here
      rw [typeAt_modifyType_self (shows.source.size.symm ▸ present),
        typeAt_modifyType_self (shows.target.size.symm ▸ mirror.present present)]
      exact .inr ⟨changed, changedBody⟩
    · have apart : mirror.rename asked ≠ mirror.rename type :=
        fun equal => here (mirror.injective (shows.within listed) present equal)
      exact .inl ⟨typeAt_modifyType_of_ne here _, typeAt_modifyType_of_ne apart _⟩
  · rw [arenaAt, imageArenaAt]
    exact shows.arrays
  · rw [arenaAt, imageArenaAt]
    exact shows.settings

/-- A change that keeps the supertypes stays below the same types. -/
theorem Shows.closed_of_links {change : NominalType → NominalType}
    (types : left.types = (graph.modifyType type change).types)
    (links : ∀ old : NominalType, (change old).supertypes = old.supertypes)
    {lower supertype : TypeId} (listed : population lower) (link : left.Extends lower supertype) :
    population supertype := by
  refine shows.closed listed ?_
  rw [Extends, supertypesOf, typeAt_of_types types] at link
  by_cases here : lower = type
  · subst here
    rw [typeAt_modifyType_self (shows.source.size.symm ▸ shows.within inside), links] at link
    exact link
  · rw [typeAt_modifyType_of_ne here] at link
    exact link

theorem Shows.withState (state : BuildState) (members : left.members = graph.members)
    (imageMembers : last.members = other.members)
    (types : left.types = (graph.modifyType type ({ · with state })).types)
    (imageTypes : last.types = (other.modifyType (mirror.rename type) ({ · with state })).types)
    (arenas : left.arenas = graph.arenas) (imageArenas : last.arenas = other.arenas) :
    mirror.Shows farm population left last := by
  have retains := RetainsMembers.of_eq members
  have imageRetains := RetainsMembers.of_eq imageMembers
  have here := (shows.types inside).later retains imageRetains
  refine shows.changeType inside retains imageRetains types imageTypes arenas imageArenas
    (fun _ => ⟨rfl, rfl, rfl, rfl, rfl, rfl, rfl⟩) (fun _ => ⟨rfl, rfl, rfl, rfl, rfl, rfl, rfl⟩)
    (shows.closed_of_links inside types fun _ => rfl)
    ⟨rfl, here.parent, here.interfaces, here.declared⟩ fun young => ?_
  have body := (shows.bodies inside young).later retains imageRetains
  exact ⟨body.extensionClasses, body.annotations, body.docString, body.part⟩

end Changes

/-! ## Members of the declaration -/

theorem memberAt_withDeclared_last (graph : Graph) (type : TypeId) (member : Member) :
    ((graph.withMember member).withDeclared type graph.members.size).memberAt graph.members.size
      = { member with
          definingType := some type, identifier := Text.canonical member.identifier } := by
  have offered : (graph.withMember member).memberAt graph.members.size = member :=
    memberAt_withMember_self member
  unfold Graph.withDeclared Graph.withAdopted Graph.withOwner
  rw [memberAt_modifyType, memberAt_modifyMember_self (by simp [Graph.withMember]), offered]

theorem size_members_withDeclared_last (graph : Graph) (type : TypeId) (member : Member) :
    ((graph.withMember member).withDeclared type graph.members.size).members.size
      = graph.members.size + 1 := by
  simp [Graph.withMember, Graph.withDeclared, Graph.withAdopted, Graph.withOwner, Graph.modifyType,
    Graph.modifyMember]

theorem retainsMembers_withDeclared_last (graph : Graph) (type : TypeId) (member : Member) :
    graph.RetainsMembers ((graph.withMember member).withDeclared type graph.members.size) := by
  refine ⟨?_, fun {asked} old => ?_⟩
  · rw [size_members_withDeclared_last]
    exact Nat.le_succ _
  · have apart : asked ≠ graph.members.size := Nat.ne_of_lt old
    unfold Graph.withDeclared Graph.withAdopted Graph.withOwner
    rw [memberAt_modifyType, memberAt_modifyMember_of_ne apart, memberAt_withMember_of_ne apart]

section Members

variable (names : mirror.ShowsResolver resolver image)
  (paired : mirror.Paired resolver image population type graph other) (inside : population type)
  (young : mirror.common ≤ type)

include names paired

theorem Paired.checksAncestors :
    other.checksAncestors (mirror.rename type) = graph.checksAncestors type := by
  have farm := names.farm
  unfold Graph.checksAncestors Graph.settingsOf
  rw [paired.piece.fresh, paired.imagePiece.fresh,
    paired.piece.hosted.together paired.piece.present,
    paired.imagePiece.hosted.together paired.imagePiece.present, farm, paired.shows.settings]

omit names in
theorem Paired.withMember {member shown : Member}
    (within : member.isWithin graph.types.size = true)
    (imageWithin : shown.isWithin other.types.size = true) :
    mirror.Paired resolver image population type (graph.withMember member)
      (other.withMember shown) := by
  have works := newMember_works paired.piece within
  have imageWorks := newMember_works paired.imagePiece imageWithin
  have retains : ∀ (graph : Graph) (member : Member),
      graph.RetainsMembers (graph.withMember member) := by
    intro graph member
    refine ⟨by simp [Graph.withMember], fun old => ?_⟩
    exact memberAt_withMember_of_ne (Nat.ne_of_lt old)
  exact ⟨paired.piece.of_alters works.alters, works.alters.state.trans paired.isOpen,
    paired.imagePiece.of_alters imageWorks.alters, imageWorks.alters.state.trans paired.imageIsOpen,
    paired.shows.of_typeAt (retains graph member) (retains other shown) rfl rfl
      paired.shows.arrays paired.shows.settings⟩

include inside young

theorem declareMember_agree {member shown : Member} (related : mirror.ShowsMember member shown)
    (owned : member.definingType = some type)
    (within : member.isWithin graph.types.size = true)
    (imageWithin : shown.isWithin other.types.size = true) :
    mirror.Agree resolver.farm population (fun _ _ => True)
      ((declareMember type (some graph.members.size) member.isStatic).exec
        (graph.withMember member))
      ((declareMember (mirror.rename type) (some other.members.size) shown.isStatic).exec
        (other.withMember shown)) := by
  have later := paired.withMember within imageWithin
  have offered : (graph.withMember member).memberAt graph.members.size = member :=
    memberAt_withMember_self member
  have imageOffered : (other.withMember shown).memberAt other.members.size = shown :=
    memberAt_withMember_self shown
  have imageOwned : shown.definingType = some (mirror.rename type) := by
    rw [related.definingType, owned]
    rfl
  have ends := @declareMember_ends (graph.withMember member) type graph.members.size
    later.piece.sound later.isOpen (by rw [offered, owned]; rintro _ ⟨⟩; rfl)
  have imageEnds := @declareMember_ends (other.withMember shown) (mirror.rename type)
    other.members.size later.imagePiece.sound later.imageIsOpen
    (by rw [imageOffered, imageOwned]; rintro _ ⟨⟩; rfl)
  rw [offered] at ends
  rw [imageOffered] at imageEnds
  have candidate : mirror.ShowsMemberAt (graph.withMember member) (other.withMember shown)
      graph.members.size other.members.size := by
    refine ⟨by simp [Graph.withMember], by simp [Graph.withMember], ?_⟩
    rw [offered, imageOffered]
    exact related
  refine .of_ends ends imageEnds (later.shows.declareError? inside candidate young
    (later.checksAncestors names) later.piece.sound.wellFormed.hierarchical
    later.imagePiece.sound.wellFormed.hierarchical) trivial fun _ _ => ?_
  have retains := retainsMembers_withDeclared_last graph type member
  have imageRetains := retainsMembers_withDeclared_last other (mirror.rename type) shown
  have adopted : mirror.ShowsMemberAt
      ((graph.withMember member).withDeclared type graph.members.size)
      ((other.withMember shown).withDeclared (mirror.rename type) other.members.size)
      graph.members.size other.members.size := by
    refine ⟨?_, ?_, ?_⟩
    · rw [size_members_withDeclared_last]
      exact Nat.lt_succ_self _
    · rw [size_members_withDeclared_last]
      exact Nat.lt_succ_self _
    rw [memberAt_withDeclared_last, memberAt_withDeclared_last]
    refine { related with
      identifier := by rw [related.identifier], definingType := rfl, owner := ?_ }
    rintro _ ⟨⟩
    exact paired.present
  have placed := shows_placed adopted (paired.shows.face paired.present) candidate.shows
    ((paired.shows.types inside).later retains imageRetains)
    ((paired.shows.bodies inside young).later retains imageRetains)
  exact paired.shows.changeType inside retains imageRetains rfl rfl rfl rfl
    (fun old => (Frame.placed_identity _ _ old).1) (fun old => (Frame.placed_identity _ _ old).1)
    (paired.shows.closed_of_links inside rfl (Frame.placed_supertypes _ _)) placed.1 fun _ =>
      placed.2

theorem declareOne_agree (declaration : MemberDeclaration) :
    mirror.Agree resolver.farm population (fun _ _ => True)
      ((declareOne resolver type declaration).exec graph)
      ((declareOne image (mirror.rename type) declaration).exec other) := by
  unfold declareOne
  refine .bind paired (declaredMember_agree names paired declaration)
    (declaredMember_works paired.piece _ declaration)
    (declaredMember_works paired.imagePiece _ declaration) ?_
  rintro member shown left last later related ⟨owned, within⟩ ⟨-, imageWithin⟩
  exact declareMember_agree names later inside young related owned within imageWithin

theorem declareAll_agree (declarations : List MemberDeclaration) :
    mirror.Agree resolver.farm population (fun _ _ => True)
      (Build.exec (forIn declarations PUnit.unit fun declaration _ => do
        declareOne resolver type declaration
        return .yield PUnit.unit) graph)
      (Build.exec (forIn declarations PUnit.unit fun declaration _ => do
        declareOne image (mirror.rename type) declaration
        return .yield PUnit.unit) other) := by
  induction declarations generalizing graph other with
  | nil => exact .pure paired.shows trivial
  | cons declaration rest ih =>
      rw [List.forIn_cons, List.forIn_cons, bind_assoc, bind_assoc]
      refine .bind paired (declareOne_agree names paired inside young declaration)
        (declareOne_works paired.piece declaration) (declareOne_works paired.imagePiece declaration)
        fun later _ _ _ => ?_
      rw [pure_bind, pure_bind]
      exact ih later

omit names young in
theorem markParsed_agree :
    mirror.Agree resolver.farm population (fun _ _ => True) ((markParsed type).exec graph)
      ((markParsed (mirror.rename type)).exec other) := by
  refine .of_ends (changeType_ends paired.isOpen .markParsed _)
    (changeType_ends paired.imageIsOpen .markParsed _) .none trivial fun _ _ => ?_
  exact paired.shows.withState inside .parsed rfl rfl rfl rfl rfl rfl

omit names young in
theorem sealType_agree :
    mirror.Agree resolver.farm population (fun _ _ => True) ((sealType type).exec graph)
      ((sealType (mirror.rename type)).exec other) := by
  refine .of_ends (sealType_ends paired.isOpen paired.piece.fresh paired.piece.undeferred)
    (sealType_ends paired.imageIsOpen paired.imagePiece.fresh paired.imagePiece.undeferred)
    (paired.shows.sealError? inside) trivial fun _ _ => ?_
  exact paired.shows.withState inside .frozen rfl rfl rfl rfl rfl rfl

/-- A declared type is completed alike in both graphs. -/
theorem completeType_agree (declaration : TypeDeclaration) :
    mirror.Agree resolver.farm population (fun _ _ => True)
      ((completeType resolver ⟨declaration, type⟩).exec graph)
      ((completeType image ⟨declaration, mirror.rename type⟩).exec other) := by
  rw [completeType_eq, completeType_eq]
  have members : mirror.Agree resolver.farm population (fun _ _ => True)
      ((declareMembers resolver ⟨declaration, type⟩).exec graph)
      ((declareMembers image ⟨declaration, mirror.rename type⟩).exec other) := by
    unfold declareMembers
    exact .bind paired (declareAll_agree names paired inside young declaration.members)
      (declareAll_works paired.piece _) (declareAll_works paired.imagePiece _)
      fun later _ _ _ => markParsed_agree later inside
  refine .bind paired members
    (@declareMembers_works resolver 0 graph ⟨declaration, type⟩ paired.piece)
    (@declareMembers_works image 0 other ⟨declaration, mirror.rename type⟩ paired.imagePiece)
    fun later _ _ _ => ?_
  exact sealType_agree later inside

end Members

end Mirror

end Nominal
