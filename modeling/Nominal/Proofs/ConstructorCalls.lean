import Nominal.Graph.Overloads
import Nominal.Proofs.Rosters

/-!
# Calls of constructors

Which constructor a call denotes is decided by queries on the types of parameters and arguments.
Such a query is *steady*: what it answers does not depend on the views that are kept.  So a forward
call leads to one constructor at most, whenever it is resolved.

The constructors of a class, like the members of its other lists, are its own and of their kind.
-/

namespace Nominal

open Nominal.Graph

/-! ## Steady queries -/

/-- The query answers alike on graphs that differ in kept views, and has the effect of a query. -/
def Query.Steady {α : Type} (query : Query α) : Prop :=
  ∀ graph left, graph.Sound → graph.Reads left →
    (query.exec left).1 = (query.exec graph).1 ∧ left.Reads (query.exec left).2

namespace Query.Steady

variable {α β : Type} {query : Query α}

theorem reads (steady : query.Steady) {graph : Graph} (sound : graph.Sound) :
    graph.Reads (query.exec graph).2 :=
  (steady graph graph sound (.refl sound)).2

theorem of_answers {value : Graph → α} (answers : query.Answers value)
    (same : ∀ graph left, graph.Sound → graph.Reads left → value left = value graph) :
    query.Steady := by
  intro graph left sound read
  obtain ⟨answered, readAgain⟩ := answers left read.sound
  rw [answered, (answers graph sound).1]
  exact ⟨same graph left sound read, readAgain⟩

theorem pure (value : α) : Query.Steady (pure value) :=
  fun _ _ _ read => ⟨rfl, .refl read.sound⟩

theorem bind (steady : query.Steady) {next : α → Query β}
    (continues : ∀ value, (next value).Steady) : Query.Steady (query >>= next) := by
  intro graph left sound read
  obtain ⟨answered, readLeft⟩ := steady graph left sound read
  rw [Query.exec_bind, Query.exec_bind, answered]
  obtain ⟨resulted, readLast⟩ := continues _ _ _ sound (read.trans readLeft)
  obtain ⟨started, -⟩ := continues _ _ _ sound (steady.reads sound)
  exact ⟨resulted.trans started.symm, readLeft.trans readLast⟩

/-- A query may read what does not depend on kept views. -/
theorem get_bind {next : Graph → Query β}
    (same : ∀ graph left, graph.Reads left → next left = next graph)
    (continues : ∀ graph, (next graph).Steady) : Query.Steady (get >>= next) := by
  intro graph left sound read
  rw [Query.exec_bind, Query.exec_bind, Query.exec_get, Query.exec_get, same graph left read]
  exact continues graph graph left sound read

end Query.Steady

variable {graph left : Graph}

theorem isDynamic_eq_of_reads (read : graph.Reads left) (reference : TypeRef) :
    reference.isDynamic left = reference.isDynamic graph := by
  cases reference with
  | primitive | array => rfl
  | nominal type => simp only [TypeRef.isDynamic, typeAt_eq_of_bare read.bare]

theorem isRoot_eq_of_reads (read : graph.Reads left) (reference : TypeRef) :
    reference.isRoot left = reference.isRoot graph := by
  cases reference with
  | primitive | array => rfl
  | nominal type => simp only [TypeRef.isRoot, typeAt_eq_of_bare read.bare]

theorem isSafeConversion_eq_of_reads (read : graph.Reads left) (source target : Option TypeRef) :
    left.isSafeConversion source target = graph.isSafeConversion source target := by
  simp only [isSafeConversion, isDynamic_eq_of_reads read, isRoot_eq_of_reads read]

/-! ## Derivation -/

theorem nominalDerivesFrom_steady (type : TypeId) (other : Option TypeRef) (inclusive : Bool) :
    (nominalDerivesFrom type other inclusive).Steady := by
  have above : (ancestorsView type).Steady :=
    .of_answers (Query.Answers.ancestors type) fun _ _ sound read =>
      value_eq_of_bare read.bare sound.wellFormed .ancestors type
  unfold nominalDerivesFrom
  cases other with
  | none => exact .pure false
  | some reference =>
      dsimp only
      split
      · exact .pure inclusive
      · cases reference with
        | nominal target => exact above.bind fun _ => .pure _
        | primitive | array => exact .pure false

theorem derivesFrom_steady (type : TypeRef) (other : Option TypeRef) (inclusive : Bool) :
    (type.derivesFrom other inclusive).Steady := by
  induction type generalizing other inclusive with
  | primitive kind => exact .pure _
  | nominal type => exact nominalDerivesFrom_steady type other inclusive
  | array element base ih =>
      unfold TypeRef.derivesFrom
      cases other with
      | none => exact .pure false
      | some reference =>
          dsimp only
          split
          · exact .pure inclusive
          · cases reference with
            | primitive kind => exact .pure false
            | nominal type =>
                cases base with
                | none => exact .pure false
                | some base => exact nominalDerivesFrom_steady base _ _
            | array otherElement otherBase =>
                dsimp only
                split
                · exact ih _ _
                · exact .pure false

/-! ## Overloads -/

theorem parameterAccepts_steady (parameter argument : Option TypeRef) :
    (parameterAccepts parameter argument).Steady := by
  unfold parameterAccepts
  cases parameter with
  | none => exact .pure true
  | some expected =>
      cases argument with
      | none =>
          refine .get_bind ?_ fun _ => .pure _
          intro graph left read
          dsimp only
          rw [isDynamic_eq_of_reads read]
      | some given =>
          refine .get_bind ?_ ?_
          · intro graph left read
            simp only [isSafeConversion_eq_of_reads read]
          · intro graph
            dsimp only
            split
            · exact .pure true
            · apply (derivesFrom_steady given (some expected) false).bind
              intro derives
              cases derives <;> exact .pure _

theorem parametersAccept_steady (parameters arguments : List (Option TypeRef)) :
    (parametersAccept parameters arguments).Steady := by
  induction parameters generalizing arguments with
  | nil => cases arguments <;> exact .pure _
  | cons parameter parameters ih =>
      cases arguments with
      | nil => exact .pure false
      | cons argument arguments =>
          apply (parameterAccepts_steady parameter argument).bind
          intro accepts
          cases accepts with
          | true => exact ih arguments
          | false => exact .pure false

/-- Which candidate a call denotes does not depend on kept views. -/
theorem firstAccepting?_steady (arguments : List (Option TypeRef)) (matchSelf : Bool)
    (candidates : List MemberId) : (firstAccepting? arguments matchSelf candidates).Steady := by
  induction candidates with
  | nil => exact .pure none
  | cons candidate rest ih =>
      refine .get_bind ?_ ?_
      · intro graph left read
        rw [memberAt_eq_of_bare read.bare]
      · intro graph
        dsimp only
        split
        · apply (parametersAccept_steady _ arguments).bind
          intro accepts
          cases accepts with
          | true => exact .pure (some candidate)
          | false => exact ih
        · exact ih

theorem mem_of_firstAccepting? {arguments : List (Option TypeRef)} {matchSelf : Bool}
    {candidates : List MemberId} {found : MemberId}
    (accepted : ((firstAccepting? arguments matchSelf candidates).exec graph).1 = some found) :
    found ∈ candidates := by
  induction candidates generalizing graph with
  | nil => cases accepted
  | cons candidate rest ih =>
      rw [firstAccepting?, Query.exec_bind, Query.exec_get] at accepted
      dsimp only at accepted
      split at accepted
      · rw [Query.exec_bind] at accepted
        split at accepted
        · cases accepted
          exact List.mem_cons_self
        · exact List.mem_cons_of_mem candidate (ih accepted)
      · exact List.mem_cons_of_mem candidate (ih accepted)

theorem findConstructor_eq_some_iff {candidates : List MemberId}
    {arguments : List (Option TypeRef)} {matchSelf : Bool} {found : MemberId} :
    ((findConstructor candidates arguments matchSelf).exec graph).1 = .ok (some found) ↔
      ((firstAccepting? arguments matchSelf candidates).exec graph).1 = some found := by
  cases candidates with
  | nil => exact ⟨nofun, nofun⟩
  | cons candidate rest =>
      rw [findConstructor, if_neg (by simp), Build.exec_lift]
      exact ⟨Except.ok.inj, congrArg Except.ok⟩

/-! ## Listed members -/

namespace Graph

/-- The lists of all types hold members that the types have adopted, of the kinds of the lists. -/
def Enlisted (graph : Graph) : Prop :=
  ∀ type kind, ∀ member ∈ (graph.typeAt type).listed kind,
    (graph.memberAt member).definingType = some type ∧ (graph.memberAt member).kind = kind

/-- A listed member was listed before, or has been adopted by the type for the list. -/
theorem Change.listed {later : Graph} {deed : Deed} (changed : graph.Change deed later)
    {type : TypeId} {kind : MemberKind} {member : MemberId}
    (listed : member ∈ (later.typeAt type).listed kind) :
    member ∈ (graph.typeAt type).listed kind ∨
      (later.memberAt member).definingType = some type ∧ (later.memberAt member).kind = kind := by
  cases changed with
  | openArena | intern | create | start | fail | callHook => exact .inl listed
  | allocate arena shape identifier moduleName visibility properties present empty =>
      by_cases new : type = graph.types.size
      · subst new
        rw [typeAt_withType_self] at listed
        rcases empty with rfl | rfl <;> cases kind <;> cases listed
      · rw [typeAt_withType_of_ne new] at listed
        exact .inl listed
  | reform subject deed change present isOpen checked =>
      rw [typeAt_modifyType_kept (·.listed kind) (checked.listed kind) type] at listed
      exact .inl listed
  | declare subject declared place present isOpen adoptable checked =>
      rcases typeAt_withAdopted_cases graph subject declared
        (Text.canonical (graph.memberAt declared).identifier) place type
        with same | ⟨rfl, _, placed⟩
      · rw [same] at listed
        exact .inl listed
      · rw [placed] at listed
        rcases checked.listed kind with unlisted | listing
        · exact .inl (unlisted ▸ listed)
        · rw [listing.added] at listed
          rcases List.mem_append.mp listed with old | new
          · exact .inl old
          · obtain rfl := List.mem_singleton.mp new
            rw [memberAt_withAdopted listing.lt_size type place]
            exact .inr ⟨rfl, listing.ofKind⟩

theorem Change.enlisted {later : Graph} {deed : Deed} (changed : graph.Change deed later)
    (wellFormed : graph.WellFormed) (enlisted : graph.Enlisted) : later.Enlisted := by
  intro type kind member listed
  rcases changed.listed listed with old | new
  · obtain ⟨owner, ofKind⟩ := enlisted type kind member old
    obtain ⟨identifier, same, -⟩ :=
      (changed.keepsMembers wellFormed).adopted member (by simp [owner])
    rw [same]
    exact ⟨owner, ofKind⟩
  · exact new

theorem Enlisted.of_same (enlisted : graph.Enlisted) (same : graph.SameDeclarations left) :
    left.Enlisted := by
  obtain ⟨_, types, _, _, members, _, _⟩ := left
  obtain ⟨rfl, rfl⟩ := same
  exact enlisted

theorem Steps.enlisted {allowed : Deed → Prop} (steps : Steps allowed graph left)
    (sound : graph.Sound) (enlisted : graph.Enlisted) : left.Enlisted := by
  induction steps with
  | refl => exact enlisted
  | tail before step ih =>
      rcases step.effect with same | ⟨deed, changed, _, change, same⟩
      · exact ih.of_same (.of_bare same)
      · have wellFormed := (Steps.sound before sound).wellFormed
        exact (change.enlisted wellFormed ih).of_same (.of_bare same)

end Graph

theorem Operation.perform_enlisted (sound : graph.Sound) {operation : Operation}
    (admissible : operation.isAdmissible graph = true) (enlisted : graph.Enlisted) :
    (operation.perform graph).Enlisted := by
  by_cases trusting : ∃ type isTrusted, operation = .setTrusted type isTrusted
  · obtain ⟨type, isTrusted, rfl⟩ := trusting
    exact enlisted.of_same (Operation.perform_setTrusted_same type isTrusted)
  · have steps := Operation.perform_steps sound admissible fun type isTrusted equal =>
      trusting ⟨type, isTrusted, equal⟩
    exact steps.enlisted sound enlisted

theorem Graph.Enlisted.after (enlisted : graph.Enlisted) (sound : graph.Sound)
    {run : List Operation} (admitted : graph.admits run = true) : (graph.after run).Enlisted := by
  induction run generalizing graph with
  | nil => exact enlisted
  | cons operation rest induction =>
      rw [admits, Bool.and_eq_true] at admitted
      exact induction (operation.perform_enlisted sound admitted.1 enlisted)
        (operation.perform_sound sound admitted.1).1 admitted.2

theorem Graph.enlisted_start : ({} : Graph).Enlisted := by
  intro type kind member listed
  cases kind <;> cases listed

end Nominal
