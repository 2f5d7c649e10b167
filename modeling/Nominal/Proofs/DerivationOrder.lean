import Nominal.Proofs.Sessions

/-!
# The order of derivation

`Graph.Derives` says when a type derives from another one: a declared type from everything above it,
an array from what its base class derives from, and from the arrays whose elements its own elements
derive from.  The query `TypeRef.derivesFrom` decides this relation, and for declared types the
search for a supertype decides it as well.

Among types whose arrays have one base class, derivation is a partial order, and the query that
leaves a type itself out decides the irreflexive part of that order.
-/

namespace Nominal

/-- Every array that a reference mentions has the given base class. -/
def TypeRef.sharesBase (base : Option TypeId) : TypeRef → Bool
  | .primitive _ | .nominal _ => true
  | .array element own => own == base && element.sharesBase base

namespace TypeRef

theorem same_comm (type other : TypeRef) : type.same other = other.same type := by
  induction type generalizing other with
  | primitive kind =>
      cases other with
      | primitive otherKind => exact Bool.beq_comm
      | nominal id => rfl
      | array element base => rfl
  | nominal id =>
      cases other with
      | primitive kind => rfl
      | nominal otherId => exact Bool.beq_comm
      | array element base => rfl
  | array element base ih =>
      cases other with
      | primitive kind => rfl
      | nominal id => rfl
      | array otherElement otherBase => exact ih otherElement

/-- Types that mean the same and whose arrays have one base class are the same reference. -/
theorem eq_of_same {base : Option TypeId} {type other : TypeRef}
    (shares : type.sharesBase base = true) (otherShares : other.sharesBase base = true)
    (same : type.same other = true) : type = other := by
  induction type generalizing other with
  | primitive kind =>
      cases other with
      | primitive otherKind => exact congrArg primitive (eq_of_beq same)
      | nominal id => cases same
      | array element own => cases same
  | nominal id =>
      cases other with
      | primitive kind => cases same
      | nominal otherId => exact congrArg nominal (eq_of_beq same)
      | array element own => cases same
  | array element own ih =>
      cases other with
      | primitive kind => cases same
      | nominal id => cases same
      | array otherElement otherOwn =>
          simp only [sharesBase, Bool.and_eq_true, beq_iff_eq] at shares otherShares
          rw [shares.1, otherShares.1, ih shares.2 otherShares.2 same]

end TypeRef

namespace Graph

/-! ## Derivation as a relation -/

/-- A type derives from another type, or is that type. -/
inductive Derives (graph : Graph) : TypeRef → TypeRef → Prop
  | primitive (kind : Primitive) : Derives graph (.primitive kind) (.primitive kind)
  | nominal {type ancestor : TypeId} (path : graph.Reaches type ancestor) :
      Derives graph (.nominal type) (.nominal ancestor)
  | same {element other : TypeRef} (equal : element.same other = true)
      (base otherBase : Option TypeId) :
      Derives graph (.array element base) (.array other otherBase)
  | element {element other : TypeRef} (reference : element.isReference = true)
      (otherReference : other.isReference = true) (derives : Derives graph element other)
      (base otherBase : Option TypeId) :
      Derives graph (.array element base) (.array other otherBase)
  | base (element : TypeRef) {base ancestor : TypeId} (path : graph.Reaches base ancestor) :
      Derives graph (.array element (some base)) (.nominal ancestor)

namespace Derives

variable {graph : Graph} {type other last : TypeRef}

theorem refl (graph : Graph) (type : TypeRef) : graph.Derives type type := by
  cases type with
  | primitive kind => exact .primitive kind
  | nominal id => exact .nominal .refl
  | array element base => exact .same element.same_refl base base

theorem of_same (same : type.same other = true) : graph.Derives type other := by
  cases type with
  | primitive kind =>
      cases other with
      | primitive otherKind =>
          rw [eq_of_beq same]
          exact .primitive otherKind
      | nominal id => cases same
      | array element base => cases same
  | nominal id =>
      cases other with
      | primitive kind => cases same
      | nominal otherId =>
          rw [eq_of_beq same]
          exact .nominal .refl
      | array element base => cases same
  | array element base =>
      cases other with
      | primitive kind => cases same
      | nominal id => cases same
      | array otherElement otherBase =>
          have equal : element.same otherElement = true := same
          exact .same equal base otherBase

/-- Derivation is transitive among types whose arrays have one base class.  The induction is on the
first derivation; an array that leaves the arrays for a declared type does so by the base class,
which the arrays before it share. -/
theorem trans {base : Option TypeId} (shares : type.sharesBase base = true)
    (otherShares : other.sharesBase base = true) (lastShares : last.sharesBase base = true)
    (early : graph.Derives type other) (late : graph.Derives other last) :
    graph.Derives type last := by
  induction early generalizing last with
  | primitive kind => exact late
  | nominal path =>
      cases late with
      | nominal further => exact .nominal (path.trans further)
  | base element path =>
      cases late with
      | nominal further => exact .base element (path.trans further)
  | same equal own otherOwn =>
      rw [TypeRef.eq_of_same shares otherShares equal]
      exact late
  | element reference otherReference derives own otherOwn ih =>
      simp only [TypeRef.sharesBase, Bool.and_eq_true, beq_iff_eq] at shares otherShares
      cases late with
      | same equal _ lastOwn =>
          simp only [TypeRef.sharesBase, Bool.and_eq_true, beq_iff_eq] at lastShares
          obtain rfl := TypeRef.eq_of_same otherShares.2 lastShares.2 equal
          exact .element reference otherReference derives own lastOwn
      | element _ lastReference further _ lastOwn =>
          simp only [TypeRef.sharesBase, Bool.and_eq_true, beq_iff_eq] at lastShares
          exact .element reference lastReference
            (ih shares.2 otherShares.2 lastShares.2 further) own lastOwn
      | base _ path =>
          rw [shares.1, ← otherShares.1]
          exact .base _ path

/-- Types that derive from each other mean the same. -/
theorem antisymm (acyclic : graph.Acyclic) (forward : graph.Derives type other)
    (back : graph.Derives other type) : type.same other = true := by
  induction forward with
  | primitive kind => exact TypeRef.same_refl _
  | nominal path =>
      cases back with
      | nominal returned =>
          rcases Relation.reflTransGen_iff_eq_or_transGen.mp path with equal | proper
          · rw [equal]
            exact TypeRef.same_refl _
          · exact absurd (Relation.TransGen.trans_left proper returned) (acyclic _)
  | same equal _ _ => exact equal
  | element _ _ _ _ _ ih =>
      cases back with
      | same equal _ _ => exact (TypeRef.same_comm _ _).trans equal
      | element _ _ returned _ _ => exact ih returned
  | base _ _ => cases back

end Derives

/-! ## Derivation as it is decided -/

/-- Whether a type derives from another type, as a graph answers. -/
def derives (graph : Graph) (type other : TypeRef) (inclusive : Bool) : Bool :=
  ((type.derivesFrom (some other) inclusive).exec graph).1

variable {graph : Graph}

theorem nominalDerivesFrom_iff (sound : graph.Sound) (type : TypeId) (other : TypeRef)
    (inclusive : Bool) :
    ((nominalDerivesFrom type (some other) inclusive).exec graph).1 = true ↔
      graph.Derives (.nominal type) other ∧
        (inclusive = true ∨ (TypeRef.nominal type).same other = false) := by
  unfold nominalDerivesFrom
  dsimp only
  by_cases same : (TypeRef.nominal type).same other = true
  · have derives : graph.Derives (.nominal type) other := .of_same same
    rw [if_pos same, Query.exec_pure]
    simp [same, derives]
  · have distinct := Bool.eq_false_iff.mpr same
    rw [if_neg same]
    cases other with
    | primitive kind =>
        have apart : ¬ graph.Derives (.nominal type) (.primitive kind) := by rintro ⟨⟩
        simp [Query.exec_pure, apart]
    | array element base =>
        have apart : ¬ graph.Derives (.nominal type) (.array element base) := by rintro ⟨⟩
        simp [Query.exec_pure, apart]
    | nominal ancestor =>
        have different : type ≠ ancestor := fun equal => same (beq_iff_eq.mpr equal)
        have answered := (Query.Answers.ancestors type graph sound).1
        rw [Query.exec_bind, Query.exec_pure, answered]
        dsimp only
        rw [List.contains_iff_mem, View.value, mem_ancestors_iff different]
        constructor
        · intro path
          exact ⟨.nominal path, .inr distinct⟩
        · rintro ⟨derives, _⟩
          cases derives with
          | nominal path => exact path

theorem derives_array_nominal_iff (sound : graph.Sound) (element : TypeRef)
    (base : Option TypeId) (ancestor : TypeId) (inclusive : Bool) :
    graph.derives (.array element base) (.nominal ancestor) inclusive = true ↔
      graph.Derives (.array element base) (.nominal ancestor) := by
  unfold derives TypeRef.derivesFrom
  dsimp only
  rw [if_neg (by simp [TypeRef.same])]
  cases base with
  | none =>
      have apart : ¬ graph.Derives (.array element none) (.nominal ancestor) := by rintro ⟨⟩
      simp [Query.exec_pure, apart]
  | some base =>
      dsimp only
      rw [nominalDerivesFrom_iff sound]
      constructor
      · rintro ⟨_ | path, _⟩
        exact .base element path
      · intro derives
        cases derives with
        | base _ path => exact ⟨.nominal path, .inl rfl⟩

theorem derives_array_array_iff {element other : TypeRef} (base otherBase : Option TypeId)
    (inclusive : Bool)
    (elements : graph.derives element other true = true ↔ graph.Derives element other) :
    graph.derives (.array element base) (.array other otherBase) inclusive = true ↔
      graph.Derives (.array element base) (.array other otherBase) ∧
        (inclusive = true ∨ element.same other = false) := by
  unfold derives TypeRef.derivesFrom
  dsimp only
  rw [TypeRef.same]
  by_cases same : element.same other = true
  · have derives : graph.Derives (.array element base) (.array other otherBase) :=
      .same same base otherBase
    rw [if_pos same, Query.exec_pure]
    simp [same, derives]
  · have distinct := Bool.eq_false_iff.mpr same
    rw [if_neg same]
    by_cases references : (element.isReference && other.isReference) = true
    · rw [if_pos references]
      rw [Bool.and_eq_true] at references
      refine elements.trans ⟨?_, ?_⟩
      · intro derives
        exact ⟨.element references.1 references.2 derives base otherBase, .inr distinct⟩
      · rintro ⟨derives, _⟩
        cases derives with
        | same equal _ _ => exact absurd equal same
        | element _ _ derives _ _ => exact derives
    · have apart : ¬ graph.Derives (.array element base) (.array other otherBase) := by
        intro derives
        cases derives with
        | same equal _ _ => exact same equal
        | element reference otherReference _ _ _ =>
            exact references (Bool.and_eq_true_iff.mpr ⟨reference, otherReference⟩)
      rw [if_neg references, Query.exec_pure]
      simp [apart]

/-- The query decides derivation, and its flag decides about types that mean the same. -/
theorem derives_iff (sound : graph.Sound) (type other : TypeRef) (inclusive : Bool) :
    graph.derives type other inclusive = true ↔
      graph.Derives type other ∧ (inclusive = true ∨ type.same other = false) := by
  induction type generalizing other inclusive with
  | primitive kind =>
      unfold derives TypeRef.derivesFrom
      rw [Query.exec_pure, Option.any_some]
      by_cases same : (TypeRef.primitive kind).same other = true
      · have derives : graph.Derives (.primitive kind) other := .of_same same
        simp [same, derives]
      · have apart : ¬ graph.Derives (.primitive kind) other := by
          rintro ⟨⟩
          exact same (TypeRef.same_refl _)
        simp [same, apart]
  | nominal type => exact nominalDerivesFrom_iff sound type other inclusive
  | array element base ih =>
      cases other with
      | primitive kind =>
          have apart : ¬ graph.Derives (.array element base) (.primitive kind) := by rintro ⟨⟩
          unfold derives TypeRef.derivesFrom
          simp [Query.exec_pure, TypeRef.same, apart]
      | nominal ancestor =>
          rw [derives_array_nominal_iff sound]
          simp [TypeRef.same]
      | array other otherBase =>
          exact derives_array_array_iff base otherBase inclusive ((ih other true).trans (by simp))

theorem derives_inclusive_iff (sound : graph.Sound) (type other : TypeRef) :
    graph.derives type other true = true ↔ graph.Derives type other :=
  (derives_iff sound type other true).trans (by simp)

theorem derives_nominal_iff (sound : graph.Sound) (type ancestor : TypeId) :
    graph.derives (.nominal type) (.nominal ancestor) true = true ↔
      graph.Reaches type ancestor := by
  rw [derives_inclusive_iff sound]
  constructor
  · rintro (_ | path)
    exact path
  · exact .nominal

/-! ## Derivation in the graphs that are attained -/

/-- The graphs that a run of operations leaves, and those of the states of a session. -/
inductive Attained : Graph → Prop
  | run {operations : List Operation} (admitted : ({} : Graph).admits operations = true) :
      Attained (({} : Graph).after operations)
  | session {settings : ArenaSettings} {workspace : Workspace}
      (session : Workspace.Session settings workspace) : Attained workspace.graph

theorem Attained.sound (attained : graph.Attained) : graph.Sound := by
  cases attained with
  | run admitted => exact sound_after admitted
  | session session => exact session.ready.houses.sound

/-- The arrays that are given out in a session have one base class. -/
theorem base?_arrayOf {settings : ArenaSettings} {workspace : Workspace}
    (session : Workspace.Session settings workspace) (element : TypeRef) :
    ((workspace.farm.arrayOf element).exec workspace.graph).1.base?
      = workspace.farm.lookup? "Array" := by
  have run : (workspace.farm.arrayOf element).exec workspace.graph = _ := exec_arrayOf _ _ _ _
  rw [run, arrayFor]
  cases held : (workspace.graph.arenaAt workspace.farm.arena).arrays.get?
      (element.qualifiedName workspace.graph) with
  | none => rfl
  | some array =>
      obtain ⟨kept, rfl, -, -⟩ := session.ready.houses.interned _ _ held
      rfl

/-- A declared type derives from exactly what is reached from it.  Derivation is reflexive,
antisymmetric up to the same meaning, and transitive where arrays have one base class, and strict
derivation is derivation between types that do not mean the same. -/
theorem derives_order (attained : graph.Attained) :
    (∀ type < graph.types.size, ∀ ancestor,
      (graph.derives (.nominal type) (.nominal ancestor) true = true ↔
          graph.Reaches type ancestor) ∧
        graph.derives (.nominal type) (.nominal ancestor) true = graph.reaches type ancestor) ∧
      (∀ type, graph.derives type type true = true) ∧
      (∀ base type other last, type.sharesBase base = true → other.sharesBase base = true →
        last.sharesBase base = true → graph.derives type other true = true →
        graph.derives other last true = true → graph.derives type last true = true) ∧
      (∀ type other, graph.derives type other true = true →
        graph.derives other type true = true → type.same other = true) ∧
      ∀ type other, graph.derives type other false
        = (graph.derives type other true && !type.same other) := by
  have sound := attained.sound
  have hierarchical := sound.wellFormed.hierarchical
  refine ⟨?_, ?_, ?_, ?_, ?_⟩
  · intro type present ancestor
    have decides := derives_nominal_iff sound type ancestor
    refine ⟨decides, ?_⟩
    rw [Bool.eq_iff_iff, decides, hierarchical.reaches_iff present]
  · intro type
    exact (derives_inclusive_iff sound type type).mpr (.refl graph type)
  · intro base type other last shares otherShares lastShares early late
    rw [derives_inclusive_iff sound] at early late ⊢
    exact early.trans shares otherShares lastShares late
  · intro type other forward back
    rw [derives_inclusive_iff sound] at forward back
    exact forward.antisymm hierarchical.acyclic back
  · intro type other
    rw [Bool.eq_iff_iff, derives_iff sound, Bool.and_eq_true, derives_inclusive_iff sound]
    simp

/-- The lower class of the open chain, arrays of it, and what stands above them. -/
theorem derives_order_openChain :
    (({} : Graph).after openChain).Attained ∧
      (({} : Graph).after openChain).derives (.nominal 1) (.nominal 2) true
        = (({} : Graph).after openChain).reaches 1 2 ∧
      (({} : Graph).after openChain).derives (.array (.nominal 1) (some 0))
        (.array (.nominal 0) (some 0)) true = true ∧
      (({} : Graph).after openChain).derives (.array (.nominal 0) (some 0)) (.nominal 2) true
        = true ∧
      (({} : Graph).after openChain).derives (.array (.nominal 1) (some 0)) (.nominal 2) true
        = true := by
  have admitted : ({} : Graph).admits openChain = true := by
    decide +kernel
  have elements : (({} : Graph).after openChain).derives (.array (.nominal 1) (some 0))
      (.array (.nominal 0) (some 0)) true = true := by
    decide +kernel
  have above : (({} : Graph).after openChain).derives (.array (.nominal 0) (some 0)) (.nominal 2)
      true = true := by
    decide +kernel
  obtain ⟨decides, -, transitive, -, -⟩ := derives_order (.run admitted)
  refine ⟨.run admitted, (decides 1 (by decide +kernel) 2).2, elements, above, ?_⟩
  exact transitive (some 0) _ _ _ rfl rfl rfl elements above

end Graph

end Nominal
