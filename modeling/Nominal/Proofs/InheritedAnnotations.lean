import Nominal.Proofs.DerivationOrder

/-!
# Inherited annotations

The annotations that apply to a class are its own ones, as they stand, followed by those of its
superclasses that are inherited.  Superclasses are passed upwards, and what they add is of a type
that has not been met: so each inherited type occurs once, taken from the closest class that
declares it, and the annotations of closer classes come first.

The class itself is not restricted.  If it declares an annotation type twice, the type occurs twice.
-/

namespace Nominal

open Nominal.Graph

namespace Graph

variable {graph : Graph}

/-- The types of the annotations that a class declares itself. -/
def annotationTypes (graph : Graph) (type : TypeId) : List (Option TypeId) :=
  (graph.typeAt type).annotations.map (·.type)

/-- The class at a place of a chain declares an annotation type, and no class before it does. -/
structure DeclaresFirst (graph : Graph) (chain : List TypeId) (place : Nat)
    (mark : Option TypeId) : Prop where
  declared : ∃ declaring ∈ chain[place]?, mark ∈ graph.annotationTypes declaring
  first : ∀ closer < place, ∀ other ∈ chain[closer]?, mark ∉ graph.annotationTypes other

/-- Some uses of annotations are those that apply to the first class of a chain. -/
structure ListsAnnotations (graph : Graph) (type : TypeId) (superclasses : List TypeId)
    (listed : List AnnotationUse) : Prop where
  /-- Apart from the annotations of the class itself, every type occurs once. -/
  inherits : ∃ inherited, listed = (graph.typeAt type).annotations ++ inherited ∧
    (inherited.map (·.type)).Nodup ∧ ∀ use ∈ inherited, use.type ∉ graph.annotationTypes type
  /-- A type occurs if the class declares it, or if a superclass does and it is inherited. -/
  occurs : ∀ mark, mark ∈ listed.map (·.type) ↔ mark ∈ graph.annotationTypes type ∨
    ∃ superclass ∈ superclasses, ∃ use ∈ (graph.typeAt superclass).annotations,
      use.type = mark ∧ use.isInherited graph = true
  /-- What occurs is an annotation of the closest class that declares its type. -/
  closest : ∀ use ∈ listed, ∃ place, ∃ declaring ∈ (type :: superclasses)[place]?,
    use ∈ (graph.typeAt declaring).annotations ∧
      graph.DeclaresFirst (type :: superclasses) place use.type
  /-- The annotations of closer classes come first. -/
  ordered : listed.Pairwise fun former latter => ∀ closer farther,
    graph.DeclaresFirst (type :: superclasses) closer former.type →
      graph.DeclaresFirst (type :: superclasses) farther latter.type → closer ≤ farther

/-! ## The closest class that declares a type -/

namespace DeclaresFirst

variable {chain : List TypeId} {place other : Nat} {mark : Option TypeId}

theorem lt_length (first : graph.DeclaresFirst chain place mark) : place < chain.length := by
  obtain ⟨declaring, found, -⟩ := first.declared
  exact (List.getElem?_eq_some_iff.mp found).1

theorem le (first : graph.DeclaresFirst chain place mark)
    (second : graph.DeclaresFirst chain other mark) : place ≤ other := by
  by_contra! before
  obtain ⟨declaring, found, declares⟩ := second.declared
  exact first.first other before declaring found declares

/-- The closest class is one only. -/
theorem unique (first : graph.DeclaresFirst chain place mark)
    (second : graph.DeclaresFirst chain other mark) : place = other :=
  Nat.le_antisymm (first.le second) (second.le first)

/-- Classes farther away do not matter. -/
theorem append (first : graph.DeclaresFirst chain place mark) (more : List TypeId) :
    graph.DeclaresFirst (chain ++ more) place mark := by
  have inside := first.lt_length
  refine ⟨?_, fun closer before other found => ?_⟩
  · rw [List.getElem?_append_left inside]
    exact first.declared
  · rw [List.getElem?_append_left (before.trans inside)] at found
    exact first.first closer before other found

/-- A type that no class of a chain declares is declared first by the next one. -/
theorem of_fresh {superclass : TypeId} (declares : mark ∈ graph.annotationTypes superclass)
    (fresh : ∀ other ∈ chain, mark ∉ graph.annotationTypes other) :
    graph.DeclaresFirst (chain ++ [superclass]) chain.length mark := by
  refine ⟨⟨superclass, by simp, declares⟩, fun closer before other found => ?_⟩
  rw [List.getElem?_append_left before] at found
  exact fresh other (List.mem_of_getElem? found)

end DeclaresFirst

/-! ## What a superclass adds -/

theorem isInherited_congr {use other : AnnotationUse} (same : use.type = other.type) :
    use.isInherited graph = other.isInherited graph := by
  simp only [AnnotationUse.isInherited, same]

/-- Of some annotations those are fresh that are inherited and whose types have not been met, each
type once. -/
structure Gathers (graph : Graph) (uses found fresh : List AnnotationUse) : Prop where
  distinct : (fresh.map (·.type)).Nodup
  added : ∀ use ∈ fresh, use ∈ uses ∧ use.isInherited graph = true ∧
    use.type ∉ found.map (·.type)
  met : ∀ use ∈ uses, use.isInherited graph = true → use.type ∈ (found ++ fresh).map (·.type)

/-- What a superclass adds is gathered from its annotations. -/
theorem exists_gathered (graph : Graph) (uses found : List AnnotationUse) :
    ∃ fresh, uses.foldl (fun found use =>
        if use.isInherited graph ∧ use.type ∉ found.map (·.type) then found ++ [use] else found)
          found = found ++ fresh ∧ graph.Gathers uses found fresh := by
  induction uses generalizing found with
  | nil => exact ⟨[], by simp, by simp, nofun, nofun⟩
  | cons use rest ih =>
      rw [List.foldl_cons]
      by_cases adds : use.isInherited graph ∧ use.type ∉ found.map (·.type)
      · rw [if_pos adds]
        obtain ⟨fresh, grown, ⟨distinct, added, met⟩⟩ := ih (found ++ [use])
        refine ⟨use :: fresh, by rw [grown, ← List.append_cons], ?_, ?_, ?_⟩
        · refine List.nodup_cons.mpr ⟨?_, distinct⟩
          rw [List.mem_map]
          rintro ⟨later, listed, same⟩
          exact (added later listed).2.2 (by simp [same])
        · intro later listed
          rcases List.mem_cons.mp listed with rfl | listed
          · exact ⟨List.mem_cons_self, adds⟩
          · obtain ⟨inRest, isInherited, unmet⟩ := added later listed
            exact ⟨List.mem_cons_of_mem _ inRest, isInherited,
              fun before => unmet (by simp [List.mem_map.mp before])⟩
        · rw [List.append_cons]
          intro later listed isInherited
          rcases List.mem_cons.mp listed with rfl | listed
          · simp
          · exact met later listed isInherited
      · rw [if_neg adds]
        obtain ⟨fresh, grown, ⟨distinct, added, met⟩⟩ := ih found
        refine ⟨fresh, grown, distinct, ?_, ?_⟩
        · intro later listed
          exact ⟨List.mem_cons_of_mem _ (added later listed).1, (added later listed).2⟩
        · intro later listed isInherited
          rcases List.mem_cons.mp listed with rfl | listed
          · have before : later.type ∈ found.map (·.type) := by
              by_contra unmet
              exact adds ⟨isInherited, unmet⟩
            rw [List.map_append]
            exact List.mem_append_left _ before
          · exact met later listed isInherited

/-! ## Passing the superclasses upwards -/

namespace ListsAnnotations

variable {type : TypeId} {superclasses : List TypeId} {listed : List AnnotationUse}

/-- Without superclasses, the annotations of the class are all. -/
theorem own (graph : Graph) (type : TypeId) :
    graph.ListsAnnotations type [] (graph.typeAt type).annotations where
  inherits := ⟨[], by simp⟩
  occurs mark := by simp [annotationTypes]
  closest use declared := by
    refine ⟨0, type, rfl, declared, ⟨⟨type, rfl, List.mem_map_of_mem declared⟩, ?_⟩⟩
    intro closer before
    exact absurd before (Nat.not_lt_zero closer)
  ordered := by
    apply List.pairwise_of_forall_mem_list
    intro former declared latter _ closer farther first _
    have here : graph.DeclaresFirst [type] 0 former.type :=
      ⟨⟨type, rfl, List.mem_map_of_mem declared⟩, fun _ before => absurd before (Nat.not_lt_zero _)⟩
    rw [first.unique here]
    exact Nat.zero_le farther

/-- A type that has not been met and that a superclass passes on is declared by no closer class. -/
theorem undeclared (lists : graph.ListsAnnotations type superclasses listed) {use : AnnotationUse}
    (isInherited : use.isInherited graph = true) (unmet : use.type ∉ listed.map (·.type)) :
    ∀ other ∈ type :: superclasses, use.type ∉ graph.annotationTypes other := by
  rw [lists.occurs, not_or] at unmet
  intro other inChain declares
  rcases List.mem_cons.mp inChain with rfl | above
  · exact unmet.1 declares
  · obtain ⟨declared, inClass, same⟩ := List.mem_map.mp declares
    exact unmet.2 ⟨other, above, declared, inClass, same,
      (isInherited_congr same).trans isInherited⟩

section Extend

variable {superclass : TypeId} {fresh : List AnnotationUse}
  (lists : graph.ListsAnnotations type superclasses listed)
  (gathers : graph.Gathers (graph.typeAt superclass).annotations listed fresh)

include lists gathers

/-- What the superclass adds is declared by no closer class. -/
theorem declaresFirst_of_mem_fresh {use : AnnotationUse} (inFresh : use ∈ fresh) :
    graph.DeclaresFirst (type :: superclasses ++ [superclass]) (type :: superclasses).length
      use.type := by
  obtain ⟨declared, isInherited, unmet⟩ := gathers.added use inFresh
  exact .of_fresh (List.mem_map_of_mem declared) (lists.undeclared isInherited unmet)

theorem inherits_append : ∃ inherited,
    listed ++ fresh = (graph.typeAt type).annotations ++ inherited ∧
      (inherited.map (·.type)).Nodup ∧
      ∀ use ∈ inherited, use.type ∉ graph.annotationTypes type := by
  obtain ⟨inherited, split, apart, foreign⟩ := lists.inherits
  refine ⟨inherited ++ fresh, by rw [split, List.append_assoc], ?_, ?_⟩
  · rw [List.map_append]
    refine apart.append gathers.distinct fun mark inInherited inFresh => ?_
    obtain ⟨use, isFresh, rfl⟩ := List.mem_map.mp inFresh
    apply (gathers.added use isFresh).2.2
    rw [split, List.map_append]
    exact List.mem_append_right _ inInherited
  · intro use either
    rcases List.mem_append.mp either with inInherited | inFresh
    · exact foreign use inInherited
    · obtain ⟨-, isInherited, unmet⟩ := gathers.added use inFresh
      exact lists.undeclared isInherited unmet type List.mem_cons_self

theorem occurs_append (mark : Option TypeId) :
    mark ∈ (listed ++ fresh).map (·.type) ↔ mark ∈ graph.annotationTypes type ∨
      ∃ above ∈ superclasses ++ [superclass], ∃ use ∈ (graph.typeAt above).annotations,
        use.type = mark ∧ use.isInherited graph = true := by
  constructor
  · intro inBoth
    rw [List.map_append, List.mem_append, lists.occurs] at inBoth
    rcases inBoth with (inClass | ⟨other, above, passes⟩) | inFresh
    · exact .inl inClass
    · exact .inr ⟨other, List.mem_append_left _ above, passes⟩
    · obtain ⟨use, isFresh, rfl⟩ := List.mem_map.mp inFresh
      obtain ⟨declared, isInherited, -⟩ := gathers.added use isFresh
      exact .inr ⟨superclass, List.mem_append_right _ List.mem_cons_self, use, declared, rfl,
        isInherited⟩
  · have before : mark ∈ listed.map (·.type) → mark ∈ (listed ++ fresh).map (·.type) := by
      rw [List.map_append]
      exact List.mem_append_left _
    rintro (inClass | ⟨other, above, use, declared, rfl, isInherited⟩)
    · exact before ((lists.occurs mark).mpr (.inl inClass))
    · rcases List.mem_append.mp above with above | last
      · exact before ((lists.occurs _).mpr (.inr ⟨other, above, use, declared, rfl, isInherited⟩))
      · rw [List.mem_singleton.mp last] at declared
        exact gathers.met use declared isInherited

theorem ordered_append : (listed ++ fresh).Pairwise fun former latter => ∀ closer farther,
    graph.DeclaresFirst (type :: superclasses ++ [superclass]) closer former.type →
      graph.DeclaresFirst (type :: superclasses ++ [superclass]) farther latter.type →
        closer ≤ farther := by
  refine List.pairwise_append.mpr ⟨?_, ?_, ?_⟩
  · refine lists.ordered.imp_of_mem fun {former latter} inFormer inLatter order => ?_
    intro closer farther first second
    obtain ⟨place, -, -, -, firstBefore⟩ := lists.closest former inFormer
    obtain ⟨other, -, -, -, secondBefore⟩ := lists.closest latter inLatter
    rw [first.unique (firstBefore.append [superclass]),
      second.unique (secondBefore.append [superclass])]
    exact order place other firstBefore secondBefore
  · apply List.pairwise_of_forall_mem_list
    intro former inFormer latter inLatter closer farther first second
    rw [first.unique (lists.declaresFirst_of_mem_fresh gathers inFormer),
      second.unique (lists.declaresFirst_of_mem_fresh gathers inLatter)]
  · intro former inListed latter inFresh closer farther first second
    obtain ⟨place, -, -, -, before⟩ := lists.closest former inListed
    rw [first.unique (before.append [superclass]),
      second.unique (lists.declaresFirst_of_mem_fresh gathers inFresh)]
    exact before.lt_length.le

end Extend

/-- Passing one superclass keeps what is known of the annotations listed so far. -/
theorem extend (lists : graph.ListsAnnotations type superclasses listed) (superclass : TypeId) :
    graph.ListsAnnotations type (superclasses ++ [superclass])
      ((graph.typeAt superclass).annotations.foldl
        (fun found use =>
          if use.isInherited graph ∧ use.type ∉ found.map (·.type) then found ++ [use] else found)
        listed) := by
  obtain ⟨fresh, grown, gathers⟩ :=
    exists_gathered graph (graph.typeAt superclass).annotations listed
  rw [grown]
  refine ⟨lists.inherits_append gathers, lists.occurs_append gathers, ?_,
    lists.ordered_append gathers⟩
  intro use either
  rcases List.mem_append.mp either with inListed | inFresh
  · obtain ⟨place, declaring, found, declared, first⟩ := lists.closest use inListed
    refine ⟨place, declaring, ?_, declared, first.append [superclass]⟩
    exact (List.getElem?_append_left first.lt_length).trans found
  · refine ⟨_, superclass, ?_, (gathers.added use inFresh).1,
      lists.declaresFirst_of_mem_fresh gathers inFresh⟩
    exact List.getElem?_concat_length

/-- Passing all superclasses lists the annotations that apply to the class. -/
theorem inheritAnnotations {rest : List TypeId}
    (lists : graph.ListsAnnotations type superclasses listed) :
    graph.ListsAnnotations type (superclasses ++ rest) (graph.inheritAnnotations listed rest) := by
  induction rest generalizing superclasses listed with
  | nil =>
      rw [List.append_nil]
      exact lists
  | cons superclass rest ih =>
      rw [List.append_cons]
      exact ih (lists.extend superclass)

end ListsAnnotations

/-- The annotations of a class are listed as its chain of superclasses says. -/
theorem lists_annotationArray (graph : Graph) (type : TypeId) :
    graph.ListsAnnotations type (graph.parentChain type).tail (graph.annotationArray type) :=
  (ListsAnnotations.own graph type).inheritAnnotations

namespace ListsAnnotations

variable {type : TypeId} {superclasses : List TypeId} {listed : List AnnotationUse}

/-- An annotation type occurs once if the class does not declare it, and otherwise as often as the
class does. -/
theorem count (lists : graph.ListsAnnotations type superclasses listed) {mark : Option TypeId}
    (occurs : mark ∈ listed.map (·.type)) :
    (listed.map (·.type)).count mark = max 1 ((graph.annotationTypes type).count mark) := by
  obtain ⟨inherited, rfl, distinct, foreign⟩ := lists.inherits
  rw [List.map_append] at occurs ⊢
  rw [List.count_append]
  change mark ∈ graph.annotationTypes type ++ _ at occurs
  change (graph.annotationTypes type).count mark + _ = _
  by_cases own : mark ∈ graph.annotationTypes type
  · have absent : mark ∉ inherited.map (·.type) := by
      rw [List.mem_map]
      rintro ⟨use, inInherited, rfl⟩
      exact foreign use inInherited own
    have declared := List.count_pos_iff.mpr own
    rw [List.count_eq_zero_of_not_mem absent]
    omega
  · have present : mark ∈ inherited.map (·.type) := (List.mem_append.mp occurs).resolve_left own
    rw [List.count_eq_zero_of_not_mem own, List.count_eq_one_of_mem distinct present]
    rfl

/-- No type occurs twice exactly if the class itself declares no type twice. -/
theorem nodup_iff (lists : graph.ListsAnnotations type superclasses listed) :
    (listed.map (·.type)).Nodup ↔ (graph.annotationTypes type).Nodup := by
  obtain ⟨inherited, rfl, distinct, foreign⟩ := lists.inherits
  rw [List.map_append]
  refine ⟨fun nodup => nodup.of_append_left, fun nodup => nodup.append distinct ?_⟩
  intro mark own inInherited
  obtain ⟨use, isInherited, rfl⟩ := List.mem_map.mp inInherited
  exact foreign use isInherited own

end ListsAnnotations

/-- The annotations of a class are those that apply to it: its own ones, followed by those of its
superclasses that are inherited, each type taken from the closest class that declares it.  A type
that occurs does so once, unless the class itself declares it more than once. -/
theorem annotationArray_lists (attained : graph.Attained) (type : TypeId) :
    let listed := ((annotationArrayView type).exec graph).1
    graph.ListsAnnotations type (graph.parentChain type).tail listed ∧
      (∀ mark ∈ listed.map (·.type),
        (listed.map (·.type)).count mark = max 1 ((graph.annotationTypes type).count mark)) ∧
      ((listed.map (·.type)).Nodup ↔ (graph.annotationTypes type).Nodup) := by
  have answered : ((annotationArrayView type).exec graph).1 = graph.annotationArray type :=
    (Query.Answers.annotationArray type graph attained.sound).1
  dsimp only
  rw [answered]
  have lists := graph.lists_annotationArray type
  exact ⟨lists, fun mark => lists.count, lists.nodup_iff⟩

end Graph

/-- A class with two annotations of an inherited type and one of another type, and a class below it
with an annotation of the other type. -/
def markedPair : List Operation :=
  [.openArena {}, .newClass 0 "Object" "" .pub (.ofList [.root]),
    .newClass 0 "Mark" "m" .pub (.ofList [.attributeClass, .inherited]),
    .newClass 0 "Note" "m" .pub (.ofList [.attributeClass]), .newClass 0 "Upper" "m" .pub {},
    .newClass 0 "Lower" "m" .pub {}, .setParent 3 (some 0), .setParent 4 (some 3),
    .annotate 3 ⟨some 1, []⟩, .annotate 3 ⟨some 1, [("x", "1")]⟩, .annotate 3 ⟨some 2, []⟩,
    .annotate 4 ⟨some 2, [("x", "2")]⟩]

/-- The lower class has its own annotation and the first one of the inherited type. -/
theorem annotationArray_lists_markedPair :
    let graph := ({} : Graph).after markedPair
    let listed := ((annotationArrayView 4).exec graph).1
    graph.Attained ∧ (graph.typeAt 4).isClass = true ∧
      listed = [⟨some 2, [("x", "2")]⟩, ⟨some 1, []⟩] ∧
      graph.ListsAnnotations 4 [3, 0] listed ∧ (listed.map (·.type)).Nodup := by
  intro graph listed
  have attained : graph.Attained := .run (by decide +kernel)
  obtain ⟨lists, -, nodup⟩ := annotationArray_lists attained 4
  have superclasses : (graph.parentChain 4).tail = [3, 0] := by
    decide +kernel
  rw [superclasses] at lists
  exact ⟨attained, by decide +kernel, by decide +kernel, lists, nodup.mpr (by decide +kernel)⟩

/-- A class may have two annotations of one type. -/
theorem not_nodup_annotationArray_markedPair :
    let graph := ({} : Graph).after markedPair
    graph.Attained ∧ (graph.typeAt 3).isClass = true ∧
      ¬ (((annotationArrayView 3).exec graph).1.map (·.type)).Nodup := by
  exact ⟨.run (by decide +kernel), by decide +kernel, by decide +kernel⟩

end Nominal
