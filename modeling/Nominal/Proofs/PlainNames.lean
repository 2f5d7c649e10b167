import Nominal.Proofs.BracketedNames
import Nominal.Proofs.SessionNames

/-!
# Plain references

Array types are kept under the qualified names of their elements.  A name may stand for two things
if a type is called like a primitive type or has an array suffix in its own name, but no reference
in a declaration denotes such a type.  If moreover no two types have the same name, plain references
with the same name have the same innermost element, and a type may mention both or none of them.

Built-in types may have any names, and array types over them may be kept under names that plain
references have as well.  But built-in types are public, so everyone may mention them.
-/

namespace Nominal

open Nominal.Graph

/-! ## Array suffixes -/

theorem arrayElement?_append (characters : List Char) :
    arrayElement? (characters ++ ['[', ']']) = some characters :=
  arrayElement?_eq_some.mpr rfl

/-- What stands before a text does not hide its array suffix. -/
theorem arrayElement?_of_suffix {before after : List Char}
    (plain : arrayElement? (before ++ after) = none) : arrayElement? after = none := by
  cases suffixed : arrayElement? after with
  | none => rfl
  | some element =>
      obtain rfl := arrayElement?_eq_some.mp suffixed
      rw [← List.append_assoc, arrayElement?_append] at plain
      cases plain

/-- An array suffix of a qualified name is one of the name behind the dot. -/
theorem arrayElement?_after_dot (before : List Char) {after : List Char}
    (plain : arrayElement? after = none) : arrayElement? (before ++ '.' :: after) = none := by
  cases suffixed : arrayElement? (before ++ '.' :: after) with
  | none => rfl
  | some element =>
      rcases List.append_eq_append_iff.mp (arrayElement?_eq_some.mp suffixed) with
        ⟨between, -, ends⟩ | ⟨between, -, ends⟩
      · cases between with
        | nil => simp at ends
        | cons first rest =>
            have equal : after = rest ++ ['[', ']'] := (List.cons.inj ends).2
            rw [equal, arrayElement?_append] at plain
            cases plain
      · have inSuffix : '.' ∈ ['[', ']'] := by
          rw [ends]
          simp
        simp at inSuffix

theorem peelArrays_unsuffixed (characters : List Char) :
    arrayElement? (peelArrays characters).1 = none := by
  fun_induction peelArrays characters with
  | case1 characters element found name depth peeled ih => simpa [peeled] using ih
  | case2 characters found => exact found

namespace Primitive

theorem name_unsuffixed (kind : Primitive) : arrayElement? kind.name.toList = none := by
  cases kind <;> decide

theorem ofName?_name (kind : Primitive) : ofName? kind.name = some kind := by
  cases kind <;> decide

theorem name_of_ofName? {name : String} {kind : Primitive} (read : ofName? name = some kind) :
    kind.name = name := by
  simpa using List.find?_some read

theorem name_undotted (kind : Primitive) : '.' ∉ kind.name.toList := by
  cases kind <;> decide

end Primitive

/-- A name that stands for no array and for no primitive type. -/
structure IsPlainName (name : String) : Prop where
  unsuffixed : arrayElement? name.toList = none
  nominal : Primitive.ofName? name = none

instance (name : String) : Decidable (IsPlainName name) :=
  decidable_of_iff (arrayElement? name.toList = none ∧ Primitive.ofName? name = none)
    ⟨fun parts => ⟨parts.1, parts.2⟩, fun plain => ⟨plain.unsuffixed, plain.nominal⟩⟩

/-! ## References that a type may make -/

namespace TypeRef

/-- The type that a reference leads to, through all array types around it. -/
def innermost? : TypeRef → Option TypeId
  | .primitive _ => none
  | .nominal type => some type
  | .array element _ => element.innermost?

/-- References that mean the same type lead to the same one. -/
theorem innermost?_eq_of_same {first second : TypeRef} (same : first.same second = true) :
    first.innermost? = second.innermost? := by
  induction first generalizing second with
  | primitive kind => cases second <;> simp_all [TypeRef.same, innermost?]
  | nominal type => cases second <;> simp_all [TypeRef.same, innermost?]
  | array element base ih =>
      cases second with
      | primitive | nominal => cases same
      | array otherElement otherBase =>
          have below : element.innermost? = otherElement.innermost? := ih same
          exact below

theorem lt_of_innermost? {reference : TypeRef} {size : Nat} {type : TypeId}
    (within : reference.isWithin size = true) (leads : reference.innermost? = some type) :
    type < size := by
  induction reference with
  | primitive kind => cases leads
  | nominal found =>
      cases leads
      simpa [isWithin] using within
  | array element base ih =>
      simp only [isWithin, Bool.and_eq_true] at within
      exact ih within.1 leads

end TypeRef

namespace Graph

/-- A type may mention a reference. -/
def MayMention (graph : Graph) (self : TypeId) (reference : TypeRef) : Prop :=
  graph.typeVisibilityError? { referencing := some self } reference = none

/-- The name of a type stands for no array and for no primitive type. -/
def PlainlyNamed (graph : Graph) (type : TypeId) : Prop :=
  IsPlainName (graph.nameOf type)

instance (graph : Graph) (type : TypeId) : Decidable (graph.PlainlyNamed type) :=
  inferInstanceAs (Decidable (IsPlainName (graph.nameOf type)))

/-- The type that a reference leads to has a plain name. -/
def IsPlain (graph : Graph) (reference : TypeRef) : Prop :=
  ∀ type, reference.innermost? = some type → graph.PlainlyNamed type

/-- The type that a reference leads to is public. -/
def IsOpen (graph : Graph) (reference : TypeRef) : Prop :=
  ∀ type, reference.innermost? = some type → (graph.typeAt type).visibility = .pub

/-- A reference to types of the graph that a type may make, under the name of a plain reference that
it may make. -/
structure Mentionable (graph : Graph) (source : TypeId) (reference : TypeRef) : Prop where
  within : reference.isWithin graph.types.size = true
  tame : graph.IsPlain reference ∨ graph.IsOpen reference
  allowed : graph.MayMention source reference
  named : ∃ plain : TypeRef, plain.isWithin graph.types.size = true ∧ graph.IsPlain plain ∧
    graph.MayMention source plain ∧ plain.qualifiedName graph = reference.qualifiedName graph

/-- No two types have the same name. -/
def DistinctNames (graph : Graph) : Prop :=
  ∀ first < graph.types.size, ∀ second < graph.types.size,
    graph.nameOf first = graph.nameOf second → first = second

/-- Array types are kept over elements that are plain, or that everyone may mention. -/
def TameArrays (graph : Graph) (farm : Farm) : Prop :=
  ∀ name element base, (graph.arenaAt farm.arena).arrays.get? name = some (.array element base) →
    graph.IsPlain element ∨ graph.IsOpen element

section Names

variable {graph : Graph} {self type : TypeId} {reference : TypeRef}

theorem mayMention_primitive (kind : Primitive) : graph.MayMention self (.primitive kind) :=
  rfl

theorem mayMention_array {element : TypeRef} {base : Option TypeId} :
    graph.MayMention self (.array element base) ↔ graph.MayMention self element :=
  Iff.rfl

theorem mayMention_iff :
    graph.MayMention self reference ↔
      ∀ type, reference.innermost? = some type → graph.MayMention self (.nominal type) := by
  induction reference with
  | primitive kind => simp [mayMention_primitive, TypeRef.innermost?]
  | nominal type => simp [TypeRef.innermost?]
  | array element base ih => exact ih

theorem mayMention_nominal :
    graph.MayMention self (.nominal type) ↔
      graph.admitsType type { referencing := some self } = true := by
  simp [MayMention, typeVisibilityError?]

theorem mayMention_of_isOpen (isOpen : graph.IsOpen reference) :
    graph.MayMention self reference := by
  rw [mayMention_iff]
  intro type leads
  simp [mayMention_nominal, admitsType, isOpen type leads]

theorem Mentionable.of_plain (within : reference.isWithin graph.types.size = true)
    (plain : graph.IsPlain reference) (allowed : graph.MayMention self reference) :
    graph.Mentionable self reference :=
  ⟨within, .inl plain, allowed, reference, within, plain, allowed, rfl⟩

theorem unsuffixed_qualifiedName {element : TypeRef} {base : Option TypeId} {name : String}
    (unsuffixed : arrayElement? name.toList = none) :
    name ≠ (TypeRef.array element base).qualifiedName graph := by
  rintro rfl
  simp [TypeRef.qualifiedName, arrayElement?_append] at unsuffixed

/-- Plain references with the same name mean the same type. -/
theorem same_of_qualifiedName (distinct : graph.DistinctNames) {first second : TypeRef}
    (plainFirst : graph.IsPlain first) (plainSecond : graph.IsPlain second)
    (withinFirst : first.isWithin graph.types.size = true)
    (withinSecond : second.isWithin graph.types.size = true)
    (named : first.qualifiedName graph = second.qualifiedName graph) :
    first.same second = true := by
  induction first generalizing second with
  | primitive kind =>
      cases second with
      | primitive other =>
          have read := kind.ofName?_name
          rw [show kind.name = other.name from named, other.ofName?_name] at read
          cases read
          exact TypeRef.same_refl _
      | nominal type =>
          have nominal := (plainSecond type rfl).nominal
          rw [← show kind.name = graph.nameOf type from named, kind.ofName?_name] at nominal
          cases nominal
      | array element base => exact absurd named (unsuffixed_qualifiedName kind.name_unsuffixed)
  | nominal type =>
      cases second with
      | primitive other =>
          have nominal := (plainFirst type rfl).nominal
          rw [show graph.nameOf type = other.name from named, other.ofName?_name] at nominal
          cases nominal
      | nominal other =>
          simp only [TypeRef.isWithin, decide_eq_true_eq] at withinFirst withinSecond
          obtain rfl := distinct type withinFirst other withinSecond named
          exact TypeRef.same_refl _
      | array element base =>
          exact absurd named (unsuffixed_qualifiedName (plainFirst type rfl).unsuffixed)
  | array element base ih =>
      cases second with
      | primitive other =>
          exact absurd named.symm (unsuffixed_qualifiedName other.name_unsuffixed)
      | nominal other =>
          exact absurd named.symm (unsuffixed_qualifiedName (plainSecond other rfl).unsuffixed)
      | array otherElement otherBase =>
          simp only [TypeRef.isWithin, Bool.and_eq_true] at withinFirst withinSecond
          have elements : element.qualifiedName graph = otherElement.qualifiedName graph := by
            simpa [TypeRef.qualifiedName] using named
          exact ih plainFirst plainSecond withinFirst.1 withinSecond.1 elements

/-- Plain references with the same name lead to the same innermost element, so a type that may
mention one of them may mention the other. -/
theorem mayMention_of_qualifiedName (distinct : graph.DistinctNames) {first second : TypeRef}
    (plainFirst : graph.IsPlain first) (plainSecond : graph.IsPlain second)
    (withinFirst : first.isWithin graph.types.size = true)
    (withinSecond : second.isWithin graph.types.size = true)
    (named : first.qualifiedName graph = second.qualifiedName graph)
    (allowed : graph.MayMention self first) : graph.MayMention self second := by
  have same := same_of_qualifiedName distinct plainFirst plainSecond withinFirst withinSecond named
  rw [mayMention_iff] at allowed ⊢
  rwa [← TypeRef.innermost?_eq_of_same same]

end Names

namespace KeepsNames

variable {graph left : Graph} {self : TypeId} {reference : TypeRef}

theorem distinctNames (keeps : graph.KeepsNames left) (distinct : left.DistinctNames) :
    graph.DistinctNames := by
  intro first firstPresent second secondPresent named
  apply distinct first (Nat.lt_of_lt_of_le firstPresent keeps.grows) second
    (Nat.lt_of_lt_of_le secondPresent keeps.grows)
  rw [keeps.nameOf firstPresent, keeps.nameOf secondPresent, named]

theorem plainlyNamed (keeps : graph.KeepsNames left) {type : TypeId}
    (present : type < graph.types.size) (named : graph.PlainlyNamed type) :
    left.PlainlyNamed type := by
  rwa [PlainlyNamed, keeps.nameOf present, ← PlainlyNamed]

theorem isPlain (keeps : graph.KeepsNames left)
    (within : reference.isWithin graph.types.size = true) (plain : graph.IsPlain reference) :
    left.IsPlain reference := fun type leads =>
  keeps.plainlyNamed (TypeRef.lt_of_innermost? within leads) (plain type leads)

theorem isOpen (keeps : graph.KeepsNames left)
    (within : reference.isWithin graph.types.size = true) (isOpen : graph.IsOpen reference) :
    left.IsOpen reference := by
  intro type leads
  rw [(keeps.identity type (TypeRef.lt_of_innermost? within leads)).visibility]
  exact isOpen type leads

theorem isTame (keeps : graph.KeepsNames left)
    (within : reference.isWithin graph.types.size = true)
    (tame : graph.IsPlain reference ∨ graph.IsOpen reference) :
    left.IsPlain reference ∨ left.IsOpen reference :=
  tame.imp (keeps.isPlain within) (keeps.isOpen within)

theorem qualifiedName (keeps : graph.KeepsNames left)
    (within : reference.isWithin graph.types.size = true) :
    reference.qualifiedName left = reference.qualifiedName graph :=
  TypeRef.qualifiedName_congr within fun _ present => keeps.nameOf present

theorem mayMention (keeps : graph.KeepsNames left) (present : self < graph.types.size)
    (within : reference.isWithin graph.types.size = true)
    (allowed : graph.MayMention self reference) : left.MayMention self reference := by
  rw [mayMention_iff] at allowed ⊢
  intro type leads
  have target := keeps.identity type (TypeRef.lt_of_innermost? within leads)
  have source := keeps.identity self present
  simpa [mayMention_nominal, admitsType, AccessSite.moduleOf, target.visibility,
    target.moduleName, source.moduleName] using allowed type leads

theorem mentionable (keeps : graph.KeepsNames left) (present : self < graph.types.size)
    (mentionable : graph.Mentionable self reference) : left.Mentionable self reference where
  within := TypeRef.isWithin_of_le mentionable.within keeps.grows
  tame := keeps.isTame mentionable.within mentionable.tame
  allowed := keeps.mayMention present mentionable.within mentionable.allowed
  named := by
    obtain ⟨plain, within, isPlain, allowed, named⟩ := mentionable.named
    refine ⟨plain, TypeRef.isWithin_of_le within keeps.grows, keeps.isPlain within isPlain,
      keeps.mayMention present within allowed, ?_⟩
    rw [keeps.qualifiedName within, keeps.qualifiedName mentionable.within, named]

end KeepsNames

end Graph

/-! ## Names in declarations -/

/-- A type that is declared under a name without an array suffix has a plain name. -/
theorem Module.Registered.plainlyNamed {module : Module} {graph : Graph}
    (registered : module.Registered graph) {name : String} {type : TypeId}
    (listed : (name, type) ∈ module.types.entries)
    (unsuffixed : arrayElement? name.toList = none) : graph.PlainlyNamed type := by
  have named := registered.nameOf listed
  constructor
  · have plain := arrayElement?_after_dot module.name.toList (arrayElement?_canonical unsuffixed)
    rw [named]
    simpa using plain
  · cases read : Primitive.ofName? (graph.nameOf type) with
    | none => rfl
    | some kind =>
        have dotted := Text.dot_mem_append module.name (Text.canonical name)
        rw [← named, ← Primitive.name_of_ofName? read] at dotted
        exact absurd dotted kind.name_undotted

/-- What a name that was cut at a dot looks like. -/
theorem Text.toList_of_cutAtDot? {text before after : String}
    (cut : cutAtDot? text = some (before, after)) :
    text.toList = before.toList ++ '.' :: after.toList := by
  unfold cutAtDot? at cut
  dsimp only at cut
  split at cut
  next => cases cut
  next first rest dropped =>
    have isDot : first = '.' := by
      have stopped := List.head?_dropWhile_not (· != '.') text.toList
      rw [dropped] at stopped
      simpa using stopped
    cases cut
    rw [isDot] at dropped
    rw [String.toList_ofList, String.toList_ofList, ← dropped, List.takeWhile_append_dropWhile]

/-- The types of a farm are public and known by their names. -/
structure Graph.Offers (graph : Graph) (farm : Farm) : Prop where
  named : ∀ {name type}, farm.lookup? name = some type → graph.nameOf type = name
  isPublic : ∀ {name type}, farm.lookup? name = some type →
    (graph.typeAt type).visibility = .pub

theorem Graph.Offers.later {graph left : Graph} {farm : Farm} (offers : graph.Offers farm)
    (present : ∀ {name type}, farm.lookup? name = some type → type < graph.types.size)
    (keeps : graph.KeepsNames left) : left.Offers farm where
  named found := (keeps.nameOf (present found)).trans (offers.named found)
  isPublic found := by
    rw [(keeps.identity _ (present found)).visibility]
    exact offers.isPublic found

/-- A resolver that resolves plain names to types with plain names, and whose built-in types are
public. -/
structure Resolver.Plain (resolver : Resolver) (graph : Graph) : Prop where
  denoted : ∀ {name type}, resolver.Denotes name type → IsPlainName name → graph.PlainlyNamed type
  offers : graph.Offers resolver.farm

theorem Resolver.Plain.later {resolver : Resolver} {graph left : Graph}
    (plain : resolver.Plain graph) (hosted : resolver.Hosted graph)
    (keeps : graph.KeepsNames left) : resolver.Plain left where
  denoted denotes plainName :=
    keeps.plainlyNamed (hosted.denoted denotes) (plain.denoted denotes plainName)
  offers := plain.offers.later (fun found => lt_size_of_isClass (hosted.builtin found)) keeps

/-- A name is resolved to a type of the module, to a built-in type, or to one of an imported
module; all of them are registered under their names. -/
theorem Resolver.plain_of_registered {resolver : Resolver} {graph : Graph}
    (own : resolver.module.Registered graph) (offers : graph.Offers resolver.farm)
    (imported : ∀ {name types}, resolver.module.imports.get? name = some types →
      ∃ module : Module, module.types = types ∧ module.Registered graph) :
    resolver.Plain graph := by
  refine ⟨?_, offers⟩
  intro name type denotes plainName
  unfold Resolver.Denotes Module.lookupType? at denotes
  split at denotes
  next found =>
    cases denotes
    exact own.plainlyNamed (Table.mem_of_get?_eq_some found) plainName.unsuffixed
  next =>
    split at denotes
    next found =>
      cases denotes
      rwa [PlainlyNamed, offers.named found]
    next =>
      obtain ⟨⟨moduleName, typeName⟩, cut, denotes⟩ := Option.bind_eq_some_iff.mp denotes
      obtain ⟨types, imports, found⟩ := Option.bind_eq_some_iff.mp denotes
      obtain ⟨module, rfl, registered⟩ := imported imports
      apply registered.plainlyNamed (Table.mem_of_get?_eq_some found)
      have unsuffixed := plainName.unsuffixed
      rw [Text.toList_of_cutAtDot? cut, List.append_cons] at unsuffixed
      exact arrayElement?_of_suffix unsuffixed

end Nominal
