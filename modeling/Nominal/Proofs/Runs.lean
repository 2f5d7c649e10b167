import Nominal.Proofs.MemberAccess
import Nominal.Proofs.SealSteps
import Nominal.Proofs.SupertypeSteps

/-!
# Runs

A run is a list of operations, performed one after the other from a graph that holds nothing.  An
operation may fail; the run goes on with the graph that it leaves.  An operation is *admissible* in
a graph if it names arenas and types that are there, and classes and interfaces where it asks for
them; nothing is assumed about the order of the operations.

Every run leaves a sound graph, and keeps what was sealed before.
-/

namespace Nominal

/-- An operation on a graph. -/
inductive Operation where
  | openArena (settings : ArenaSettings)
  | newClass (arena : ArenaId) (identifier moduleName : String) (visibility : Visibility)
      (properties : TypeProperties)
  | newInterface (arena : ArenaId) (identifier moduleName : String) (visibility : Visibility)
      (properties : TypeProperties)
  | newMember (member : Member)
  | arrayOf (arena : ArenaId) (element : TypeRef) (base : Option TypeId)
  | setTrusted (type : TypeId) (isTrusted : Bool)
  | setParent (type : TypeId) (parent : Option TypeId)
  | addInterface (type : TypeId) (interface : Option TypeId)
  | addExtensionClass (type : TypeId) (extension : Option TypeId)
  | annotate (type : TypeId) (use : AnnotationUse)
  | setScope (type : TypeId) (scope : Option Scope)
  | setHostType (type : TypeId) (hostType : Option String)
  | setImplementation (type : TypeId) (implementation : Option Implementation)
  | setDocString (type : TypeId) (docString : String)
  | markParsed (type : TypeId)
  | declareMember (type : TypeId) (member : Option MemberId) (isStatic : Bool)
  | sealType (type : TypeId)
  | finishBuild (type : TypeId) (sealNow : Bool)
  | ask (view : View) (type : TypeId)
  | access (type : TypeRef) (name : String) (site : AccessSite) (isStatic : Bool)
  deriving Repr, DecidableEq

namespace Operation

/-- The graph that an operation leaves, whether it succeeds or fails. -/
def perform (graph : Graph) : Operation → Graph
  | openArena settings => { graph with arenas := graph.arenas.push { settings } }
  | newClass arena identifier moduleName visibility properties =>
    ((Nominal.newClass arena identifier moduleName visibility properties).exec graph).2
  | newInterface arena identifier moduleName visibility properties =>
    ((Nominal.newInterface arena identifier moduleName visibility properties).exec graph).2
  | newMember member => ((Nominal.newMember member).exec graph).2
  | arrayOf arena element base => ((Nominal.arrayOf arena element base).exec graph).2
  | setTrusted type isTrusted => ((Nominal.setTrusted type isTrusted).exec graph).2
  | setParent type parent => ((Nominal.setParent type parent).exec graph).2
  | addInterface type interface => ((Nominal.addInterface type interface).exec graph).2
  | addExtensionClass type extension =>
    ((Nominal.addExtensionClass type extension).exec graph).2
  | annotate type use => ((Nominal.annotate type use).exec graph).2
  | setScope type scope => ((Nominal.setScope type scope).exec graph).2
  | setHostType type hostType => ((Nominal.setHostType type hostType).exec graph).2
  | setImplementation type implementation =>
    ((Nominal.setImplementation type implementation).exec graph).2
  | setDocString type docString => ((Nominal.setDocString type docString).exec graph).2
  | markParsed type => ((Nominal.markParsed type).exec graph).2
  | declareMember type member isStatic =>
    ((Nominal.declareMember type member isStatic).exec graph).2
  | sealType type => ((Nominal.sealType type).exec graph).2
  | finishBuild type sealNow => ((Nominal.finishBuild type sealNow).exec graph).2
  | ask view type => ((view.ask type).exec graph).2
  | access type name site isStatic =>
    ((checkMemberAccess type name site isStatic).exec graph).2

/-- Whether the arenas and types that an operation names are there, and are of the kind that it
asks for. -/
def isAdmissible (graph : Graph) : Operation → Bool
  | newClass arena .. | newInterface arena .. => arena < graph.arenas.size
  | newMember member => member.isWithin graph.types.size
  | setParent type parent =>
    (graph.typeAt type).isClass && parent.all fun id => (graph.typeAt id).isClass
  | addInterface type interface =>
    type < graph.types.size
      && interface.all fun id => id < graph.types.size && !(graph.typeAt id).isClass
  | annotate type use => type < graph.types.size && use.type.all (· < graph.types.size)
  | addExtensionClass type _ | setScope type _ | setHostType type _ | setImplementation type _
  | setDocString type _ | markParsed type | declareMember type .. => type < graph.types.size
  | openArena _ | arrayOf .. | setTrusted .. | sealType _ | finishBuild .. | ask .. | access .. =>
    true

end Operation

namespace Graph

/-- The graph that a run leaves. -/
def after (graph : Graph) (run : List Operation) : Graph :=
  run.foldl Operation.perform graph

/-- Whether every operation of a run is admissible in the graph in which it is performed. -/
def admits (graph : Graph) : List Operation → Bool
  | [] => true
  | operation :: rest =>
    operation.isAdmissible graph && (operation.perform graph).admits rest

theorem after_append (graph : Graph) (run later : List Operation) :
    graph.after (run ++ later) = (graph.after run).after later :=
  List.foldl_append

theorem admits_append {graph : Graph} {run later : List Operation} :
    graph.admits (run ++ later) = (graph.admits run && (graph.after run).admits later) := by
  induction run generalizing graph with
  | nil => rfl
  | cons operation rest induction =>
      rw [List.cons_append, admits, admits, induction, Bool.and_assoc]
      rfl

end Graph

/-! ## What an operation does -/

namespace Operation

open Nominal.Graph

variable {graph : Graph}

/-- What an operation can change. -/
def Does : Operation → Deed → Prop
  | setParent type _ => (· = .link type)
  | declareMember type .. => (· = .declare type)
  | setImplementation _ implementation => (· = .implement implementation)
  | sealType _ | finishBuild .. => Deed.Seals True
  | _ => (· = .describe)

/-- An operation other than granting trust is a sequence of steps. -/
theorem perform_steps (sound : graph.Sound) {operation : Operation}
    (admissible : operation.isAdmissible graph = true)
    (untrusting : ∀ type isTrusted, operation ≠ .setTrusted type isTrusted) :
    Steps operation.Does graph (operation.perform graph) := by
  cases operation with
  | openArena settings =>
      exact .single (.of_change (.refl sound) rfl (.openArena settings) rfl fun _ _ _ held => held)
  | newClass arena identifier moduleName visibility properties =>
      exact .single (newStub_step sound (by simpa [isAdmissible] using admissible) (.inl rfl) ..)
  | newInterface arena identifier moduleName visibility properties =>
      exact .single (newStub_step sound (by simpa [isAdmissible] using admissible) (.inr rfl) ..)
  | newMember member => exact .single (newMember_step sound admissible)
  | arrayOf arena element base => exact .single (arrayOf_step sound arena element base)
  | setTrusted type isTrusted => exact absurd rfl (untrusting type isTrusted)
  | setParent type parent =>
      simp only [isAdmissible, Bool.and_eq_true, Option.all_eq_true] at admissible
      exact .single (setParent_step sound admissible.1 fun id named => admissible.2 id named)
  | addInterface type interface =>
      simp only [isAdmissible, Bool.and_eq_true, Option.all_eq_true, decide_eq_true_eq,
        Bool.not_eq_true'] at admissible
      exact .single (addInterface_step sound admissible.1
        (fun id named => (admissible.2 id named).1) fun id named => (admissible.2 id named).2)
  | addExtensionClass type extension =>
      exact .single (addExtensionClass_step sound (by simpa [isAdmissible] using admissible) _)
  | annotate type use =>
      simp only [isAdmissible, Bool.and_eq_true, decide_eq_true_eq, Option.all_eq_true]
        at admissible
      refine .single (changeType_step sound admissible.1 _ (.describe _
        ⟨⟨rfl, rfl, rfl, rfl, rfl, rfl, rfl⟩, rfl, fun _ => rfl, rfl, .inl rfl, rfl, ?_⟩))
      intro attached listed
      rcases List.mem_append.mp listed with old | new
      · exact .inl old
      · rw [List.mem_singleton.mp new]
        exact .inr admissible.2
  | setScope type scope =>
      exact .single (changeType_step sound (by simpa [isAdmissible] using admissible) _
        (.describe _ ⟨⟨rfl, rfl, rfl, rfl, rfl, rfl, rfl⟩, rfl, fun _ => rfl, rfl, .inl rfl, rfl,
          fun _ listed => .inl listed⟩))
  | setHostType type hostType =>
      exact .single (changeType_step sound (by simpa [isAdmissible] using admissible) _
        (.describe _ ⟨⟨rfl, rfl, rfl, rfl, rfl, rfl, rfl⟩, rfl, fun _ => rfl, rfl, .inl rfl, rfl,
          fun _ listed => .inl listed⟩))
  | setImplementation type implementation =>
      exact .single (changeType_step sound (by simpa [isAdmissible] using admissible) _
        (.implement implementation))
  | setDocString type docString =>
      exact .single (changeType_step sound (by simpa [isAdmissible] using admissible) _
        (.describe _ ⟨⟨rfl, rfl, rfl, rfl, rfl, rfl, rfl⟩, rfl, fun _ => rfl, rfl, .inl rfl, rfl,
          fun _ listed => .inl listed⟩))
  | markParsed type =>
      exact .single (changeType_step sound (by simpa [isAdmissible] using admissible) _
        (.describe _ ⟨⟨rfl, rfl, rfl, rfl, rfl, rfl, rfl⟩, rfl, fun _ => rfl, rfl, .inr rfl, rfl,
          fun _ listed => .inl listed⟩))
  | declareMember type member isStatic =>
      exact .single (declareMember_step sound (by simpa [isAdmissible] using admissible) _ _)
  | sealType type => exact sealType_steps type sound fun _ _ => trivial
  | finishBuild type sealNow => exact finishBuild_steps type sealNow sound fun _ _ => trivial
  | ask view type => exact .single (.of_reads ((Query.Answers.ask view type).reads sound))
  | access type name site isStatic =>
      exact .single (.of_reads (checkMemberAccess_inspects sound type).reads)

/-- Trust has no bearing on what is declared. -/
theorem perform_setTrusted (sound : graph.Sound) (type : TypeId) (isTrusted : Bool) :
    ((setTrusted type isTrusted).perform graph).Sound ∧
      graph.KeepsSealed ((setTrusted type isTrusted).perform graph) := by
  have trusted : (graph.modifyProgress type ({ · with isTrusted })).Sound :=
    sound.of_keeps (sound.wellFormed.of_eq rfl rfl fun _ => rfl) (.of_eq rfl rfl)
      fun _ _ _ held => held
  unfold perform Nominal.setTrusted
  dsimp only
  rw [exec_requireUnsealed_bind]
  split
  · exact ⟨sound, .refl graph⟩
  · exact ⟨trusted, .of_eq rfl rfl⟩

/-- Every operation leaves a sound graph and keeps what is sealed. -/
theorem perform_sound (sound : graph.Sound) {operation : Operation}
    (admissible : operation.isAdmissible graph = true) :
    (operation.perform graph).Sound ∧ graph.KeepsSealed (operation.perform graph) := by
  by_cases trusting : ∃ type isTrusted, operation = .setTrusted type isTrusted
  · obtain ⟨type, isTrusted, rfl⟩ := trusting
    exact perform_setTrusted sound type isTrusted
  · have steps := perform_steps sound admissible fun type isTrusted equal =>
      trusting ⟨type, isTrusted, equal⟩
    exact ⟨steps.sound sound, steps.keepsSealed⟩

end Operation

/-! ## What a run does -/

namespace Graph

variable {graph : Graph}

/-- Every run leaves a sound graph and keeps what is sealed. -/
theorem after_sound (sound : graph.Sound) {run : List Operation}
    (admitted : graph.admits run = true) :
    (graph.after run).Sound ∧ graph.KeepsSealed (graph.after run) := by
  induction run generalizing graph with
  | nil => exact ⟨sound, .refl graph⟩
  | cons operation rest induction =>
      rw [admits, Bool.and_eq_true] at admitted
      obtain ⟨performed, keeps⟩ := operation.perform_sound sound admitted.1
      obtain ⟨finished, keepsRest⟩ := induction performed admitted.2
      exact ⟨finished, keeps.trans keepsRest⟩

/-- A graph that holds nothing is sound. -/
theorem sound_start : ({} : Graph).Sound := by
  refine ⟨.start, ?_⟩
  intro view type answer held
  have empty : ({} : Graph).cacheAt type = {} := rfl
  rw [empty, view.kept_empty] at held
  cases held

theorem sound_after {run : List Operation} (admitted : ({} : Graph).admits run = true) :
    (({} : Graph).after run).Sound :=
  (after_sound sound_start admitted).1

end Graph

end Nominal
