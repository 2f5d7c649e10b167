import Nominal.Module.Declaration
import Nominal.Yaml.Document

/-!
# Declarations in documents

Reads a module declaration from a document.  The schema is strict: an unknown or repeated key, or a
value of the wrong shape, makes the document invalid.  A value that stands for nothing is an empty
value of any shape.
-/

namespace Nominal.Yaml

/-- Reads text. -/
def Node.string? : Node → Option String
  | scalar value => some value.render
  | _ => none

/-- Reads a truth value. -/
def Node.bool? : Node → Option Bool
  | scalar (.bool value) => some value
  | scalar .null => some false
  | _ => none

/-- Reads a list. -/
def Node.list? {α : Type} (item? : Node → Option α) : Node → Option (List α)
  | sequence items => items.mapM item?
  | scalar .null => some []
  | _ => none

/-- The fields of a record, after those that were found: `found` has them reversed.  Entries with a
key that is not text are no record, and then no field counts. -/
def fieldsAfter? (found : List (String × Node)) :
    List (Scalar × Node) → Option (List (String × Node))
  | [] => some found.reverse
  | (.text name, value) :: rest =>
    if (found.lookup name).isSome then none else fieldsAfter? ((name, value) :: found) rest
  | _ :: _ => some []

/-- The fields of a record. -/
def Node.fields? : Node → Option (List (String × Node))
  | mapping entries => fieldsAfter? [] entries
  | scalar .null => some []
  | _ => none

/-- Reads a record field by field; `field?` refuses a key that it does not know. -/
def Node.record? {α : Type} (initial : α) (field? : α → String → Node → Option α) (node : Node) :
    Option α := do
  let fields ← node.fields?
  fields.foldlM (fun record field => field? record field.1 field.2) initial

/-- Puts a value under a name, in place of the value there. -/
def putNamed (name value : String) : List (String × String) → List (String × String)
  | [] => [(name, value)]
  | entry :: rest =>
    if entry.1 = name then (name, value) :: rest else entry :: putNamed name value rest

/-- The name that a key of a mapping to texts stands for: a whole number is the character with that
code point. -/
def keyName? : Scalar → Option String
  | .text content => some content
  | .whole value => some (String.singleton (Text.characterOf value))
  | .null => some ""
  | _ => none

/-- Reads entries of a mapping from text to text, after those in `named`.  Names differ from the
names in `seen`, but a key that stands for nothing may repeat one. -/
def textEntries? (seen : List String) (named : List (String × String)) :
    List (Scalar × Node) → Option (List (String × String))
  | [] => some named
  | (key, node) :: rest => do
    let name ← keyName? key
    let value ← node.string?
    let next := putNamed name value named
    if key = .null then textEntries? seen next rest
    else if seen.contains name then none
    else textEntries? (name :: seen) next rest

/-- Reads a mapping from text to text. -/
def Node.stringMap? : Node → Option (List (String × String))
  | mapping entries => textEntries? [] [] entries
  | scalar .null => some []
  | _ => none

/-- Reads a parameter. -/
def parameter? : Node → Option ParameterDeclaration :=
  Node.record? {} fun record key node =>
    match key with
    | "name" => do return { record with name := ← node.string? }
    | "type" => do return { record with type := ← node.string? }
    | _ => none

/-- Reads a constructor call. -/
def forwardCall? : Node → Option ForwardCallDeclaration :=
  Node.record? {} fun record key node =>
    match key with
    | "target" => do return { record with target := ← node.string? }
    | "arguments" => do return { record with arguments := ← node.list? Node.string? }
    | _ => none

/-- Reads a member. -/
def member? : Node → Option MemberDeclaration :=
  Node.record? {} fun record key node =>
    match key with
    | "kind" => do return { record with kind := ← node.string? }
    | "name" => do return { record with name := ← node.string? }
    | "visibility" => do return { record with visibility := ← node.string? }
    | "static" => do return { record with isStatic := ← node.bool? }
    | "abstract" => do return { record with isAbstract := ← node.bool? }
    | "const" => do return { record with isConst := ← node.bool? }
    | "type" => do return { record with type := ← node.string? }
    | "returns" => do return { record with returns := ← node.string? }
    | "params" => do return { record with params := ← node.list? parameter? }
    | "calls" =>
      match node with
      | .scalar .null => some { record with calls := none }
      | _ => do return { record with calls := some (← forwardCall? node) }
    | "doc" => do return { record with doc := ← node.string? }
    | _ => none

/-- Reads an attached annotation. -/
def annotationUse? : Node → Option AnnotationDeclaration :=
  Node.record? {} fun record key node =>
    match key with
    | "type" => do return { record with type := ← node.string? }
    | "arguments" => do return { record with arguments := ← node.stringMap? }
    | _ => none

/-- Reads a type. -/
def type? : Node → Option TypeDeclaration :=
  Node.record? {} fun record key node =>
    match key with
    | "class" => do return { record with className := ← node.string? }
    | "interface" => do return { record with interfaceName := ← node.string? }
    | "visibility" => do return { record with visibility := ← node.string? }
    | "abstract" => do return { record with isAbstract := ← node.bool? }
    | "final" => do return { record with isFinal := ← node.bool? }
    | "attribute" => do return { record with isAttribute := ← node.bool? }
    | "inherited" => do return { record with isInherited := ← node.bool? }
    | "parent" => do return { record with parent := ← node.string? }
    | "implements" => do return { record with implements := ← node.list? Node.string? }
    | "extends" => do return { record with extended := ← node.list? Node.string? }
    | "extensions" => do return { record with extensions := ← node.list? Node.string? }
    | "annotations" => do return { record with annotations := ← node.list? annotationUse? }
    | "members" => do return { record with members := ← node.list? member? }
    | "doc" => do return { record with doc := ← node.string? }
    | _ => none

/-- Reads a module declaration from the fields of a document. -/
def moduleRecord? : Node → Option ModuleDeclaration :=
  Node.record? {} fun record key node =>
    match key with
    | "module" => do return { record with name := ← node.string? }
    | "types" => do return { record with types := ← node.list? type? }
    | _ => none

/-- Reads a module declaration from a document, which must be a mapping. -/
def module? : Node → Option ModuleDeclaration
  | .mapping entries => moduleRecord? (.mapping entries)
  | _ => none

/-- Reads a declaration file.  Its first document counts, and without a document the declaration is
empty; but all documents must be well-formed. -/
def parseModule (text : String) : Option ModuleDeclaration := do
  match ← parse? text with
  | [] => some {}
  | first :: _ => module? first

end Nominal.Yaml
