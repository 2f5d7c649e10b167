import Nominal.Yaml.Scalar

/-!
# Document nodes

What a document consists of: scalars, sequences and mappings.  Keys are scalars.
-/

namespace Nominal.Yaml

/-- A node of a document. -/
inductive Node where
  | scalar (value : Scalar)
  | sequence (items : List Node)
  | mapping (entries : List (Scalar × Node))
  deriving Repr, Inhabited

namespace Node

/-- The node that stands for nothing. -/
def absent : Node := .scalar .null

/-- A text. -/
def text (content : String) : Node := .scalar (.text content)

/-- A truth value. -/
def ofBool (value : Bool) : Node := .scalar (.bool value)

/-- A list of texts. -/
def ofStrings (values : List String) : Node :=
  .sequence (values.map text)

/-- A mapping of texts to nodes. -/
def ofEntries (entries : List (String × Node)) : Node :=
  .mapping (entries.map fun entry => (.text entry.1, entry.2))

end Node

end Nominal.Yaml
