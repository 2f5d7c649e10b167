/-!
# Group-fitting layout

A document is text with places where a line may end.  A group is laid out on one line if what
remains of that line fits, and otherwise with its own line breaks taken; groups inside it then
decide for themselves.  Widths are counted in bytes, and every level of indentation is four blanks.

`fits` decides whether the line that begins with a list of documents fits, and `layout` writes it.
Both recurse on the total size of the documents that are still to be written.
-/

namespace Nominal.Text

/-- A document with optional line breaks. -/
inductive Doc where
  /-- Nothing. -/
  | empty
  /-- Text without a line break. -/
  | text (content : String)
  /-- A line break that is a blank in a flat group. -/
  | line
  /-- A line break that is nothing in a flat group. -/
  | softLine
  /-- A line break in every layout. -/
  | hardLine
  /-- One document after the other. -/
  | append (first second : Doc)
  /-- One more level of indentation. -/
  | indent (body : Doc)
  /-- A group that is flat if its line fits. -/
  | group (body : Doc)
  deriving Repr, DecidableEq

namespace Doc

instance : Append Doc := ⟨Doc.append⟩

/-- A blank that never breaks. -/
def space : Doc := .text " "

/-- Several documents in a row. -/
def concat (documents : List Doc) : Doc :=
  documents.foldr Doc.append .empty

/-- Documents with a separator between them. -/
def separated (separator : Doc) : List Doc → Doc
  | [] => .empty
  | [last] => last
  | first :: rest => first ++ separator ++ separated separator rest

/-- A group in parentheses, whose content moves to lines of its own if it does not fit. -/
def parenthesized (body : Doc) : Doc :=
  .group (.text "(" ++ .indent (.softLine ++ body) ++ .softLine ++ .text ")")

/-- The flat form: optional line breaks are written as blanks or not at all. -/
def flatten : Doc → Doc
  | empty => .empty
  | text content => .text content
  | line => .text " "
  | softLine => .empty
  | hardLine => .hardLine
  | append first second => .append first.flatten second.flatten
  | indent body => .indent body.flatten
  | group body => body.flatten

/-- The number of constructors. -/
def size : Doc → Nat
  | append first second => first.size + second.size + 1
  | indent body => body.size + 1
  | group body => body.size + 1
  | _ => 1

/-- The flat form is not larger. -/
theorem size_flatten_le (document : Doc) : document.flatten.size ≤ document.size := by
  induction document with
  | append first second firstBound secondBound => simp only [flatten, size]; omega
  | indent body bound => simp only [flatten, size]; omega
  | group body bound => simp only [flatten, size]; omega
  | _ => simp [flatten, size]

end Doc

/-- The documents still to be written, each with its level of indentation. -/
abbrev Pending := List (Nat × Doc)

/-- The total size of the pending documents. -/
def pendingSize : Pending → Nat
  | [] => 0
  | entry :: rest => entry.2.size + pendingSize rest

/-- Whether the pending documents fit into `remaining` bytes, up to the next line break. -/
def fits (remaining : Int) (pending : Pending) : Bool :=
  if remaining < 0 then false
  else
    match pending with
    | [] => true
    | (level, document) :: rest =>
      match document with
      | .empty => fits remaining rest
      | .text content => fits (remaining - content.utf8ByteSize) rest
      | .line => true
      | .softLine => true
      | .hardLine => true
      | .append first second => fits remaining ((level, first) :: (level, second) :: rest)
      | .indent body => fits remaining ((level + 1, body) :: rest)
      | .group body =>
        fits remaining ((level, body.flatten) :: rest) || fits remaining ((level, body) :: rest)
termination_by pendingSize pending
decreasing_by
  all_goals simp only [pendingSize, Doc.size]
  all_goals try omega
  have bound := Doc.size_flatten_le body
  omega

/-- The indentation of a line at the given level. -/
def indentation (level : Nat) : String :=
  String.ofList (List.replicate (4 * level) ' ')

/-- Writes the pending documents; `column` is the number of bytes already on the line. -/
def layout (width : Int) (column : Nat) (pending : Pending) : String :=
  match pending with
  | [] => ""
  | (level, document) :: rest =>
    match document with
    | .empty => layout width column rest
    | .text content => content ++ layout width (column + content.utf8ByteSize) rest
    | .line => "\n" ++ indentation level ++ layout width (4 * level) rest
    | .softLine => "\n" ++ indentation level ++ layout width (4 * level) rest
    | .hardLine => "\n" ++ indentation level ++ layout width (4 * level) rest
    | .append first second => layout width column ((level, first) :: (level, second) :: rest)
    | .indent body => layout width column ((level + 1, body) :: rest)
    | .group body =>
      if fits (width - column) ((level, body.flatten) :: rest) then
        layout width column ((level, body.flatten) :: rest)
      else layout width column ((level, body) :: rest)
termination_by pendingSize pending
decreasing_by
  all_goals simp only [pendingSize, Doc.size]
  all_goals try omega
  have bound := Doc.size_flatten_le body
  omega

/-- Writes a document with the given line width. -/
def Doc.render (document : Doc) (width : Int) : String :=
  layout width 0 [(0, document)]

end Nominal.Text
