import Nominal.Yaml.Node
import Nominal.Yaml.Phrase

/-!
# Reading documents

Reads the node of a document from its phrases.  Columns decide where a collection without brackets
ends: an entry of a mapping or an item of a sequence stands at the column of the first one, and a
value stands right of its key.  Keys of a mapping differ from each other, and a key does not span
lines.
-/

namespace Nominal.Yaml

/-- A document that is being read: the phrases to come, and the values of the anchors so far. -/
structure Reader where
  rest : List Phrase
  anchors : List (String × Node) := []

/-- A step of reading, which may find that the document is malformed. -/
abbrev Reading := StateT Reader Option

namespace Reading

/-- The present phrase. -/
def current? : Reading (Option Phrase) := do
  return (← get).rest.head?

/-- The phrase after the present one. -/
def next? : Reading (Option Phrase) := do
  return (← get).rest.tail.head?

/-- Passes the present phrase. -/
def skip : Reading Unit :=
  modify fun reader => { reader with rest := reader.rest.tail }

/-- Demands a condition. -/
def require (condition : Bool) : Reading Unit :=
  if condition then pure () else failure

/-- Gives an anchor its value. -/
def define (name : String) (node : Node) : Reading Unit :=
  modify fun reader => { reader with anchors := (name, node) :: reader.anchors }

/-! ## Scalars and keys -/

/-- The value of a tagged scalar, which was written in a certain way. -/
def tagged? (tag written : String) (node : Node) : Option Node :=
  match tag with
  | "!!str" => some (.text written)
  | "!!null" => some .absent
  | "!!int" =>
    match number? written.toList with
    | some (.whole value) => some (.scalar (.whole value))
    | _ => some (.scalar (.whole 0))
  | "!!bool" =>
    match Scalar.ofPlain written with
    | .bool value => some (.ofBool value)
    | _ => none
  | _ => some node

/-- The way in which a scalar is written. -/
def written : Phrase → String
  | .token first => first.content
  | .block _ (some content) => content.content
  | .tag _ (some value) => written value
  | _ => ""

/-- Reads a phrase that is a scalar, or that stands for a node. -/
def scalar : Phrase → Reading Node
  | .token first =>
    match first.kind with
    | .plain value => return .scalar value
    | .quoted => return .text first.content
    | _ => failure
  | .block _ none => return .text ""
  | .block _ (some content) => if content.isText then return .text content.content else failure
  | .anchor _ name value => do
    let node ← scalar value
    define name.content node
    return node
  | .reference _ name => do
    match (← get).anchors.lookup name.content with
    | some node => return node
    | none => failure
  | .tag first none =>
    match tagged? first.content "" .absent with
    | some node => return node
    | none => failure
  | .tag first (some value) => do
    let node ← scalar value
    match tagged? first.content (written value) node with
    | some node => return node
    | none => failure
  | _ => failure

/-- Whether a key that ends at a line may stand before its colon: it does not span lines, unless in
brackets the colon stands on its last line. -/
def isOnLine (inFlow : Bool) (key : Token) (colonLine : Nat) : Bool :=
  if inFlow then
    let source := if key.isPlainText then key.innerSource else key.trimmedSource
    key.line + countBreaks source == colonLine
  else !key.isText || countBreaks key.trimmedSource == 0

/-- An entry of a mapping: the text that tells its key from the other keys, the key, and the value.
The entries of a mapping under a merge key belong to the mapping that it stands in. -/
structure Entry where
  text : String
  key : Option Scalar
  value : Node

/-- Reads a key: its text, and the scalar if it is not a merge key. -/
def key (inFlow : Bool) (seen : List String) (phrase : Phrase) :
    Reading (String × Option Scalar) := do
  let (subject, mark, colonLine) ← match phrase with
    | .markedKey mark subject => pure (subject, mark, subject.line)
    | .key (.markedKey mark subject) colon => pure (subject, mark, colon.line)
    | .key subject colon => pure (subject, subject.head, colon.line)
    | _ => failure
  let text := written subject
  require (!seen.contains text && isOnLine inFlow mark colonLine)
  if subject.isToken .mergeKey then return (text, none)
  match ← scalar subject with
  | .scalar value => return (text, some value)
  | _ => failure

/-- The entries that a node under a merge key brings. -/
def mergedEntries? : Node → Option (List (Scalar × Node))
  | .mapping entries => some entries
  | .sequence items => do
    let parts ← items.mapM fun item =>
      match item with
      | .mapping entries => some entries
      | _ => none
    return parts.flatten
  | .scalar _ => none

/-- A mapping of entries. -/
def mappingOf (entries : List Entry) : Reading Node := do
  let parts ← entries.mapM fun entry =>
    match entry.key with
    | some key => pure [(key, entry.value)]
    | none => StateT.lift (mergedEntries? entry.value)
  return .mapping parts.flatten

/-! ## Collections -/

/-- Whether a phrase belongs to a mapping: a key, or a bracket. -/
def isOfMapping (phrase : Phrase) : Bool :=
  phrase.startsEntry || phrase.isToken .mappingStart || phrase.isToken .mappingEnd

/-- Whether a phrase ends an entry of a mapping in brackets. -/
def endsEntry (phrase : Phrase) : Bool :=
  phrase.isToken .separator || phrase.isToken .mappingEnd

/-- Whether a phrase may follow an entry with a scalar whose key stands at a column. -/
def mayFollow (inFlow : Bool) (column : Int) (phrase : Phrase) : Bool :=
  phrase.column ≤ column
    || inFlow && (phrase.isToken .separator || phrase.isToken .sequenceEnd)

/-- Whether the value after a key or a dash is left out, since the present phrase stands at the
place of the next entry or item, or further left.  An anchor or a tag cannot stand there. -/
def isLeftOut (column : Int) (isNext : Phrase → Bool) (phrase : Phrase) : Reading Bool := do
  if phrase.column = column ∧ isNext phrase then return true
  require (phrase.column > column || !(phrase.isAnchorName || phrase.kind == .tag))
  return phrase.column < column

/-- Reads an anchor for nothing after a key or a dash, if there is one: the phrase after the anchor
is already the next entry or item. -/
def isAnchorAlone (mark : Phrase) (isNext : Phrase → Bool) (phrase : Phrase) : Reading Bool := do
  match phrase with
  | .anchorName sign name =>
    let isEmpty := (← next?).any fun next => next.column == mark.column && isNext next
    if sign.line = mark.line ∧ isEmpty then
      define name.content .absent
      skip
      return true
    else return false
  | _ => return false

mutual

/-- Reads the node that starts at the present phrase, in at most `steps` nested steps. -/
def node (inFlow : Bool) : Nat → Reading Node
  | 0 => failure
  | steps + 1 => do
    match ← current? with
    | none => failure
    | some (.anchorName _ name) =>
      skip
      let value ← node inFlow steps
      define name.content value
      return value
    | some (.token first) =>
      match first.kind with
      | .tag =>
        skip
        taggedNode inFlow first.content steps
      | .mappingStart =>
        skip
        mappingOf (← flowEntries [] true steps)
      | .sequenceStart =>
        skip
        return .sequence (← flowItems true steps)
      | .item => return .sequence (← items inFlow (.token first) steps)
      | _ =>
        let value ← scalar (.token first)
        skip
        return value
    | some phrase =>
      if phrase.startsEntry then mappingOf (← entries inFlow [] steps)
      else
        let value ← scalar phrase
        skip
        return value

/-- Reads the node after a tag. -/
def taggedNode (inFlow : Bool) (tag : String) : Nat → Reading Node
  | 0 => failure
  | steps + 1 => do
    match ← current? with
    | none => return .absent
    | some phrase =>
      if Phrase.scalarTags.contains tag then
        if phrase.isToken .separator then return .absent
        let value ← scalar phrase
        skip
        match tagged? tag (written phrase) value with
        | some value => return value
        | none => failure
      else node inFlow steps

/-- Reads the entries of a mapping without brackets, from the present key on. -/
def entries (inFlow : Bool) (seen : List String) : Nat → Reading (List Entry)
  | 0 => failure
  | steps + 1 => do
    match ← current? with
    | some (.entry keyPhrase value) =>
      let (text, key) ← key inFlow seen keyPhrase
      let value ← scalar value
      skip
      require ((← current?).all (mayFollow inFlow keyPhrase.column))
      return ⟨text, key, value⟩ :: (← moreEntries inFlow (text :: seen) keyPhrase.column steps)
    | some phrase =>
      let (text, key) ← key inFlow seen phrase
      skip
      let value ← entryValue inFlow phrase steps
      return ⟨text, key, value⟩ :: (← moreEntries inFlow (text :: seen) phrase.column steps)
    | none => failure

/-- Reads further entries of a mapping whose keys stand at a column. -/
def moreEntries (inFlow : Bool) (seen : List String) (column : Int) :
    Nat → Reading (List Entry)
  | 0 => failure
  | steps + 1 => do
    match ← current? with
    | none => return []
    | some phrase =>
      if phrase.column ≠ column ∨ (inFlow ∧ phrase.isToken .sequenceEnd) then return []
      require (isOfMapping phrase)
      if phrase.isToken .mappingEnd then
        skip
        return []
      let first ← entries inFlow seen steps
      return first ++ (← moreEntries inFlow (first.map (·.text) ++ seen) column steps)

/-- Reads the value of a key that has no scalar on its line. -/
def entryValue (inFlow : Bool) (key : Phrase) : Nat → Reading Node
  | 0 => failure
  | steps + 1 => do
    match ← current? with
    | none => return .absent
    | some phrase =>
      let isOnLine := phrase.line == key.line
      require (!(isOnLine && phrase.kind == .item))
      require (!(isOnLine && phrase.column != key.column && phrase.startsEntry))
      if ← isAnchorAlone key isOfMapping phrase then return .absent
      if ← isLeftOut key.column isOfMapping phrase then return .absent
      node inFlow steps

/-- Reads the items of a sequence without brackets, from the present dash on.  The first dash gives
their column. -/
def items (inFlow : Bool) (dash : Phrase) : Nat → Reading (List Node)
  | 0 => failure
  | steps + 1 => do
    match ← current? with
    | none => return []
    | some phrase =>
      if phrase.isToken .item ∧ phrase.column = dash.column then
        skip
        let value ← itemValue inFlow dash steps
        return value :: (← items inFlow dash steps)
      else return []

/-- Reads the value of an item. -/
def itemValue (inFlow : Bool) (dash : Phrase) : Nat → Reading Node
  | 0 => failure
  | steps + 1 => do
    match ← current? with
    | none => return .absent
    | some phrase =>
      if ← isAnchorAlone dash (·.isToken .item) phrase then return .absent
      if ← isLeftOut dash.column (·.isToken .item) phrase then return .absent
      node inFlow steps

/-- Reads the entries of a mapping in brackets.  A comma stands between two entries, and may stand
before the first and after the last. -/
def flowEntries (seen : List String) (isFirst : Bool) :
    Nat → Reading (List Entry)
  | 0 => failure
  | steps + 1 => do
    match ← current? with
    | none => failure
    | some phrase =>
      if phrase.isToken .separator then skip
      else require (isFirst || phrase.isToken .mappingEnd)
    match ← current? with
    | none => failure
    | some (.entry keyPhrase value) =>
      let (text, key) ← key true seen keyPhrase
      let value ← scalar value
      skip
      return ⟨text, key, value⟩ :: (← flowEntries (text :: seen) false steps)
    | some phrase =>
      if phrase.isToken .mappingEnd then
        skip
        return []
      if phrase.isKey then
        let (text, key) ← key true seen phrase
        skip
        let isBare := (← current?).any endsEntry
        let value ← if isBare then pure .absent else node true steps
        return ⟨text, key, value⟩ :: (← flowEntries (text :: seen) false steps)
      require ((← next?).any endsEntry)
      match ← scalar phrase with
      | .scalar value =>
        skip
        return ⟨"", some value, .absent⟩ :: (← flowEntries seen false steps)
      | _ => failure

/-- Reads the items of a sequence in brackets.  A comma stands between two items, and may stand
after the last. -/
def flowItems (isFirst : Bool) : Nat → Reading (List Node)
  | 0 => failure
  | steps + 1 => do
    match ← current? with
    | none => failure
    | some phrase =>
      if phrase.isToken .separator then
        require !isFirst
        skip
      else require (isFirst || phrase.isToken .sequenceEnd)
    match ← current? with
    | none => failure
    | some phrase =>
      if phrase.isToken .sequenceEnd then
        skip
        return []
      let value ← node true steps
      return value :: (← flowItems false steps)

end

/-- Reads a whole document.  A directive is no document. -/
def document (phrases : List Phrase) : Reading (Option Node) := do
  match phrases with
  | [.directive _] => return none
  | _ =>
    modify fun reader => { reader with rest := phrases }
    let value ← node false (8 * phrases.length + 8)
    require (← get).rest.isEmpty
    return some value

end Reading

/-- The nodes of the documents of a text; none if it is malformed. -/
def parse? (text : String) : Option (List Node) := do
  let documents ← documents? text
  let (nodes, _) ← (documents.mapM Reading.document).run { rest := [] }
  return nodes.filterMap id

end Nominal.Yaml
