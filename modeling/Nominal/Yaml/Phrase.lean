import Nominal.Yaml.Lexer

/-!
# Phrases

Neighbouring tokens that belong together form a phrase: a block header with its text, an anchor or
a tag with what it is put on, a key with its colon, and a key with a scalar on the same line.  A
document is a list of phrases.
-/

namespace Nominal.Yaml

/-- A group of tokens. -/
inductive Phrase where
  | token (token : Token)
  /-- A block of text: its header and the token with the text. -/
  | block (header : Token) (content : Option Token)
  /-- An anchor whose value follows later. -/
  | anchorName (sign name : Token)
  /-- An anchor with a scalar. -/
  | anchor (sign name : Token) (value : Phrase)
  /-- An alias: a reference to an anchor. -/
  | reference (sign name : Token)
  /-- A tag with the scalar on its line, if there is one. -/
  | tag (tag : Token) (value : Option Phrase)
  /-- A key after a question mark. -/
  | markedKey (sign : Token) (key : Phrase)
  /-- A key before a colon. -/
  | key (key : Phrase) (colon : Token)
  /-- A key with a scalar on its line. -/
  | entry (key value : Phrase)
  /-- A directive, whose content does not count. -/
  | directive (sign : Token)
  deriving Repr

namespace Phrase

/-- The first token. -/
def head : Phrase → Token
  | token first => first
  | block first _ => first
  | anchorName first _ => first
  | anchor first _ _ => first
  | reference first _ => first
  | tag first _ => first
  | markedKey first _ => first
  | key first _ => first.head
  | entry first _ => first.head
  | directive first => first

/-- The kind of the first token. -/
def kind (phrase : Phrase) : TokenKind :=
  phrase.head.kind

/-- The line of the first token. -/
def line (phrase : Phrase) : Nat :=
  phrase.head.line

/-- The column of the first token. -/
def column (phrase : Phrase) : Int :=
  phrase.head.column

/-- Whether a phrase is a key without a value. -/
def isKey : Phrase → Bool
  | markedKey .. => true
  | key .. => true
  | _ => false

/-- Whether a phrase is a key, with a value or without. -/
def startsEntry : Phrase → Bool
  | entry .. => true
  | phrase => phrase.isKey

/-- Whether a phrase is an anchor without a value. -/
def isAnchorName : Phrase → Bool
  | anchorName .. => true
  | _ => false

/-- Whether a phrase is a token of a kind. -/
def isToken (phrase : Phrase) (kind : TokenKind) : Bool :=
  match phrase with
  | token first => first.kind == kind
  | _ => false

/-- Whether a phrase starts like a scalar. -/
def isScalar (phrase : Phrase) : Bool :=
  !phrase.startsEntry &&
    (phrase.head.isScalar || [.anchorSign, .aliasSign, .blockHeader].contains phrase.kind)

/-! ## Grouping -/

/-- Joins block headers with their texts. -/
def joinBlocks : List Token → List Phrase
  | [] => []
  | first :: rest =>
    if first.kind == .blockHeader then
      match rest with
      | [] => [.block first none]
      | content :: more => .block first (some content) :: joinBlocks more
    else .token first :: joinBlocks rest

/-- Joins anchors with their names and with the scalars on their lines, and aliases with their
names. -/
def joinAnchors : List Phrase → Option (List Phrase)
  | [] => some []
  | .token first :: rest =>
    if first.kind == .anchorSign then
      match rest with
      | name :: value :: more =>
        let isOnLine := value.line == first.line
        if isOnLine && value.kind == .item then none
        else if isOnLine && value.isScalar then do
          return .anchor first name.head value :: (← joinAnchors more)
        else do return .anchorName first name.head :: (← joinAnchors (value :: more))
      | _ => none
    else if first.kind == .aliasSign then
      match rest with
      | name :: more => do return .reference first name.head :: (← joinAnchors more)
      | [] => none
    else do return .token first :: (← joinAnchors rest)
  | phrase :: rest => do return phrase :: (← joinAnchors rest)

/-- The tags of scalars. -/
def scalarTags : List String :=
  ["!!int", "!!float", "!!str", "!!binary", "!!timestamp", "!!bool", "!!null"]

/-- Joins tags with the scalars on their lines. -/
def joinTags : List Phrase → List Phrase
  | [] => []
  | .token first :: next :: rest =>
    let isCommon := "!!".isPrefixOf first.content
    if first.kind != .tag || next.line != first.line || next.isAnchorName then
      .token first :: joinTags (next :: rest)
    else if isCommon && !scalarTags.contains first.content then
      .token first :: joinTags (next :: rest)
    else if isCommon && !next.isScalar then .tag first none :: joinTags (next :: rest)
    else if !isCommon && [.mappingStart, .sequenceStart].contains next.kind then
      .token first :: joinTags (next :: rest)
    else .tag first (some next) :: joinTags rest
  | phrase :: rest => phrase :: joinTags rest

/-- Joins anchors with the tagged scalars on their lines. -/
def joinTaggedAnchors : List Phrase → List Phrase
  | .anchorName sign name :: .tag mark value :: rest =>
    if mark.line == sign.line then .anchor sign name (.tag mark value) :: joinTaggedAnchors rest
    else .anchorName sign name :: .tag mark value :: joinTaggedAnchors rest
  | [] => []
  | phrase :: rest => phrase :: joinTaggedAnchors rest

/-- Joins question marks with the keys after them. -/
def joinMarkedKeys : List Phrase → Option (List Phrase)
  | [] => some []
  | .token first :: rest =>
    if first.kind == .keyMark then
      match rest with
      | [] => none
      | subject :: more => do return .markedKey first subject :: (← joinMarkedKeys more)
    else do return .token first :: (← joinMarkedKeys rest)
  | phrase :: rest => do return phrase :: (← joinMarkedKeys rest)

/-- The kinds of tokens that no key starts with. -/
def nonKeys : List TokenKind :=
  [.directive, .documentStart, .documentEnd, .separator, .mappingStart, .colon, .mappingEnd,
    .sequenceStart, .item, .sequenceEnd]

/-- Joins keys with their colons. -/
def joinKeys : List Phrase → Option (List Phrase)
  | [] => some []
  | first :: .token colon :: rest =>
    if first.isToken .colon then none
    else if colon.kind == .colon then
      if nonKeys.contains first.kind then none
      else
        match rest with
        | .token second :: _ =>
          if second.kind == .colon then none
          else do return .key first colon :: (← joinKeys rest)
        | _ => do return .key first colon :: (← joinKeys rest)
    else do return first :: (← joinKeys (.token colon :: rest))
  | first :: rest => if first.isToken .colon then none else do return first :: (← joinKeys rest)

/-- Whether a phrase can be the value of a key on its line. -/
def isEntryValue (phrase : Phrase) : Bool :=
  !phrase.isAnchorName && (phrase.isScalar ||
    match phrase with
    | tag .. => true
    | _ => false)

/-- Joins keys with the scalars on their lines. -/
def joinEntries : List Phrase → List Phrase
  | [] => []
  | first :: rest =>
    match rest with
    | [] => [first]
    | value :: more =>
      if first.isKey && value.line == first.line && value.isEntryValue then
        .entry first value :: joinEntries more
      else first :: joinEntries (value :: more)

/-- Joins directives with the rest of their lines.  The first argument is the line of the directive
that is being joined.  A document must start after a directive. -/
def joinDirectives : Option Nat → List Phrase → Option (List Phrase)
  | _, [] => some []
  | none, phrase :: rest =>
    if phrase.isToken .directive then
      match rest with
      | [] => none
      | _ :: more => do return .directive phrase.head :: (← joinDirectives (some phrase.line) more)
    else do return phrase :: (← joinDirectives none rest)
  | some line, phrase :: rest =>
    if phrase.line == line then joinDirectives (some line) rest
    else if phrase.isToken .documentStart then do
      return phrase :: (← joinDirectives none rest)
    else none

/-- The phrases of a list of tokens. -/
def ofTokens? (tokens : List Token) : Option (List Phrase) := do
  let anchored ← joinAnchors (joinBlocks tokens)
  let marked ← joinMarkedKeys (joinTaggedAnchors (joinTags anchored))
  let keyed ← joinKeys marked
  joinDirectives none (joinEntries keyed)

/-! ## Documents -/

/-- Whether a phrase may not stand on the line of the mark that starts a document. -/
def isRefusedAfterStart (phrase : Phrase) : Bool :=
  phrase.startsEntry || phrase.isToken .item

/-- Cuts phrases into the phrases of documents; `before` are those of the present document,
reversed.  Two marks in a row end the text. -/
def splitDocuments : List Phrase → List Phrase → Option (List (List Phrase))
  | before, [] => some [before.reverse]
  | before, first :: rest =>
    if first.isToken .documentStart then
      let ended := if before.isEmpty then [] else [before.reverse]
      match rest with
      | [] => some ended
      | next :: _ =>
        if next.isToken .documentStart then some ended
        else if next.line == first.line && next.isRefusedAfterStart then none
        else do return ended ++ (← splitDocuments [] rest)
    else if first.isToken .documentEnd then
      let ended := if before.isEmpty then [] else [before.reverse]
      match rest with
      | [] => some ended
      | next :: _ =>
        if next.isScalar then none else do return ended ++ (← splitDocuments [] rest)
    else splitDocuments (first :: before) rest

end Phrase

/-- The documents of a text, as lists of phrases; none if the text is malformed. -/
def documents? (text : String) : Option (List (List Phrase)) := do
  let phrases ← Phrase.ofTokens? (← tokens? text)
  return (← Phrase.splitDocuments [] phrases).filter (!·.isEmpty)

end Nominal.Yaml
