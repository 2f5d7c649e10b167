import Nominal.Yaml.Scalar

/-!
# Tokens

A document is first cut into tokens: scalars, and marks that give it its structure.  A token knows
the line and the column at which it starts, since indentation is structure too, and the characters
that it was read from.
-/

namespace Nominal.Yaml

/-- A line break. -/
def isBreak (c : Char) : Bool :=
  c == '\n' || c == '\r'

/-- A blank within a line. -/
def isSpace (c : Char) : Bool :=
  c == ' ' || c == '\t'

/-- The kinds of tokens. -/
inductive TokenKind where
  /-- A scalar without quotes, or the text of a block. -/
  | plain (value : Scalar)
  /-- A scalar in quotes. -/
  | quoted
  /-- The sign before a block of text. -/
  | blockHeader
  | mappingStart
  | mappingEnd
  | sequenceStart
  | sequenceEnd
  /-- The comma between the items of a collection in brackets. -/
  | separator
  /-- The dash before an item of a sequence. -/
  | item
  /-- The colon after a key. -/
  | colon
  /-- The question mark before a key. -/
  | keyMark
  /-- The key whose value is a mapping to be merged. -/
  | mergeKey
  /-- The sign before the name of an anchor. -/
  | anchorSign
  /-- The sign before the name of an alias. -/
  | aliasSign
  | tag
  | directive
  | documentStart
  | documentEnd
  | comment
  deriving Repr, DecidableEq

/-- A token: its kind, its content, where it starts, and what it was read from. -/
structure Token where
  kind : TokenKind
  content : String
  line : Nat
  column : Int
  source : List Char := []
  deriving Repr

namespace Token

/-- Whether a token is a scalar without quotes that stands for text. -/
def isPlainText (token : Token) : Bool :=
  match token.kind with
  | .plain (.text _) => true
  | _ => false

/-- Whether a token is text, with quotes or without. -/
def isText (token : Token) : Bool :=
  token.kind == .quoted || token.isPlainText

/-- Whether a token alone is a scalar. -/
def isScalar (token : Token) : Bool :=
  match token.kind with
  | .plain _ => true
  | .quoted => true
  | _ => false

/-- What a token was read from, without the blanks and line breaks before it. -/
def trimmedSource (token : Token) : List Char :=
  token.source.dropWhile fun c => c == ' ' || isBreak c

/-- What a token was read from, without the blanks and line breaks around it. -/
def innerSource (token : Token) : List Char :=
  (token.trimmedSource.reverse.dropWhile fun c => c == ' ' || isBreak c).reverse

end Token

/-- The number of line breaks in a text; a carriage return and a line feed are one. -/
def countBreaks : List Char → Nat
  | [] => 0
  | '\r' :: '\n' :: rest => countBreaks rest + 1
  | c :: rest => if isBreak c then countBreaks rest + 1 else countBreaks rest

end Nominal.Yaml
