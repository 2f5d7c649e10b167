import Nominal.Yaml.Pending
import Nominal.Yaml.Quoted

/-!
# Cutting a document into tokens

The lexer reads a document character by character.  Characters without a meaning of their own
gather as pending text, which becomes a token as soon as a mark or a smaller indentation ends it.
Whether a character is a mark hangs on what stands around it, on the column, and on the brackets
that are open.
-/

namespace Nominal.Yaml

/-- How the first content of a line stands to the column of the last key or dash. -/
inductive Shift where
  /-- The content is not the first of its line, or there was no key or dash before. -/
  | none
  /-- It stands right of that column. -/
  | up
  /-- It stands at that column or left of it. -/
  | down
  deriving Repr, DecidableEq

/-- A document that is being read. -/
structure Lexer where
  rest : List Char
  previous : Option Char := none
  line : Nat := 1
  column : Int := 1
  /-- The column of the last key or dash; zero if there was none. -/
  delimiter : Int := 0
  /-- The number of blanks at the start of this line. -/
  indentation : Nat := 0
  /-- Whether only blanks were read on this line. -/
  atLineStart : Bool := true
  shift : Shift := .none
  /-- Whether the name of an anchor or alias is being read. -/
  inName : Bool := false
  inDirective : Bool := false
  openSequences : Int := 0
  openMappings : Int := 0
  pending : Pending := {}
  /-- Where pending text of several lines starts. -/
  pendingStart : Option (Nat × Int) := .none
  block : Option Block := .none
  /-- The tokens so far, the last one first. -/
  tokens : List Token := []
  deriving Repr

namespace Lexer

/-! ## Moving -/

/-- Passes characters without counting columns. -/
def skip (lexer : Lexer) (count : Nat) : Lexer :=
  { lexer with
    previous := (lexer.rest.take count).getLast?.or lexer.previous
    rest := lexer.rest.drop count }

/-- Passes characters. -/
def advance (lexer : Lexer) (count : Nat) : Lexer :=
  { lexer.skip count with column := lexer.column + count }

/-- Passes the character that ends a line. -/
def nextLine (lexer : Lexer) : Lexer :=
  { lexer.skip 1 with
    line := lexer.line + 1, column := 1, indentation := 0, atLineStart := true
    inName := false, inDirective := false }

/-- The character after the present one. -/
def next? (lexer : Lexer) : Option Char :=
  lexer.rest.tail.head?

/-- Whether a bracket is open. -/
def isInFlow (lexer : Lexer) : Bool :=
  lexer.openSequences > 0 || lexer.openMappings > 0

/-! ## Tokens -/

/-- Forgets pending text and ends a block. -/
def clear (lexer : Lexer) : Lexer :=
  { lexer with pending := {}, block := .none }

/-- Adds a token that starts here. -/
def push (lexer : Lexer) (kind : TokenKind) (content : String) : Lexer :=
  { lexer with
    tokens := ⟨kind, content, lexer.line, lexer.column, lexer.pending.source.reverse⟩
      :: lexer.tokens }

/-- The tags that leave it to the scalar after them what it is. -/
def knownTags : List String :=
  ["!!int", "!!float", "!!str", "!!binary", "!!bool", "!!null", "!!timestamp", "!!map", "!!seq",
    "!!set", "!!omap", "!!merge"]

/-- Whether the last token is a tag that makes the scalar after it text. -/
def followsOwnTag (lexer : Lexer) : Bool :=
  lexer.tokens.head?.any fun token =>
    token.kind == .tag && !knownTags.contains token.content

/-- Takes the pending text as a token, if there is any. -/
def takePending (lexer : Lexer) : Option Token × Lexer :=
  let content := lexer.pending.content lexer.block
  if content.isEmpty then
    (.none, { lexer with pending := lexer.pending.spend, pendingStart := .none })
  else
    let text := String.ofList content
    let start := lexer.pendingStart.getD
      (lexer.line,
        if lexer.block.isNone then lexer.column - lexer.pending.length
        else if lexer.pending.startsAtOnce then 1 else 0)
    let value :=
      if lexer.block.isSome || lexer.followsOwnTag then .text text else Scalar.ofPlain text
    (some ⟨.plain value, text, start.1, start.2, lexer.pending.source.reverse⟩,
      { lexer with pending := {}, pendingStart := .none })

/-- Makes the pending text a token, if there is any. -/
def flush (lexer : Lexer) : Lexer :=
  let (token, after) := lexer.takePending
  { after with tokens := token.toList ++ after.tokens }

/-- Ends the pending text and reads a mark. -/
def mark (lexer : Lexer) (kind : TokenKind) (content : String) : Lexer :=
  ((lexer.flush.push kind content).advance content.length).clear

/-- Reads a mark that content can be indented against. -/
def markDelimiter (lexer : Lexer) (kind : TokenKind) (content : String) : Lexer :=
  { lexer.mark kind content with delimiter := lexer.column }

/-- Reads a character as pending text. -/
def gather (lexer : Lexer) (c : Char) : Lexer :=
  { lexer.advance 1 with pending := (lexer.pending.add c).read c }

/-- Reads a character that is part of no text. -/
def pass (lexer : Lexer) (c : Char) : Lexer :=
  { lexer.advance 1 with pending := lexer.pending.read c }

/-! ## Indentation -/

/-- Sees whether a character is the first content of its line, and how that stands to the last key
or dash. -/
def indent (lexer : Lexer) (c : Char) : Lexer :=
  if !lexer.atLineStart then { lexer with shift := .none }
  else if isBreak c || c == '\t' then lexer
  else if c == ' ' then { lexer with indentation := lexer.indentation + 1 }
  else
    { lexer with
      atLineStart := false
      shift :=
        if lexer.delimiter = 0 then lexer.shift
        else if lexer.delimiter < lexer.column then .up
        else .down }

/-- Reads a line break: within pending text it is a blank. -/
def breakLine (lexer : Lexer) (c : Char) : Lexer :=
  let started :=
    if !lexer.pending.isEmpty && lexer.pendingStart.isNone then
      { lexer with
        pendingStart := some (lexer.line, lexer.column - lexer.pending.solid.length) }
    else lexer
  let trimmed := { started with pending := started.pending.dropBlanks }
  let isPair := c == '\r' && lexer.next? == some '\n'
  let atBreak := if isPair then trimmed.skip 1 else trimmed
  let flushed :=
    if atBreak.rest.tail.isEmpty || atBreak.inName || atBreak.inDirective then atBreak.flush
    else atBreak
  let joined :=
    if flushed.pending.isPresent && flushed.atLineStart then flushed.pending.addEmptyLine
    else flushed.pending.add ' '
  { flushed with pending := joined.read (if isPair then '\n' else c) }.nextLine

/-! ## Blocks of text -/

/-- Reads the header of a block up to the end of its line. -/
def blockHeader (lexer : Lexer) (style : BlockStyle) : Option Lexer := do
  let after := lexer.rest.tail
  let line := after.takeWhile (!isBreak ·)
  let length := if line.length < after.length then line.length else line.length - 1
  let value := ((line.take length).reverse.dropWhile (· == ' ')).reverse
  let signs := value.takeWhile (· != '#')
  let hasComment := !signs.isEmpty && signs.length < value.length
  let signs := if hasComment then (signs.reverse.dropWhile isSpace).reverse else value
  let options ← BlockOptions.read? signs
  let delimiter := if lexer.column = 1 then 1 else lexer.delimiter
  let header := lexer.push .blockHeader (String.ofList signs)
  let commented := if hasComment then { header with column := 0 }.push .comment "" else header
  return ({ commented with
    delimiter := delimiter, shift := .none, pending := {}
    block := some (Block.start style options delimiter) }.skip (length + 1)).nextLine

/-- Reads a space of the indentation of a block: beyond the column of the block it is content. -/
def indentBlock (lexer : Lexer) (block : Block) : Lexer :=
  if block.firstColumn = 0 ∨ lexer.column < block.firstColumn then
    { lexer with block := some block }
  else
    { lexer with
      pending := lexer.pending.addSolid ' '
      block := some { block with mayFold := block.style == .literal && block.mayFold } }

/-- Ends a block with the text that was read, even if there is none. -/
def closeBlock (lexer : Lexer) : Lexer :=
  let text := String.ofList (lexer.pending.content lexer.block)
  (lexer.push (.plain (.text text)) text).clear

/-- Reads the last character of a document that ends in a block. -/
def lastInBlock (lexer : Lexer) (block : Block) (c : Char) : Option Lexer :=
  let added :=
    if lexer.atLineStart && c == ' ' then lexer.indentBlock block
    else { lexer with pending := lexer.pending.add c }
  let noted := (added.block.getD block).atColumn lexer.column
  if noted.isUnderIndented then .none
  else some ({ added with block := some noted }.closeBlock.advance 1)

/-- Reads a line break in a block.  The mark between two documents ends the block. -/
def breakInBlock (lexer : Lexer) (block : Block) (c : Char) : Lexer :=
  let broken :=
    { lexer with
      pending := lexer.pending.add c
      block := some (block.endLine lexer.column) }.nextLine
  if startsWithMarker broken.rest then broken.closeBlock else broken

/-- Reads content of a block. -/
def contentInBlock (lexer : Lexer) (block : Block) (c : Char) : Option Lexer :=
  let noted := block.atColumn lexer.column
  if block.isAfterLongerBlanks lexer.column || noted.isUnderIndented then .none
  else
    some
      { lexer.advance 1 with
        delimiter := if noted.firstColumn > 1 then noted.firstColumn - 1 else lexer.delimiter
        pending := (lexer.pending.foldBreak noted lexer.column).addToBlock c
        block := some { noted with mayFold := noted.style == .literal && noted.mayFold } }

/-- Reads a character of a block. -/
def blockStep (lexer : Lexer) (block : Block) (c : Char) : Option Lexer :=
  let lexer := { lexer with pending := lexer.pending.read c }
  if lexer.rest.tail.isEmpty then lexer.lastInBlock block c
  else if isBreak c then some (lexer.breakInBlock block c)
  else if lexer.atLineStart && c == ' ' then some ((lexer.indentBlock block).advance 1)
  else if c == '\t' && block.isIndentation lexer.column && lexer.atLineStart then .none
  else if c == '\t' && !block.isIndentation lexer.column then
    some { lexer.advance 1 with pending := lexer.pending.addToBlock c }
  else lexer.contentInBlock block c

/-- Ends a block at content that is not indented enough.  A header without text gets an empty text;
in the first column there is no such content. -/
def endBlock (lexer : Lexer) : Option Lexer :=
  match lexer.tokens.head? with
  | .none => some { lexer with block := .none }
  | some last =>
    if last.column = 1 then .none
    else if last.isPlainText then some { lexer with block := .none }
    else some { lexer.push (.plain (.text "")) "" with block := .none }

/-! ## Marks -/

/-- Whether a character is repeated three times at the start of a line. -/
def isDocumentMark (lexer : Lexer) (c : Char) : Bool :=
  lexer.indentation == 0 && lexer.column == 1 && (lexer.rest.takeWhile (· == c)).length == 3

/-- Whether what follows the sign of a merge key makes it one: blanks, a colon, and a blank or line
break. -/
def isMergeTail : List Char → Bool
  | [] => false
  | ' ' :: rest => isMergeTail rest
  | ':' :: rest => (rest.head?).any (fun c => c == ' ' || isBreak c) || isMergeTail rest
  | _ :: _ => false

/-- Whether a merge key stands here. -/
def isMergeKey (lexer : Lexer) : Bool :=
  (lexer.rest.takeWhile (· == '<')).length == 2 && isMergeTail (lexer.rest.drop 2)

/-- Whether a colon separates a key from its value.  In a mapping in brackets it may stand close to
the value. -/
def isColon (lexer : Lexer) : Bool :=
  !lexer.inName && !lexer.inDirective &&
    if lexer.openMappings ≤ 0 then lexer.next?.all fun c => isSpace c || isBreak c
    else lexer.next? != some '/' && !lexer.tokens.head?.any (·.kind == .colon)

/-- Reads the colon after a key. -/
def colonStep (lexer : Lexer) : Option Lexer :=
  if lexer.pending.startsWithTab then .none
  else
    let (key, after) := lexer.takePending
    let quotedKey := lexer.tokens.head?.filter (·.kind == .quoted)
    let delimiter := ((key.or quotedKey).map (·.column)).getD lexer.delimiter
    let keyed := { after with tokens := key.toList ++ after.tokens, pending := {}, delimiter }
    some ((keyed.push .colon ":").advance 1).clear

/-- Reads a dash: the mark between documents, an item, or text. -/
def dashStep (lexer : Lexer) : Option Lexer :=
  if lexer.isDocumentMark '-' then
    some { lexer.mark .documentStart "---" with delimiter := 0, indentation := 0 }
  else if lexer.pending.isPresent then
    let gathered := lexer.gather '-'
    if lexer.shift = .up then
      some { gathered with block := some (Block.continued lexer.column) }
    else some gathered
  else if lexer.next?.all fun c => isSpace c || isBreak c || c == Char.ofNat 0 then
    if lexer.pending.startsWithTab then .none else some (lexer.markDelimiter .item "-")
  else some (lexer.gather '-')

/-- Reads a comment up to the end of its line. -/
def comment (lexer : Lexer) : Lexer :=
  let length := (lexer.rest.takeWhile (!isBreak ·)).length
  ((lexer.flush.push .comment "").skip length).nextLine.clear

/-- Reads a tag up to a blank or, in brackets, a comma.  A tag that ends the document is none. -/
def tagStep (lexer : Lexer) : Option Lexer :=
  let isEnd := fun (c : Char) => c == ' ' || isBreak c || (c == ',' && lexer.isInFlow)
  let name := lexer.rest.takeWhile (!isEnd ·)
  if name.contains '\x7b' || name.contains '\x7d' then .none
  else
    match lexer.rest.drop name.length with
    | [] => some (lexer.advance name.length).clear
    | c :: _ =>
      let pushed := (lexer.push .tag (String.ofList name)).skip name.length
      let blank := if c == ' ' then 1 else 0
      some { (pushed.skip blank).clear with
        column := lexer.column + name.length - 1 + blank }

/-- Reads a quoted scalar. -/
def quotedStep (lexer : Lexer) (quote : Char) : Option Lexer := do
  let scan ← scanQuoted quote lexer.delimiter
    { rest := lexer.rest.tail, line := lexer.line, column := lexer.column + 1
      source := quote :: lexer.pending.source }
  let token : Token :=
    ⟨.quoted, String.ofList scan.content.reverse, lexer.line, lexer.column, scan.source.reverse⟩
  let after :=
    { lexer with
      rest := scan.rest, previous := some quote, line := scan.line, column := scan.column
      tokens := token :: lexer.tokens }.clear
  if scan.hasBreak then
    some { after with atLineStart := true, indentation := 0, inName := false, inDirective := false }
  else some after

/-- Reads a space: it ends a name, and at the start of a line it is no text. -/
def spaceStep (lexer : Lexer) : Lexer :=
  if lexer.atLineStart then lexer.pass ' '
  else if lexer.inDirective then lexer.flush.pass ' '
  else if lexer.inName then { lexer.flush with inName := false }
  else lexer.gather ' '

/-- Reads a tab: it is no text, and cannot indent what is not in brackets. -/
def tabStep (lexer : Lexer) : Option Lexer :=
  if (lexer.pending.isPresent && lexer.delimiter == 0) || lexer.delimiter < lexer.column then
    some { lexer.skip 1 with
      indentation := lexer.indentation + 1, pending := lexer.pending.read '\t' }
  else if lexer.isInFlow || !lexer.atLineStart then some (lexer.gather '\t')
  else .none

/-! ## The document -/

/-- Reads a character outside of blocks. -/
def textStep (lexer : Lexer) (c : Char) : Option Lexer :=
  let isFree := !lexer.pending.isPresent
  match c with
  | '\x7b' =>
    if isFree || lexer.isInFlow then
      some { lexer.mark .mappingStart "\x7b" with openMappings := lexer.openMappings + 1 }
    else some (lexer.gather c)
  | '\x7d' =>
    if lexer.openMappings > 0 then
      some { lexer.mark .mappingEnd "\x7d" with openMappings := lexer.openMappings - 1 }
    else some (lexer.gather c)
  | '[' =>
    if isFree || lexer.isInFlow then
      some { lexer.mark .sequenceStart "[" with openSequences := lexer.openSequences + 1 }
    else some (lexer.gather c)
  | ']' =>
    if isFree || lexer.openSequences > 0 then
      some { lexer.mark .sequenceEnd "]" with openSequences := lexer.openSequences - 1 }
    else some (lexer.gather c)
  | ',' => some (if lexer.isInFlow then lexer.mark .separator "," else lexer.gather c)
  | '.' =>
    some (if lexer.isDocumentMark '.' then lexer.mark .documentEnd "..." else lexer.gather c)
  | '<' =>
    some (if lexer.isMergeKey then lexer.clear.markDelimiter .mergeKey "<<" else lexer.gather c)
  | '-' => lexer.dashStep
  | ':' => if lexer.isColon then lexer.colonStep else some (lexer.gather c)
  | '?' =>
    if isFree && lexer.next?.any isSpace then some (lexer.markDelimiter .keyMark "?")
    else some (lexer.gather c)
  | '|' => if isFree then lexer.blockHeader .literal else some (lexer.gather c)
  | '>' => if isFree then lexer.blockHeader .folded else some (lexer.gather c)
  | '!' => if isFree && !lexer.inDirective then lexer.tagStep else some (lexer.gather c)
  | '%' =>
    if isFree && lexer.indentation == 0 then
      some { lexer.mark .directive "%" with inDirective := true }
    else some (lexer.gather c)
  | '&' =>
    some (if isFree then { lexer.mark .anchorSign "&" with inName := true } else lexer.gather c)
  | '*' =>
    some (if isFree then { lexer.mark .aliasSign "*" with inName := true } else lexer.gather c)
  | '#' =>
    if isFree || lexer.previous.any (fun before => isSpace before || isBreak before) then
      some lexer.comment
    else some (lexer.gather c)
  | '\'' => if isFree then lexer.quotedStep c else some (lexer.gather c)
  | '"' => if isFree then lexer.quotedStep c else some (lexer.gather c)
  | '\r' => some (lexer.breakLine c)
  | '\n' => some (lexer.breakLine c)
  | ' ' => some lexer.spaceStep
  | '@' => if isFree then .none else some (lexer.gather c)
  | '\x60' => if isFree then .none else some (lexer.gather c)
  | '\t' => lexer.tabStep
  | _ => some (lexer.gather c)

/-- Reads a character. -/
def step (lexer : Lexer) (c : Char) : Option Lexer :=
  let indented := lexer.indent c
  let isDown := indented.shift == .down
  let flushed := if isDown then indented.flush else indented
  match flushed.block with
  | .none => flushed.textStep c
  | some block =>
    if isDown then do (← flushed.endBlock).textStep c else flushed.blockStep block c

/-- Reads a document to its end, in at most `steps` steps. -/
def run : Nat → Lexer → Option Lexer
  | 0, _ => .none
  | steps + 1, lexer =>
    match lexer.rest with
    | [] => some lexer.flush
    | c :: _ => do run steps (← lexer.step c)

end Lexer

/-- The tokens of a document without its comments; none if it cannot be cut into tokens.  A
character takes at most two steps. -/
def tokens? (text : String) : Option (List Token) := do
  let characters := text.toList
  let lexer ← Lexer.run (2 * characters.length + 1) { rest := characters }
  return lexer.tokens.reverse.filter (·.kind != .comment)

end Nominal.Yaml
