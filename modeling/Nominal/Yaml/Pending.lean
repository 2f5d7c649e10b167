import Nominal.Yaml.BlockText

/-!
# Pending text

The characters of a scalar without quotes, or of a block, while they are read.  Blanks at the start
are dropped, and blanks at the end do not count until more content follows.
-/

namespace Nominal.Yaml

/-- Pending text.  All lists are reversed. -/
structure Pending where
  /-- The text up to its last character that is not a blank. -/
  solid : List Char := []
  /-- The blanks after it. -/
  trailing : List Char := []
  /-- Whether the text was given up: it is still there, but new content replaces it. -/
  isSpent : Bool := false
  /-- The characters that were read since the last token. -/
  source : List Char := []
  deriving Repr

namespace Pending

/-- Whether there is text. -/
def isPresent (pending : Pending) : Bool :=
  !pending.solid.isEmpty

/-- The number of characters, with the blanks at the end. -/
def length (pending : Pending) : Nat :=
  if pending.isSpent then 0 else pending.solid.length + pending.trailing.length

/-- Whether there are no characters, not even blanks. -/
def isEmpty (pending : Pending) : Bool :=
  pending.isSpent || (pending.solid.isEmpty && pending.trailing.isEmpty)

/-- Notes a character as read. -/
def read (pending : Pending) (c : Char) : Pending :=
  { pending with source := c :: pending.source }

/-- Adds a character that counts as content. -/
def addSolid (pending : Pending) (c : Char) : Pending :=
  if pending.isSpent then { pending with solid := [c], trailing := [], isSpent := false }
  else { pending with solid := c :: (pending.trailing ++ pending.solid), trailing := [] }

/-- Adds a blank, which counts once content follows.  Text does not start with a blank. -/
def addBlank (pending : Pending) (c : Char) : Pending :=
  if pending.isEmpty then pending else { pending with trailing := c :: pending.trailing }

/-- Adds a character, where spaces and tabs are blanks. -/
def add (pending : Pending) (c : Char) : Pending :=
  if isSpace c then pending.addBlank c else pending.addSolid c

/-- Adds a character of a block, where only spaces are blanks. -/
def addToBlock (pending : Pending) (c : Char) : Pending :=
  if c = ' ' then pending.addBlank c else pending.addSolid c

/-- Drops the blanks at the end if the characters read end in blanks. -/
def dropBlanks (pending : Pending) : Pending :=
  if (pending.source.head?).any isSpace then
    { pending with trailing := [], source := pending.source.dropWhile isSpace }
  else pending

/-- Adds the line break of an empty line: it takes the place of the blank that stands for the line
break before. -/
def addEmptyLine (pending : Pending) : Pending :=
  { pending with
    trailing := match pending.trailing with
      | ' ' :: rest => '\n' :: rest
      | rest => '\n' :: rest }

/-- Gives the text up without forgetting it. -/
def spend (pending : Pending) : Pending :=
  { pending with trailing := [], isSpent := pending.isPresent }

/-- The content, in the order of reading. -/
def content (pending : Pending) (block : Option Block) : List Char :=
  match block with
  | none => pending.solid.reverse
  | some block => (block.trimEnd pending.solid).reverse

/-- Whether the characters read start with the text itself, and not with an indentation. -/
def startsAtOnce (pending : Pending) : Bool :=
  (pending.trailing ++ pending.solid).isSuffixOf pending.source

/-- Whether the characters read start with a tab, after at most one space. -/
def startsWithTab (pending : Pending) : Bool :=
  (dropLeading ' ' pending.source.reverse).head? == some '\t'

/-- Treats the last line break of a folded block when content follows at a column: between lines of
equal indentation it becomes a space, and after empty lines it disappears. -/
def foldBreak (pending : Pending) (block : Block) (column : Int) : Pending :=
  if block.style = .literal ∨ !block.mayFold then pending
  else if block.lineColumn = block.previousColumn then
    match pending.solid with
    | '\n' :: rest => { pending with solid := rest, trailing := [' '] }
    | _ => pending
  else if block.previousColumn = 0 ∧ block.contentColumn = column then
    match pending.solid with
    | '\n' :: '\n' :: rest => { pending with solid := '\n' :: rest }
    | _ => pending
  else pending

end Pending

end Nominal.Yaml
