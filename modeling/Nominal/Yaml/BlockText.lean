import Nominal.Yaml.Token

/-!
# Blocks of text

What is known about a block of text while its lines are read.  The first line with content fixes the
indentation of the block, unless its header does.  A literal block keeps its line breaks; a folded
block, and text without quotes that goes on after a dash, join lines of equal indentation.
-/

namespace Nominal.Yaml

/-- The ways to treat line breaks in a block. -/
inductive BlockStyle where
  | literal
  | folded
  /-- Text without quotes that continues with a dash on a line of its own. -/
  | continued
  deriving Repr, DecidableEq

/-- What the header of a block says: whether line breaks at the end are cut off or all kept, and an
indentation; zero if it gives none. -/
structure BlockOptions where
  cutsEnd : Bool := false
  keepsEnd : Bool := false
  indentation : Int := 0
  deriving Repr, DecidableEq

/-- Takes one character off the end of a text, if it is there. -/
def dropTrailing (character : Char) (characters : List Char) : List Char :=
  if characters.getLast? = some character then characters.dropLast else characters

/-- Reads the signs of a block header.  At most one sign of either kind counts on either side of the
indentation, which is at most nine and is not written as zero. -/
def BlockOptions.read? (characters : List Char) : Option BlockOptions :=
  let number := dropTrailing '+' (dropTrailing '-' (dropLeading '+' (dropLeading '-' characters)))
  let hasAtEnds := fun (sign : Char) =>
    characters.head? == some sign || characters.getLast? == some sign
  let options := { cutsEnd := hasAtEnds '-', keepsEnd := hasAtEnds '+' : BlockOptions }
  if number.isEmpty then some options
  else if number = ['0'] then none
  else do
    let (isNegative, digits) := Decimal.takeSign number
    let magnitude ← digitsValue? 10 digits
    let indentation ← wholeInRange? isNegative magnitude
    if indentation ≤ 9 then some { options with indentation } else none

/-- A block of text whose lines are being read.  Columns count from one, and zero stands for a
column that is not known yet. -/
structure Block where
  style : BlockStyle
  options : BlockOptions := {}
  /-- The column of the content. -/
  firstColumn : Int := 0
  /-- The column at which the content of this line starts. -/
  lineColumn : Int := 0
  /-- The column at which the content of the line before started; zero if it had none. -/
  previousColumn : Int := 0
  /-- The column at which the last content started. -/
  contentColumn : Int := 0
  /-- The length of the last line of blanks before the first content. -/
  blankLength : Int := 0
  /-- Whether the last line break may still be folded. -/
  mayFold : Bool := false
  deriving Repr

namespace Block

/-- A block after its header, with the column of the key or dash that it belongs to. -/
def start (style : BlockStyle) (options : BlockOptions) (delimiter : Int) : Block where
  style := style
  options := options
  firstColumn := if options.indentation > 0 then delimiter + options.indentation else 0

/-- Notes the column of content: the first one counts for the block and for its line. -/
def atColumn (block : Block) (column : Int) : Block :=
  { block with
    firstColumn := if block.firstColumn = 0 then column else block.firstColumn
    lineColumn := if block.lineColumn = 0 then column else block.lineColumn }

/-- Text that continues after a dash at a column. -/
def continued (column : Int) : Block :=
  atColumn { style := .continued } column

/-- Whether the content of a line stands left of the indentation that the header gives. -/
def isUnderIndented (block : Block) : Bool :=
  block.options.indentation != 0 && block.firstColumn > block.lineColumn

/-- Whether the first content stands left of the end of a line of blanks before it. -/
def isAfterLongerBlanks (block : Block) (column : Int) : Bool :=
  block.firstColumn == 0 && block.blankLength > column

/-- Whether a column belongs to the indentation. -/
def isIndentation (block : Block) (column : Int) : Bool :=
  if block.firstColumn = 0 then column == 1 else block.firstColumn > column

/-- Ends a line whose line break stands at a column. -/
def endLine (block : Block) (column : Int) : Block :=
  { block with
    blankLength := if block.firstColumn = 0 then column - 1 else block.blankLength
    previousColumn := block.lineColumn
    contentColumn := if block.lineColumn = 0 then block.contentColumn else block.lineColumn
    mayFold := true
    lineColumn := 0 }

/-- Whether all line breaks at the end are cut off. -/
def cutsEnd (block : Block) : Bool :=
  block.options.cutsEnd || block.style == .continued

/-- Removes what does not belong to a block from the end of its content.  The content is reversed,
and so is the result. -/
def trimEnd (block : Block) (reversed : List Char) : List Char :=
  let breaks := reversed.takeWhile (· == '\n')
  let rest := reversed.dropWhile (· == '\n')
  let trimmed :=
    if block.cutsEnd then rest.dropWhile (· == ' ')
    else if block.options.keepsEnd then reversed
    else breaks.take 1 ++ rest
  let content := if trimmed = ['\n'] then [] else trimmed
  if block.options.keepsEnd && content.isEmpty then ['\n'] else content

end Block

end Nominal.Yaml
