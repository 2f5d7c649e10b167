import Nominal.Text.CodePoint
import Nominal.Yaml.Token

/-!
# Quoted scalars

Reads a scalar in single or double quotes.  A line break inside is a space, and with each further
one a line break; blanks around it vanish.  A quote is written twice in single quotes; in double
quotes a backslash starts an escape.
-/

namespace Nominal.Yaml

/-! ## Escapes -/

/-- The character that a one-letter escape stands for. -/
def simpleEscape? (c : Char) : Option Char :=
  match c with
  | '0' => some (Char.ofNat 0)
  | 'a' => some (Char.ofNat 7)
  | 'b' => some (Char.ofNat 8)
  | 't' => some '\t'
  | '\t' => some '\t'
  | 'n' => some '\n'
  | 'v' => some (Char.ofNat 11)
  | 'f' => some (Char.ofNat 12)
  | 'r' => some '\r'
  | 'e' => some (Char.ofNat 27)
  | ' ' => some ' '
  | '"' => some '"'
  | '/' => some '/'
  | '\\' => some '\\'
  | 'N' => some (Char.ofNat 0x85)
  | '_' => some (Char.ofNat 0xA0)
  | 'L' => some (Char.ofNat 0x2028)
  | 'P' => some (Char.ofNat 0x2029)
  | _ => none

/-- The number of digits of a numeric escape. -/
def escapeWidth? (c : Char) : Option Nat :=
  match c with
  | 'x' => some 2
  | 'u' => some 4
  | 'U' => some 8
  | _ => none

/-- The worth of a hexadecimal digit.  Any other character is worth its distance from zero. -/
def hexWorth (c : Char) : Int :=
  if 'A' ≤ c ∧ c ≤ 'F' then c.toNat - 55
  else if 'a' ≤ c ∧ c ≤ 'f' then c.toNat - 87
  else c.toNat - 48

/-- The code of a numeric escape: 32 binary digits. -/
def escapeCode (digits : List Char) : Int :=
  digits.foldl (fun value digit => 16 * value + hexWorth digit) 0 % Int.pow 2 32

/-- Reads an escape after its backslash: the character, and how many characters it was written
with.  A numeric escape for which the text is too short is its letter.  The first half of a
surrogate pair must be followed by the second. -/
def escape? (characters : List Char) : Option (Char × Nat) :=
  match characters with
  | [] => none
  | letter :: digits =>
    match simpleEscape? letter, escapeWidth? letter with
    | some c, _ => some (c, 1)
    | none, none => none
    | none, some width =>
      let isHigh := fun (code : Int) => 0xD800 ≤ code && code < 0xDC00
      let isLow := fun (code : Int) => 0xDC00 ≤ code && code < 0xE000
      let code := escapeCode (digits.take width)
      if (digits.take width).length < width then some (letter, 1)
      else if letter = 'u' ∧ isHigh code then
        let low := escapeCode ((digits.drop 6).take 4)
        if (digits.drop 4).take 2 = ['\\', 'u'] ∧ (digits.take 10).length = 10 ∧ isLow low then
          some (Text.characterOf (0x10000 + (code - 0xD800) * 0x400 + (low - 0xDC00)), 11)
        else none
      else some (Text.characterOf code, width + 1)

/-! ## Lines -/

/-- Whether a text starts with the mark between two documents, on a line of its own or before a
blank. -/
def startsWithMarker (characters : List Char) : Bool :=
  let start := ((characters.take 4).reverse.dropWhile fun c => isSpace c || isBreak c).reverse
  start == ['-', '-', '-'] || start == ['.', '.', '.']

/-- A quoted scalar that is being read. -/
structure QuotedScan where
  rest : List Char
  line : Nat
  /-- The column of the next character. -/
  column : Int
  /-- The content, reversed. -/
  content : List Char := []
  /-- What was read, reversed. -/
  source : List Char
  /-- Whether only blanks were read on this line, which is not the first. -/
  atLineStart : Bool := false
  /-- Whether there was a line break. -/
  hasBreak : Bool := false
  deriving Repr

namespace QuotedScan

/-- Reads characters of the line. -/
def advance (scan : QuotedScan) (count : Nat) : QuotedScan :=
  { scan with
    rest := scan.rest.drop count
    column := scan.column + count
    source := (scan.rest.take count).reverse ++ scan.source }

/-- Adds a character to the content. -/
def add (scan : QuotedScan) (c : Char) : QuotedScan :=
  { scan with content := c :: scan.content }

/-- Goes to the next line, after a number of characters. -/
def nextLine (scan : QuotedScan) (count : Nat) : QuotedScan :=
  { scan.advance count with
    line := scan.line + 1, column := 1, atLineStart := true, hasBreak := true }

/-- Reads a line break. -/
def breakLine (scan : QuotedScan) : Option QuotedScan :=
  let next := scan.nextLine 1
  let joined := if scan.atLineStart then '\n' else ' '
  if startsWithMarker next.rest then none
  else some { next with content := joined :: scan.content.dropWhile (· == ' ') }

/-- Reads a backslash and what belongs to it. -/
def escapeStep (scan : QuotedScan) : Option QuotedScan :=
  let after := scan.rest.drop 1
  if after.head? = some '\n' then some (scan.nextLine 2)
  else do
    let (c, count) ← escape? after
    return { (scan.advance (count + 1)).add c with atLineStart := false }

/-- Reads up to the closing quote, in at most `steps` steps.  A tab may not indent a line up to the
column of the key or dash that the scalar belongs to. -/
def run (quote : Char) (delimiter : Int) : Nat → QuotedScan → Option QuotedScan
  | 0, _ => none
  | steps + 1, scan =>
    match scan.rest with
    | [] => none
    | c :: rest =>
      if isBreak c then do
        run quote delimiter steps (← scan.breakLine)
      else if scan.atLineStart && c == ' ' then run quote delimiter steps (scan.advance 1)
      else if scan.atLineStart && c == '\t' then
        if delimiter ≥ scan.column then none else run quote delimiter steps (scan.advance 1)
      else if quote == '"' && c == '\\' then do
        run quote delimiter steps (← scan.escapeStep)
      else if c ≠ quote then
        run quote delimiter steps { (scan.advance 1).add c with atLineStart := false }
      else if quote == '\'' && rest.head? == some quote then
        run quote delimiter steps ((scan.advance 2).add c)
      else some (scan.advance 1)

end QuotedScan

/-- Reads a quoted scalar after its opening quote. -/
def scanQuoted (quote : Char) (delimiter : Int) (scan : QuotedScan) : Option QuotedScan :=
  scan.run quote delimiter (scan.rest.length + 1)

end Nominal.Yaml
