/-!
# Blank characters

The characters with the white-space property, and the two operations that remove them: trimming
both ends of a text, and cutting a text into its words.
-/

namespace Nominal.Text

/-- A character with the white-space property. -/
def isBlank (c : Char) : Bool :=
  let code := c.toNat
  (0x09 ≤ code && code ≤ 0x0D) || code == 0x20 || code == 0x85 || code == 0xA0 || code == 0x1680
    || (0x2000 ≤ code && code ≤ 0x200A) || code == 0x2028 || code == 0x2029 || code == 0x202F
    || code == 0x205F || code == 0x3000

/-- Removes blank characters from the end. -/
def trimEnd (characters : List Char) : List Char :=
  (characters.reverse.dropWhile isBlank).reverse

/-- Removes blank characters from both ends. -/
def trimList (characters : List Char) : List Char :=
  trimEnd (characters.dropWhile isBlank)

/-- Removes blank characters from both ends of a text. -/
def trim (text : String) : String :=
  String.ofList (trimList text.toList)

/-- The maximal runs of non-blank characters; `word` is the run being collected, reversed. -/
def wordsFrom (word : List Char) : List Char → List String
  | [] => if word.isEmpty then [] else [String.ofList word.reverse]
  | c :: rest =>
    if isBlank c then
      if word.isEmpty then wordsFrom [] rest
      else String.ofList word.reverse :: wordsFrom [] rest
    else wordsFrom (c :: word) rest

/-- The words of a text. -/
def words (text : String) : List String :=
  wordsFrom [] text.toList

/-- Cuts a text at the first dot. -/
def cutAtDot? (text : String) : Option (String × String) :=
  let characters := text.toList
  let before := characters.takeWhile (· != '.')
  match characters.dropWhile (· != '.') with
  | [] => none
  | _ :: after => some (String.ofList before, String.ofList after)

end Nominal.Text
