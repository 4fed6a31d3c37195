import RowQuery.Text.Basic

/-!
# Blank characters

The characters that count as blank at the ends of a name, a segment or a number: the controls
that separate, the next-line character, and every space of Unicode.

* `Text.trim` takes them off both ends.
* `Text.words` are the pieces of a text that hold none of them.
-/

namespace RowQuery.Text

/-- The ranges of blank code points. -/
def blankRanges : List (Nat × Nat) := [
  (0x0009, 0x000D), (0x001C, 0x0020), (0x0085, 0x0085), (0x00A0, 0x00A0), (0x1680, 0x1680),
  (0x2000, 0x200A), (0x2028, 0x2029), (0x202F, 0x202F), (0x205F, 0x205F), (0x3000, 0x3000)]

/-- Whether a character is blank. -/
def isBlank (c : Char) : Bool := inRanges blankRanges c.toNat

/-- The text without the blanks it begins with. -/
def trimLeft (text : List Char) : List Char := text.dropWhile isBlank

/-- The text without the blanks it ends with. -/
def trimRight (text : List Char) : List Char := (text.reverse.dropWhile isBlank).reverse

/-- The text without the blanks at its two ends. -/
def trim (text : List Char) : List Char := trimRight (trimLeft text)

/-- The words of a text, given the word that the text goes on with. -/
def wordsFrom (word : List Char) : List Char → List (List Char)
  | [] => [word]
  | c :: rest => if isBlank c then word :: wordsFrom [] rest else wordsFrom (word ++ [c]) rest

/-- The words of a text: what stands between its blanks. -/
def words (text : List Char) : List (List Char) := (wordsFrom [] text).filter (· ≠ [])

end RowQuery.Text
