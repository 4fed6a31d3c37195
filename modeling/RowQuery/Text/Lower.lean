import RowQuery.Text.Case.Mapping
import RowQuery.Text.Case.Context

/-!
# Lower case of a whole text

The full lower-case mapping of Unicode: a character is replaced by its mapping, the dotted capital
I by two characters, and a capital sigma by the final form where it ends a word.

* `Text.lowerChars` is the mapping on characters in sequence, `Text.lower` on strings.

## Design notes

Whether a sigma ends a word depends on both sides: a cased character must come before it and none
after it, in each case looking through the characters that case rules ignore. The left side is
carried along as a flag, the right side is read off the rest of the text.
-/

namespace RowQuery.Text

/-- The lower case of one character outside any context. -/
def lowerChar (c : Char) : List Char :=
  if c = 'İ' then ['i', '\u0307']
  else match lowerShift? c.toNat with
    | some shift => [Char.ofNat (c.toNat + shift).toNat]
    | none => [c]

/-- Whether the text goes on with a cased character, ignorable ones looked through. -/
def startsCased : List Char → Bool
  | [] => false
  | c :: rest => if isCaseIgnorable c then startsCased rest else isCased c

/-- Lower case of a text, given whether a cased character stands before it. -/
def lowerFrom (afterCased : Bool) : List Char → List Char
  | [] => []
  | c :: rest =>
    let lowered :=
      if c = 'Σ' then [if afterCased && !startsCased rest then 'ς' else 'σ'] else lowerChar c
    lowered ++ lowerFrom (if isCaseIgnorable c then afterCased else isCased c) rest

/-- Lower case of a text. -/
def lowerChars (text : List Char) : List Char := lowerFrom false text

/-- Lower case of a string. -/
def lower (text : String) : String := String.ofList (lowerChars text.toList)

end RowQuery.Text
