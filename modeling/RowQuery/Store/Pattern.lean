/-!
# Patterns

A pattern is a text in which a percent sign stands for any characters and an underscore for one
character. Letters of ASCII match in either case. A null character ends both texts.

* `Pattern.matchesText` tells whether a text matches.
-/

namespace RowQuery.Pattern

/-- Whether two characters are the same, letter case in ASCII aside. -/
def sameLetter (a b : Char) : Bool := a = b || a.toLower = b.toLower

/-- Whether a text matches a pattern, both without null characters. -/
def matchesChars : List Char → List Char → Bool
  | [], text => text.isEmpty
  | c :: pattern, text =>
    if c = '%' then
      matchesChars pattern text ||
        match text with
        | [] => false
        | _ :: rest => matchesChars (c :: pattern) rest
    else
      match text with
      | [] => false
      | d :: rest => (c = '_' || sameLetter c d) && matchesChars pattern rest
termination_by pattern text => pattern.length + text.length

/-- A text up to its first null character. -/
def upToNull (text : List Char) : List Char := text.takeWhile (· ≠ '\x00')

/-- Whether a text matches a pattern. -/
def matchesText (pattern text : List Char) : Bool :=
  matchesChars (upToNull pattern) (upToNull text)

end RowQuery.Pattern
