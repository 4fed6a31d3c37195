/-!
# Texts

What is done with texts of any kind: they are cut and joined, searched and measured.

* `Text.splitOn` cuts at every occurrence of one character, so there is one piece more than there
  are separators.
* `Text.joinWith` puts a text between neighbouring pieces.
* `Text.contains` searches for a text inside another.
* `Text.bytes` is the number of bytes that a text takes in UTF-8.
* `Text.inRanges` tells whether a code point belongs to a class of characters, which is a list of
  closed ranges.
-/

namespace RowQuery.Text

/-- The pieces between the occurrences of `separator`; never empty. -/
def splitOn (separator : Char) : List Char → List (List Char)
  | [] => [[]]
  | c :: rest =>
    if c = separator then [] :: splitOn separator rest
    else match splitOn separator rest with
      | [] => [[c]]
      | piece :: pieces => (c :: piece) :: pieces

/-- The pieces in order, with `separator` between neighbours. -/
def joinWith (separator : List Char) : List (List Char) → List Char
  | [] => []
  | [piece] => piece
  | piece :: rest => piece ++ separator ++ joinWith separator rest

/-- The texts in order, with `separator` between neighbours. -/
def join (separator : String) (pieces : List String) : String :=
  String.ofList (joinWith separator.toList (pieces.map String.toList))

/-- Whether `part` occurs as a contiguous part of the text. -/
def contains (part : List Char) : List Char → Bool
  | [] => part.isEmpty
  | c :: rest => part.isPrefixOf (c :: rest) || contains part rest

theorem splitOn_ne_nil (separator : Char) (text : List Char) : splitOn separator text ≠ [] := by
  cases text with
  | nil => simp [splitOn]
  | cons c rest =>
    simp only [splitOn]
    split
    · simp
    · split <;> simp

/-- The number of bytes of a text. -/
def bytes (text : List Char) : Nat := text.foldl (fun total c => total + c.utf8Size) 0

/-- Whether a code point lies in one of the closed ranges. -/
def inRanges (ranges : List (Nat × Nat)) (code : Nat) : Bool :=
  ranges.any fun range => decide (range.1 ≤ code) && decide (code ≤ range.2)

end RowQuery.Text
