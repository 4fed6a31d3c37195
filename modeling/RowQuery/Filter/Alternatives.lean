import RowQuery.Filter.Comparison
import RowQuery.Text.Blank

/-!
# Alternatives

A list of alternatives is written as one text, `father_id.eq.P1,mother_id.eq.P1`: segments
separated by commas, and in each a column, a comparison and a value separated by points.

* `Alternatives.parse` reads the text. Blanks around a segment do not count, an empty segment is
  none, and the value runs to the end of its segment, points included.
* `Alternatives.print` writes alternatives as such a text.
-/

namespace RowQuery

/-- One alternative: a column compared with a text. -/
structure Alternative where
  column : String
  comparison : Comparison
  value : String
deriving DecidableEq

namespace Alternatives

/-- The alternative that a segment states. What is missing in it is empty. -/
def ofSegment (segment : List Char) : Alternative :=
  match Text.splitOn '.' segment with
  | [] => ⟨"", .eq, ""⟩
  | [column] => ⟨String.ofList column, .eq, ""⟩
  | column :: word :: value =>
    ⟨String.ofList column, .ofWord word, String.ofList (Text.joinWith ['.'] value)⟩

/-- The alternatives of a text, on its characters. -/
def parseChars (text : List Char) : List Alternative :=
  (((Text.splitOn ',' text).map Text.trim).filter (· ≠ [])).map ofSegment

/-- The alternatives of a text. -/
def parse (text : String) : List Alternative := parseChars text.toList

/-- An alternative as a segment. -/
def segment (alternative : Alternative) : List Char :=
  alternative.column.toList ++ '.' :: alternative.comparison.word.toList ++
    '.' :: alternative.value.toList

/-- Alternatives as a text. -/
def print (alternatives : List Alternative) : String :=
  String.ofList (Text.joinWith [','] (alternatives.map segment))

end Alternatives

end RowQuery
