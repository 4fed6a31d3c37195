import RowQuery.Sql.Statement
import RowQuery.Store.Pattern
import RowQuery.Store.Table
import RowQuery.Text.Lower
import RowQuery.Text.Basic

/-!
# Conditions on rows

Whether a condition holds of a row: yes, no, or unknown where null is involved. A row is selected
only if every condition holds.

* `Condition.truth` is the value of a condition.
* `Table.selects` tells whether a row is selected.
* `Table.meetsTooComplex` tells whether a row comes upon a pattern that the store does not take.
-/

namespace RowQuery

/-- A truth value, or unknown. -/
abbrev Truth := Option Bool

namespace Truth

/-- At least one holds; unknown if none holds and one is unknown. -/
def any : List Truth → Truth
  | [] => some false
  | truth :: rest =>
    match truth, any rest with
    | some true, _ => some true
    | _, some true => some true
    | none, _ => none
    | _, none => none
    | some false, some false => some false

end Truth

namespace Table

/-- How a row stands to a parameter in what a name refers to. -/
def compareWith (table : Table) (row : Row) (column : String) (value : Json) : Option Ordering :=
  let source := table.declaration.source column
  Cell.compareIn source.storage? (row.read source) (.bound value)

/-- The value of a comparison. -/
def termTruth (table : Table) (row : Row) (term : Sql.Term) : Truth :=
  (table.compareWith row term.column term.value).map term.comparison.holds

/-- The lower-case characters of a cell as text, unless it is null. -/
def loweredText? : Cell → Option (List Char)
  | .text s => some (Text.lowerChars s.toList)
  | cell =>
    match cell.toText with
    | .text s => some s.toList
    | _ => none

/-- The value of a condition. -/
def truth (table : Table) (row : Row) : Sql.Condition → Truth
  | .compare term => table.termTruth row term
  | .oneOf column values =>
    Truth.any (values.map fun value => (table.compareWith row column value).map (·.isEq))
  | .never => some false
  | .isNull column => some (row.read (table.declaration.source column)).isNull
  | .notNull column => some !(row.read (table.declaration.source column)).isNull
  | .like column pattern =>
    (loweredText? (row.read (table.declaration.source column))).map
      (Pattern.matchesText (Text.lowerChars pattern.toList))
  | .anyOf terms => Truth.any (terms.map (table.termTruth row))

/-- The greatest number of bytes in a pattern. -/
def maxPattern : Nat := 50000

/-- Whether a condition has a pattern that is too long. -/
def tooComplex : Sql.Condition → Bool
  | .like _ pattern =>
    maxPattern < Text.bytes (Text.lowerChars pattern.toList)
  | _ => false

/-- Whether a condition with a pattern that is too long is looked at for a row: the conditions
before it hold. -/
def meetsTooComplex (table : Table) (row : Row) : List Sql.Condition → Bool
  | [] => false
  | condition :: rest =>
    tooComplex condition ||
      (table.truth row condition = some true && table.meetsTooComplex row rest)

/-- Whether every condition holds of a row. -/
def selects (table : Table) (conditions : List Sql.Condition) (row : Row) : Bool :=
  conditions.all fun condition => table.truth row condition = some true

end Table

end RowQuery
