import RowQuery.Store.Affinity

/-!
# Tables

A table has a declaration and rows. Every row has a number of its own, by which the rows are
ordered.

* `Declaration.source` finds what a name in a statement refers to.
* `Table.insertRow`, `Table.eraseRow` and `Table.replaceRow` change the rows.

## Design notes

Names are found whatever the case of their letters in ASCII. A name that is no column is not a
mistake in a condition: it is taken for a text with that content.
-/

namespace RowQuery

/-- Whether two names are the same, letter case in ASCII aside. -/
def sameName (a b : String) : Bool := a.toList.map Char.toLower == b.toList.map Char.toLower

/-- What a name in a statement refers to. -/
inductive Source where
  | column (index : Nat) (storage : Storage)
  | rowNumber
  | literal (text : String)
deriving DecidableEq

namespace Source

/-- How the values of a source are kept, if it is no literal. -/
def storage? : Source → Option Storage
  | column _ storage => some storage
  | rowNumber => some .integer
  | literal _ => none

end Source

namespace Declaration

/-- The names under which the number of a row is known. -/
def rowNumberNames : List String := ["rowid", "_rowid_", "oid"]

/-- Whether a name stands for the number of a row. -/
def isRowNumber (name : String) : Bool := rowNumberNames.any (sameName name)

/-- The position of the column with a name. -/
def columnIndex? (table : Declaration) (name : String) : Option Nat :=
  table.columns.findIdx? fun column => sameName column.name name

/-- What a name refers to. -/
def source (table : Declaration) (name : String) : Source :=
  match table.columnIndex? name with
  | some index => .column index (table.columns[index]?.elim .text (·.type.storage))
  | none => if isRowNumber name then .rowNumber else .literal name

end Declaration

/-- A row: its number, and a cell for each column of its table. -/
structure Row where
  number : Int
  cells : List Cell
deriving DecidableEq

namespace Row

/-- The cell in a column. -/
def cell (row : Row) (index : Nat) : Cell := row.cells.getD index .null

/-- What the row has under a source. -/
def read (row : Row) : Source → Cell
  | .column index _ => row.cell index
  | .rowNumber => .integer row.number
  | .literal text => .text text

end Row

/-- A table. The rows are in the order of their numbers. -/
structure Table where
  declaration : Declaration
  rows : List Row
deriving DecidableEq

namespace Table

/-- The table without rows. -/
def empty (declaration : Declaration) : Table := ⟨declaration, []⟩

/-- The name of the table. -/
def name (table : Table) : String := table.declaration.name

/-- The position of the column with a name; past the end if there is none. -/
def index (table : Table) (column : String) : Nat :=
  (table.declaration.columnIndex? column).getD table.declaration.columns.length

/-- The cell of a row in the column with a name. -/
def cell (table : Table) (row : Row) (column : String) : Cell := row.cell (table.index column)

/-- The identifiers of the rows. -/
def ids (table : Table) : List Cell := table.rows.map fun row => table.cell row "id"

/-- The number that a new row gets: one more than the greatest. -/
def nextNumber (table : Table) : Int :=
  match table.rows.getLast? with
  | some row => row.number + 1
  | none => 1

/-- The rows with a further one at its place. -/
def insertOrdered (row : Row) : List Row → List Row
  | [] => [row]
  | other :: rest =>
    if row.number < other.number then row :: other :: rest else other :: insertOrdered row rest

/-- The table with a further row. -/
def insertRow (table : Table) (row : Row) : Table :=
  { table with rows := insertOrdered row table.rows }

/-- The table without the row of a number. -/
def eraseRow (table : Table) (number : Int) : Table :=
  { table with rows := table.rows.filter (·.number ≠ number) }

/-- The table with the row of a number replaced, whose own number may differ. -/
def replaceRow (table : Table) (number : Int) (row : Row) : Table :=
  if row.number = number then
    { table with rows := table.rows.map fun other => if other.number = number then row else other }
  else (table.eraseRow number).insertRow row

end Table

end RowQuery
