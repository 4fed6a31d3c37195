import RowQuery.Store.Condition
import RowQuery.Store.Constraint

/-!
# Changing rows

The effect of the three statements that write. Each either changes the database or is refused and
changes nothing.

* `Database.insert`, `Database.update` and `Database.delete`.

## Design notes

Of a column that an insert lists twice, the first value counts; of one that an update assigns
twice, the last. The rows that an update matches are changed in the order of their numbers, each
checked against the table as it is then. References are looked at when the whole statement is done,
and only where they are enforced.
-/

namespace RowQuery

/-- Values for columns, as a statement lists them. -/
abbrev Assignments := List (String × Cell)

namespace Assignments

/-- The values of a statement as cells. -/
def ofFields (fields : Fields) : Assignments := fields.map fun (name, value) => (name, .bound value)

/-- The values for a column. -/
def valuesFor (assignments : Assignments) (column : String) : List Cell :=
  (assignments.filter fun assignment => sameName assignment.1 column).map (·.2)

/-- The values for the number of a row. -/
def numbers (assignments : Assignments) (table : Declaration) : List Cell :=
  (assignments.filter fun assignment =>
    (table.columnIndex? assignment.1).isNone && Declaration.isRowNumber assignment.1).map (·.2)

/-- The first name that is no column of the table. -/
def unknown? (assignments : Assignments) (table : Declaration) : Option String :=
  (assignments.find? fun assignment =>
    (table.columnIndex? assignment.1).isNone && !Declaration.isRowNumber assignment.1).map (·.1)

end Assignments

namespace Table

/-- The value that a column takes when an insert leaves it out. -/
def defaultCell : Option Default → Cell
  | none => .null
  | some (.integer n) => .integer n
  | some (.text s) => .text s

/-- The cells of a new row. -/
def newCells (declaration : Declaration) (assignments : Assignments) : List Cell :=
  declaration.columns.map fun column =>
    ((assignments.valuesFor column.name).headD (defaultCell column.default)).keep
      column.type.storage

/-- A cell as the number of a row, which has to be an integer. -/
def rowNumber (cell : Cell) : Except StoreFault Int :=
  match cell.toNumber with
  | .integer n => .ok n
  | _ => .error .mismatch

/-- The number of a new row: the next one, unless the statement gives another. -/
def newNumber (table : Table) (assignments : Assignments) : Except StoreFault Int :=
  match (assignments.numbers table.declaration).getLast? with
  | none | some .null => .ok table.nextNumber
  | some cell => rowNumber cell

/-- The row that an insert adds, which satisfies the constraints of the table. -/
def newRow (table : Table) (assignments : Assignments) : Except StoreFault Row := do
  let row : Row := ⟨← table.newNumber assignments, newCells table.declaration assignments⟩
  table.checkRow row
  return row

/-- The cells of a row after an assignment. -/
def assignedCells (declaration : Declaration) (assignments : Assignments) (cells : List Cell) :
    List Cell :=
  (declaration.columns.zip cells).map fun (column, cell) =>
    match (assignments.valuesFor column.name).getLast? with
    | some value => value.keep column.type.storage
    | none => cell

/-- A row after an assignment. -/
def assignRow (declaration : Declaration) (assignments : Assignments) (row : Row) :
    Except StoreFault Row := do
  let number ← match (assignments.numbers declaration).getLast? with
    | some cell => rowNumber cell
    | none => .ok row.number
  return ⟨number, assignedCells declaration assignments row.cells⟩

/-- The table with one of its rows assigned to. -/
def updateRow (assignments : Assignments) (table : Table) (row : Row) :
    Except StoreFault Table := do
  let changed ← assignRow table.declaration assignments row
  (table.eraseRow row.number).checkRow changed
  return table.replaceRow row.number changed

/-- The table with some of its rows assigned to, one after the other. -/
def update (table : Table) (assignments : Assignments) (rows : List Row) :
    Except StoreFault Table :=
  rows.foldlM (updateRow assignments) table

end Table

namespace Database

/-- The database after a row has been added to one of its tables. -/
def insert (db : Database) (enforced : Bool) (table : Table) (assignments : Assignments) :
    Except StoreFault Database := do
  let row ← table.newRow assignments
  let changed := db.put (table.insertRow row)
  if enforced && !changed.rowSatisfied table.declaration row then .error .dangling else .ok changed

/-- The database after an assignment to the rows of a table that conditions select. -/
def update (db : Database) (enforced : Bool) (table : Table) (assignments : Assignments)
    (conditions : List Sql.Condition) : Except StoreFault Database := do
  let rows := table.rows.filter (table.selects conditions)
  let changed := db.put (← table.update assignments rows)
  if enforced && !changed.satisfied then .error .dangling else .ok changed

/-- The database after the removal of the rows of a table that conditions select. Where references
are enforced, what depends on these rows goes too. -/
def delete (db : Database) (enforced : Bool) (table : Table) (conditions : List Sql.Condition) :
    Database :=
  if enforced then db.remove table.name (table.selects conditions)
  else db.put { table with rows := table.rows.filter fun row => !table.selects conditions row }

end Database

end RowQuery
