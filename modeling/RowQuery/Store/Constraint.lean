import RowQuery.Store.Database

/-!
# Constraints on rows

What a row has to satisfy beside the other rows of its table. Columns that may not be null are
looked at first, in their order; then the number of the row, and then the sets of columns whose
values may not repeat.

* `Table.checkRow` tells the first constraint that a row violates.
-/

namespace RowQuery.Table

/-- The first column that may not be null and is. -/
def nullColumn? (table : Table) (row : Row) : Option Column :=
  ((table.declaration.columns.zip row.cells).find? fun (column, cell) =>
    column.notNull && cell.isNull).map (·.1)

/-- Whether two rows have the same values, none of them null, in some columns. -/
def agree (table : Table) (columns : List String) (a b : Row) : Bool :=
  columns.all fun column =>
    !(table.cell a column).isNull && table.cell a column = table.cell b column

/-- The first set of columns in which a row repeats the values of another. -/
def repeatedKey? (table : Table) (row : Row) : Option (List String) :=
  table.declaration.uniqueKeys.find? fun key => table.rows.any (table.agree key row)

/-- Checks a row that is to be added to a table. -/
def checkRow (table : Table) (row : Row) : Except StoreFault Unit :=
  match table.nullColumn? row with
  | some column => .error (.notNull table.name column.name)
  | none =>
    if table.rows.any (·.number = row.number) then .error (.notUnique table.name ["rowid"])
    else match table.repeatedKey? row with
      | some key => .error (.notUnique table.name key)
      | none => .ok ()

end RowQuery.Table
