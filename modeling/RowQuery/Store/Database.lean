import RowQuery.Catalog.Tables
import RowQuery.Store.Table

/-!
# Databases

A database is a list of tables. A table refers only to tables before it.

* `Database.create` adds the declared tables that are missing.
* `Database.satisfied` tells whether all references lead to a row.
* `Database.remove` removes rows together with what depends on them.
-/

namespace RowQuery

/-- A list of tables. -/
structure Database where
  tables : List Table
deriving DecidableEq

namespace Database

/-- The database without tables. -/
def empty : Database := ⟨[]⟩

/-- The table with a name, whatever the case of its letters in ASCII. -/
def table? (db : Database) (name : String) : Option Table :=
  db.tables.find? fun table => sameName table.name name

/-- The database with a table changed. -/
def put (db : Database) (table : Table) : Database :=
  ⟨db.tables.map fun other => if other.name = table.name then table else other⟩

/-- The database with every declared table that is missing. -/
def create (db : Database) : Database :=
  let missing := Catalog.tables.filter fun declaration => (db.table? declaration.name).isNone
  ⟨db.tables ++ missing.map Table.empty⟩

/-! ### References -/

/-- The references of a row: the table, the action on deletion, and the identifier. -/
def references (declaration : Declaration) (row : Row) : List (String × DeleteAction × Cell) :=
  (declaration.columns.zip row.cells).filterMap fun (column, cell) =>
    match column.references with
    | some (table, action) => if cell.isNull then none else some (table, action, cell)
    | none => none

/-- Whether a table has a row with an identifier. -/
def hasId (db : Database) (table : String) (id : Cell) : Bool :=
  db.tables.any fun t => t.name = table && t.ids.contains id

/-- Whether the references of a row lead to rows. -/
def rowSatisfied (db : Database) (declaration : Declaration) (row : Row) : Bool :=
  (references declaration row).all fun (table, _, id) => db.hasId table id

/-- Whether all references lead to rows. -/
def satisfied (db : Database) : Bool :=
  db.tables.all fun table => table.rows.all (db.rowSatisfied table.declaration)

/-! ### Removing rows -/

/-- Rows that are gone, by table and identifier. -/
abbrev Gone := List (String × Cell)

/-- Whether a row goes with the rows that it refers to. -/
def goesWith (gone : Gone) (declaration : Declaration) (row : Row) : Bool :=
  (references declaration row).any fun (table, action, id) =>
    action = .cascade && gone.contains (table, id)

/-- A cell that refers to a row, emptied if that row is gone. -/
def released (gone : Gone) (column : Column) (cell : Cell) : Cell :=
  match column.references with
  | some (table, _) => if gone.contains (table, cell) then .null else cell
  | none => cell

/-- A row that stays, its references to rows that are gone emptied. -/
def release (gone : Gone) (declaration : Declaration) (row : Row) : Row :=
  { row with cells := (declaration.columns.zip row.cells).map fun (column, cell) =>
      released gone column cell }

/-- The tables after the removal of the rows that `goes` picks, table by table. What is gone so
far is known when a table is reached, since it refers only to tables before it. -/
def sweep (goes : Table → Row → Bool) (gone : Gone) : List Table → List Table
  | [] => []
  | table :: rest =>
    let leaves (row : Row) := goes table row || goesWith gone table.declaration row
    let removed := (table.rows.filter leaves).map fun row => (table.name, table.cell row "id")
    { table with
      rows := (table.rows.filter (!leaves ·)).map (release gone table.declaration) } ::
      sweep goes (gone ++ removed) rest

/-- The database after the removal of the rows of a table that `goes` picks. -/
def remove (db : Database) (name : String) (goes : Row → Bool) : Database :=
  ⟨sweep (fun table row => table.name = name && goes row) [] db.tables⟩

end Database

end RowQuery
