import RowQuery.Store.Database

/-!
# Databases as documents

A database is kept as a document: under the name of each table the list of its rows, each with its
number in front of its cells. The declarations are not part of it; a table is known by its name.

* `Database.document` and `Database.ofDocument?` write and read such a document.
-/

namespace RowQuery

/-- A row as a document. -/
def Row.document (row : Row) : Json := .array (.integer row.number :: row.cells.map Cell.json)

/-- The row that a document describes, in a table with so many columns. -/
def Row.ofDocument? (columns : Nat) : Json → Option Row
  | .array (.integer number :: cells) =>
    if cells.length = columns then some ⟨number, cells.map Cell.bound⟩ else none
  | _ => none

namespace Table

/-- The rows of a table as a document. -/
def document (table : Table) : Json := .array (table.rows.map Row.document)

/-- The table of a name whose rows a document describes. -/
def ofDocument? (name : String) : Json → Option Table
  | .array rows => do
    let declaration ← Catalog.tables.find? (·.name = name)
    return ⟨declaration, ← rows.mapM (Row.ofDocument? declaration.columns.length)⟩
  | _ => none

end Table

namespace Database

/-- A database as a document. -/
def document (db : Database) : Json :=
  .object (db.tables.map fun table => (table.name, table.document))

/-- The database that a document describes. -/
def ofDocument? : Json → Option Database
  | .object fields => (fields.mapM fun (name, rows) => Table.ofDocument? name rows).map Database.mk
  | _ => none

end Database

end RowQuery
