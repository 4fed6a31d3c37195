import RowQuery.Store.Database

/-!
# Reading a table by identifiers

* `Table.byId` are the rows of a table in the order of their identifiers.
* `Held` is a cursor over the identifiers that stays open while statements are run. It has read one
  row more than it has given out, and goes on behind that row in the table as it is then.
-/

namespace RowQuery

/-- The place of a row among the rows sorted by identifier: the identifier, then the number. -/
structure Place where
  id : Cell
  number : Int
deriving DecidableEq

/-- The order of places. -/
def Place.order (a b : Place) : Ordering := (a.id.order b.id).then (compare a.number b.number)

namespace Table

/-- The place of a row. -/
def place (table : Table) (row : Row) : Place := ⟨table.cell row "id", row.number⟩

/-- The rows in the order of their identifiers. -/
def byId (table : Table) : List Row :=
  table.rows.mergeSort fun a b => ((table.place a).order (table.place b)).isLE

/-- The cells of a row that are not null, with the names of their columns. -/
def filledCells (table : Table) (row : Row) : List (String × Cell) :=
  ((table.declaration.columns.map (·.name)).zip row.cells).filter fun (_, cell) => !cell.isNull

end Table

/-- An open cursor over the identifiers of a table: the place that it has read ahead. -/
structure Held where
  table : String
  ahead : Option Place
deriving DecidableEq

namespace Held

/-- Opens a cursor on a table. Also yields the first identifier, if there is one. -/
def start (table : Table) : Option Cell × Held :=
  let places := table.byId.map table.place
  (places.head?.map (·.id), ⟨table.name, places[1]?⟩)

/-- The identifiers that are left, in a database that may have changed. -/
def rest (held : Held) (db : Database) : List Cell :=
  match held.ahead with
  | none => []
  | some place =>
    let later := match db.table? held.table with
      | some table => (table.byId.map table.place).filter fun other => (place.order other).isLT
      | none => []
    place.id :: later.map (·.id)

end Held

end RowQuery
