import RowQuery.Proofs.Execution.Session
import RowQuery.Proofs.Store.Selection

/-!
# What a select answers

* `Table.logical` is a row as an answer presents it: the values of all columns, in logical form.
* `Request.ReadsAll` are the selects of all columns that neither sort nor cut.
* `Execution.execute_select` — such a select answers with the rows that its conditions select, up to
  their order, and leaves the world as it is.
-/

namespace RowQuery

/-! ### Rows as they are presented -/

namespace Table

variable {table : Table} {row : Row} {schema : Schema}

/-- A row as an answer presents it. -/
def logical (schema : Schema) (table : Table) (row : Row) : Json :=
  .object ((schema.traits table.name).toLogical (table.fields row))

theorem get?_fields {column : Column} {index : Nat} (declared : table.declaration ∈ Catalog.tables)
    (shaped : row.cells.length = table.declaration.columns.length)
    (here : table.declaration.columns[index]? = some column) :
    Fields.get? (table.fields row) column.name = some (row.cell index).json := by
  have distinct : ((table.fields row).map (·.1)).Nodup := by
    rw [map_fst_fields shaped]
    exact names_nodup declared
  obtain ⟨lt, rfl⟩ := List.getElem?_eq_some_iff.mp here
  have lt' : index < row.cells.length := shaped ▸ lt
  have paired : (table.declaration.columns[index], row.cells[index]) ∈
      table.declaration.columns.zip row.cells := by
    have inside : index < (table.declaration.columns.zip row.cells).length := by
      rw [List.length_zip]
      omega
    exact List.mem_iff_getElem.mpr ⟨index, inside, List.getElem_zip⟩
  rw [Fields.get?_eq_some_iff distinct, Row.cell, List.getD_eq_getElem?_getD,
    List.getElem?_eq_getElem lt']
  exact List.mem_map.mpr ⟨_, paired, rfl⟩

/-- What is found in a row that is presented. -/
theorem field?_logical {column : Column} {index : Nat}
    (declared : table.declaration ∈ Catalog.tables)
    (shaped : row.cells.length = table.declaration.columns.length)
    (here : table.declaration.columns[index]? = some column) :
    (table.logical schema row).field? column.name = some
      ((schema.traits table.name).logicalValue column.name (row.cell index).json) := by
  show Fields.get? ((schema.traits table.name).toLogical (table.fields row)) column.name = _
  rw [Traits.toLogical, Fields.get?_map, get?_fields declared shaped here]
  rfl

end Table

/-! ### Selects -/

/-- A select of all columns of a table that neither sorts nor cuts. -/
structure Request.ReadsAll (request : Request) (table : String) : Prop where
  method : request.method = .select
  table : request.table = table
  columns : Execution.projection request = [.all]
  order : request.order = []
  limit : request.limit = none

namespace Execution

open Connection (Harmless)

variable {sources : Sources} {schema : Schema} {request : Request} {rule : Rule} {table : Table}
  {world : World Connection} {query : Query}

/-- The rows that a select reads. -/
theorem fetch_select (schema : Schema) (held : world.state.Holds rule)
    (mem : table ∈ world.state.database.tables) {conditions : List Sql.Condition}
    (harmless : Harmless conditions) :
    ∃ rows, fetch Connection.engine schema table.name (.select [.all] table.name conditions [] none)
        world = (.ok rows, world) ∧
      rows.Perm ((table.rows.filter (table.selects conditions)).map (table.logical schema)) := by
  have declared := held.sound.declared_of_mem mem
  have shaped : ∀ row ∈ table.rows, row.cells.length = table.declaration.columns.length :=
    fun row inside => (held.obeys table mem row inside).length_eq
  let present (record : Fields) : Json := .object ((schema.traits table.name).toLogical record)
  have found := (table.records_select declared shaped conditions []).map present
  rw [List.map_map] at found
  refine ⟨_, ?_, found⟩
  rw [fetch, Run.bind_apply, query_apply, Connection.run_select held.sound mem harmless]
  rfl

/-- **A select of all columns answers with the rows that its conditions select**, up to their
order. -/
theorem execute_select (held : world.state.Holds rule) (mem : table ∈ world.state.database.tables)
    (checked : query.check = .ok request) (reads : request.ReadsAll table.name)
    (harmless : Harmless (conditions schema request)) :
    ∃ rows, query.execute Connection.engine sources schema world =
        (cardinality request rows, world) ∧
      rows.Perm ((table.rows.filter (table.selects (conditions schema request))).map
        (table.logical schema)) := by
  obtain ⟨rows, fetched, found⟩ := fetch_select schema held mem harmless
  refine ⟨rows, ?_, found⟩
  have run : attend Connection.engine sources schema request world =
      (.ok (cardinality request rows), world) := by
    show respond Connection.engine sources schema request world = _
    rw [respond, reads.method]
    show select Connection.engine schema request world = _
    rw [select, selectStatement, reads.columns, reads.table, reads.order, reads.limit,
      Run.bind_apply, fetched]
    rfl
  rw [execute_eq Connection.engine sources schema request checked, run]
  rfl

end Execution

end RowQuery
