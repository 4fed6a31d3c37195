import RowQuery.Proofs.Store.Selection

/-!
# Rows as a select shows them

* `Table.exists_found` — the reply to any select: rows that are selected, sorted, cut and projected.
* `Table.listed` are the names in a row of the reply; `Table.projected_eq` — where these are
  columns, the row has their cells.

## Design notes

A name that is asked for twice is shown once, at its first place, and a name is shown as it is
declared. So a row is told by the list of names without repetitions.
-/

namespace RowQuery

namespace Declaration

/-- The name of a column as it is declared. -/
def spelling (declaration : Declaration) (name : String) : String :=
  ((declaration.columnIndex? name).bind (declaration.columns[·]?)).elim name (·.name)

end Declaration

namespace Table

variable {table : Table} {row : Row} {projection : Sql.Projection}

/-- A row of the reply to a select, as a record. -/
def projected (table : Table) (projection : Sql.Projection) (row : Row) : Fields :=
  .ofPairs ((table.resultColumns projection).map fun column =>
    (column.1, (row.read column.2).json))

/-- The names that a projection stands for, as they are declared and each once. -/
def listed (table : Table) (projection : Sql.Projection) : List String :=
  ((table.projectionNames projection).map table.declaration.spelling).eraseDups

theorem record_projected (rows : List (List Json)) :
    Reply.record ⟨(table.resultColumns projection).map (·.1), rows⟩
      ((table.resultColumns projection).map fun column => (row.read column.2).json) =
        table.projected projection row := by
  rw [Reply.record, projected]
  dsimp only
  rw [List.zip_map']

/-- **The reply to a select** has the rows that its conditions select, in some order, then sorted,
cut and projected. -/
theorem exists_found (table : Table) (projection : Sql.Projection)
    (conditions : List Sql.Condition) (order : List OrderTerm) (limit : Option Int) :
    ∃ found, found.Perm (table.rows.filter (table.selects conditions)) ∧
      (table.select projection conditions order limit).records =
        (cut limit (table.sort order found)).map (table.projected projection) := by
  let path := Plan.AccessPath.choose table.declaration (table.projectionNames projection) conditions
    order
  refine ⟨table.matching path conditions, (path.arrange_perm _ table.rows).filter _, ?_⟩
  show (List.map _ _).map _ = _
  rw [List.map_map]
  exact List.map_congr_left fun row _ => record_projected _

/-! ### Columns that exist -/

theorem spelling_eq {name : String} {index : Nat}
    (inside : index < table.declaration.columns.length)
    (found : table.declaration.columnIndex? name = some index) :
    table.declaration.spelling name = table.declaration.columns[index].name := by
  rw [Declaration.spelling, found, Option.bind_some, List.getElem?_eq_getElem inside]
  rfl

/-- A column is shown under its name as it is declared. -/
theorem resultColumn_spelling (declared : table.declaration ∈ Catalog.tables) {name : String}
    (known : (table.declaration.columnIndex? name).isSome) (row : Row) :
    (table.resultColumn name).1 = table.declaration.spelling name ∧
      row.read (table.resultColumn name).2 =
        table.cell row (table.declaration.spelling name) := by
  obtain ⟨index, found⟩ := Option.isSome_iff_exists.mp known
  obtain ⟨inside, -⟩ := List.findIdx?_eq_some_iff_getElem.mp found
  have source : table.declaration.source name =
      .column index table.declaration.columns[index].type.storage := by
    rw [Declaration.source, found]
    simp only [List.getElem?_eq_getElem inside]
    rfl
  have own := Catalog.columnIndex?_eq declared (List.getElem?_eq_getElem inside)
  rw [resultColumn, source, spelling_eq inside found, cell, Table.index, own]
  simp only [List.getElem?_eq_getElem inside]
  exact ⟨rfl, rfl⟩

/-- **A row of columns that exist** has each of their names once, with the cell of that column. -/
theorem projected_eq (declared : table.declaration ∈ Catalog.tables)
    (known : ∀ name, .column name ∈ projection → (table.declaration.columnIndex? name).isSome)
    (row : Row) :
    table.projected projection row =
      (table.listed projection).map fun name => (name, (table.cell row name).json) := by
  have each : ∀ name ∈ table.projectionNames projection,
      (table.declaration.columnIndex? name).isSome := by
    intro name mem
    obtain ⟨selection, listed, mem⟩ := List.mem_flatMap.mp mem
    cases selection with
    | all =>
      obtain ⟨column, member, rfl⟩ := List.mem_map.mp mem
      obtain ⟨index, here⟩ := List.getElem?_of_mem member
      rw [Catalog.columnIndex?_eq declared here]
      rfl
    | column other =>
      rw [List.mem_singleton.mp mem]
      exact known other listed
  have shown : (table.resultColumns projection).map (fun column =>
        (column.1, (row.read column.2).json)) =
      ((table.projectionNames projection).map table.declaration.spelling).map fun name =>
        (name, (table.cell row name).json) := by
    rw [resultColumns, List.map_map, List.map_map]
    refine List.map_congr_left fun name mem => ?_
    obtain ⟨named, read⟩ := resultColumn_spelling declared (each name mem) row
    exact Prod.ext named (congrArg Cell.json read)
  rw [projected, shown, Fields.ofPairs_map]
  rfl

end Table

end RowQuery
