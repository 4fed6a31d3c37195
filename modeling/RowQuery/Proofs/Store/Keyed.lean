import RowQuery.Proofs.Store.Breach

/-!
# Rows and their identifiers

The declarations make the identifier the key of every table. A key does not repeat, but nothing in a
declaration forbids it to be null.

* `Column.Keyed` is the rule that a key is not null. No cell that a statement writes obeys it by
  itself: an insert that leaves the identifier out breaks it.
* `Database.identified_iff` — a database keeps the rule if every row has an identifier.
* `Table.newCells_keyed_iff` and `Assignments.heed_keyed_iff` — what a statement has to write.
-/

namespace RowQuery

/-! ### The rule -/

/-- A key is not null. -/
def Column.Keyed : Rule := fun column cell => column.primaryKey = true → cell ≠ .null

instance (column : Column) (cell : Cell) : Decidable (column.Keyed cell) :=
  inferInstanceAs (Decidable (_ → _))

/-- Keys are no references. -/
theorem Rule.emptied_keyed : Rule.Emptied Column.Keyed := by decide +kernel

namespace Catalog

/-- After the identifier no column of a table is its key. -/
theorem keyless_tail : ∀ declaration ∈ tables, ∀ column ∈ declaration.columns.tail,
    column.primaryKey = false := by
  decide +kernel

variable {declaration : Declaration}

/-- What holds of the keys of a table is what holds of the identifier. -/
theorem forall_keys_iff (declared : declaration ∈ tables) {holds : Column → Prop} :
    (∀ column ∈ declaration.columns, column.primaryKey = true → holds column) ↔ holds id := by
  have keyless := keyless_tail _ declared
  obtain ⟨rest, columns⟩ := exists_columns declared
  rw [columns] at keyless ⊢
  refine ⟨fun all => all id List.mem_cons_self rfl, fun held column mem key => ?_⟩
  rcases List.mem_cons.mp mem with rfl | mem
  · exact held
  · rw [keyless column mem] at key
    cases key

end Catalog

/-! ### Rows -/

/-- Every row has an identifier. -/
def Database.Identified (db : Database) : Prop :=
  ∀ table ∈ db.tables, ∀ row ∈ table.rows, table.cell row "id" ≠ .null

instance (db : Database) : Decidable db.Identified :=
  inferInstanceAs (Decidable (∀ table ∈ db.tables, ∀ row ∈ table.rows, _))

/-- A row keeps the rule exactly if its first cell, that of the identifier, is not null. -/
theorem Row.obeys_keyed_iff {declaration : Declaration} {row : Row}
    (declared : declaration ∈ Catalog.tables)
    (shaped : row.cells.length = declaration.columns.length) :
    row.Obeys Column.Keyed declaration ↔ row.cell 0 ≠ .null := by
  have keyless := Catalog.keyless_tail _ declared
  obtain ⟨rest, columns⟩ := Catalog.exists_columns declared
  rw [columns] at keyless shaped
  rw [Row.Obeys, Row.cell, columns]
  generalize row.cells = cells at shaped
  cases cells with
  | nil => cases shaped
  | cons first others =>
    have free : List.Forall₂ Column.Keyed rest others := by
      refine List.forall₂_iff_zip.mpr ⟨(Nat.succ.inj shaped).symm, fun paired key => ?_⟩
      rw [keyless _ (List.of_mem_zip paired).1] at key
      cases key
    rw [List.forall₂_cons, and_iff_left free]
    exact ⟨fun keyed => keyed rfl, fun filled _ => filled⟩

/-- Where rows have a cell for each column, the rule is kept exactly if every row has an
identifier. -/
theorem Database.identified_iff {db : Database} {rule : Rule} (sound : db.Sound)
    (shaped : db.Obeys rule) : db.Identified ↔ db.Obeys Column.Keyed := by
  refine forall₂_congr fun table mem => forall₂_congr fun row inside => ?_
  have declared := sound.declared_of_mem mem
  rw [Row.obeys_keyed_iff declared (shaped table mem row inside).length_eq, Table.cell,
    Table.index_id declared]

/-! ### Cells that are written -/

theorem Cell.keep_text_ne_null {cell : Cell} : cell.keep .text ≠ .null ↔ cell ≠ .null := by
  cases cell <;> simp [keep, toText]

section Written

variable {declaration : Declaration} {assignments : Assignments}

/-- A new row keeps the rule exactly if its identifier is given and is not null. -/
theorem Table.newCells_keyed_iff (declared : declaration ∈ Catalog.tables) :
    List.Forall₂ Column.Keyed declaration.columns (Table.newCells declaration assignments) ↔
      ∃ value ∈ (assignments.valuesFor "id").head?, value ≠ .null := by
  rw [Table.newCells, List.forall₂_map_right_iff, List.forall₂_same]
  refine (Catalog.forall_keys_iff declared).trans ?_
  rw [show Catalog.id.type.storage = .text from rfl, Cell.keep_text_ne_null,
    List.headD_eq_head?_getD]
  show (assignments.valuesFor "id").head?.getD .null ≠ .null ↔ _
  cases (assignments.valuesFor "id").head? with
  | none => simp
  | some value => simp

/-- A row that is assigned to keeps the rule if no null is assigned to its identifier. -/
theorem Assignments.heed_keyed_iff (declared : declaration ∈ Catalog.tables) :
    assignments.Heed Column.Keyed declaration List.getLast? ↔
      ∀ value ∈ (assignments.valuesFor "id").getLast?, value ≠ .null := by
  have keys : (∀ column ∈ declaration.columns, column.primaryKey = true →
      ∀ value ∈ (assignments.valuesFor column.name).getLast?,
        value.keep column.type.storage ≠ .null) ↔ _ := Catalog.forall_keys_iff declared
  have first : (∀ value ∈ (assignments.valuesFor Catalog.id.name).getLast?,
      value.keep Catalog.id.type.storage ≠ .null) ↔
        ∀ value ∈ (assignments.valuesFor "id").getLast?, value ≠ .null :=
    forall₂_congr fun _ _ => Cell.keep_text_ne_null
  rw [← first, ← keys]
  exact ⟨fun heed column mem key value counts => heed column mem value counts key,
    fun heed column mem value counts key => heed column mem key value counts⟩

end Written

end RowQuery
