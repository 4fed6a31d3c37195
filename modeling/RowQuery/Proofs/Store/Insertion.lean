import RowQuery.Proofs.Store.Selection
import Mathlib.Data.List.Nodup

/-!
# Inserted rows and their identifiers

* `Table.fields_of_new` — the fields of a new row, column by column.
* `Table.selects_id_iff` — a comparison with the identifier picks the rows that have it, identifiers
  being texts by `Table.id_of_admits`. No value picks a row that has none.
* `Table.filter_id` — a row that has an identifier is the only one that a comparison with it picks.
-/

namespace RowQuery

/-- Texts that stand alike are the same. -/
theorem Cell.textOrder_eq_iff {s t : List Char} : textOrder s t = .eq ↔ s = t := by
  induction s generalizing t with
  | nil => cases t <;> simp [textOrder]
  | cons a as ih =>
    cases t with
    | nil => simp [textOrder]
    | cons b bs =>
      rw [textOrder, Ordering.then_eq_eq, ih, Nat.compare_eq_eq, Char.toNat_inj, List.cons.injEq]

namespace Table

variable {table : Table} {row other : Row} {assignments : Assignments}

/-! ### The fields of a new row -/

/-- The cell that a new row has in a column. -/
def newCell (assignments : Assignments) (column : Column) : Cell :=
  ((assignments.valuesFor column.name).headD (defaultCell column.default)).keep column.type.storage

theorem fields_of_new (made : row.cells = newCells table.declaration assignments) :
    table.fields row = table.declaration.columns.map fun column =>
      (column.name, (newCell assignments column).json) := by
  have cells : row.cells = table.declaration.columns.map (newCell assignments) := made
  rw [fields, cells, ← List.map_prod_left_eq_zip, List.map_map]
  rfl

theorem cell_id_of_new (declared : table.declaration ∈ Catalog.tables)
    (made : row.cells = newCells table.declaration assignments) :
    table.cell row "id" = newCell assignments Catalog.id := by
  obtain ⟨rest, columns⟩ := Catalog.exists_columns declared
  rw [cell, index_id declared, Row.cell, made, newCells, columns]
  rfl

/-! ### Identifiers -/

/-- An identifier is a text, if there is one. -/
theorem id_of_admits (declared : table.declaration ∈ Catalog.tables)
    (admits : row.Obeys Column.Admits table.declaration) :
    table.cell row "id" = .null ∨ ∃ s, table.cell row "id" = .text s := by
  obtain ⟨rest, columns⟩ := Catalog.exists_columns declared
  rw [Row.Obeys, columns] at admits
  rw [cell, index_id declared, Row.cell]
  generalize row.cells = cells at admits
  cases admits with
  | cons first _ => exact first rfl

/-- A comparison with an identifier looks at the first cell, which is kept as a text. -/
theorem selects_id_eq (declared : table.declaration ∈ Catalog.tables) (row : Row) (value : Json) :
    table.selects [.compare ⟨"id", .eq, value⟩] row =
      decide ((Cell.compareIn (some .text) (table.cell row "id") (.bound value)).map
        Ordering.isEq = some true) := by
  obtain ⟨rest, columns⟩ := Catalog.exists_columns declared
  have here : table.declaration.columns[0]? = some Catalog.id := by
    rw [columns]
    rfl
  have compared : table.compareWith row "id" value =
      Cell.compareIn (some .text) (row.cell 0) (.bound value) :=
    compareWith_column declared here row value
  rw [cell, index_id declared, ← compared, selects, List.all_cons, List.all_nil, Bool.and_true]
  rfl

/-- A comparison with an identifier picks the rows that have it. -/
theorem selects_id_iff (declared : table.declaration ∈ Catalog.tables)
    (admits : row.Obeys Column.Admits table.declaration) (s : String) :
    table.selects [.compare ⟨"id", .eq, .string s⟩] row = true ↔ table.cell row "id" = .text s := by
  rw [selects_id_eq declared, decide_eq_true_iff]
  rcases id_of_admits declared admits with none | ⟨t, some⟩
  · rw [none]
    refine iff_of_false (fun h => ?_) Cell.noConfusion
    cases h
  · have order : Cell.compareIn (.some .text) (.text t) (.bound (.string s)) =
        .some (Cell.textOrder t.toList s.toList) := rfl
    rw [some, order, Option.map_some, Option.some_inj, Ordering.isEq_iff_eq_eq,
      Cell.textOrder_eq_iff, String.toList_inj, Cell.text.injEq]

/-- A row without an identifier equals no value in it. -/
theorem not_selects_of_null (declared : table.declaration ∈ Catalog.tables)
    (null : table.cell row "id" = .null) (value : Json) :
    table.selects [.compare ⟨"id", .eq, value⟩] row = false := by
  rw [selects_id_eq declared, null]
  rfl

/-- Two rows with the same identifier are the same row. -/
theorem Sound.eq_of_id (sound : table.Sound) (declared : table.declaration ∈ Catalog.tables)
    (mem : row ∈ table.rows) (mem' : other ∈ table.rows) (filled : table.cell row "id" ≠ .null)
    (same : table.cell row "id" = table.cell other "id") : row = other := by
  have symmetric : Std.Symm fun a b => table.agree ["id"] a b = false :=
    ⟨fun a b apart => (table.agree_comm ["id"] b a).trans apart⟩
  by_contra differ
  have apart := (sound.distinct _ (Catalog.id_unique _ declared)).forall mem mem' differ
  have agreed : table.agree ["id"] row other = true := agree_iff.mpr fun name listed => by
    rw [List.mem_singleton.mp listed]
    exact ⟨filled, same⟩
  rw [agreed] at apart
  cases apart

theorem Sound.nodup (sound : table.Sound) : table.rows.Nodup :=
  sound.numbered.imp fun lt same => Int.ne_of_lt lt (congrArg Row.number same)

/-- **A row that has an identifier is the only one that a comparison with it picks.** -/
theorem filter_id (sound : table.Sound) (declared : table.declaration ∈ Catalog.tables)
    (obeys : table.Obeys Column.Admits) (mem : row ∈ table.rows) {s : String}
    (identified : table.cell row "id" = .text s) :
    table.rows.filter (table.selects [.compare ⟨"id", .eq, .string s⟩]) = [row] := by
  have picks : ∀ other ∈ table.rows,
      table.selects [.compare ⟨"id", .eq, .string s⟩] other = decide (other = row) := by
    intro other member
    rw [Bool.eq_iff_iff, selects_id_iff declared (obeys other member) s, decide_eq_true_iff]
    refine ⟨fun same => ?_, fun same => same ▸ identified⟩
    exact sound.eq_of_id declared member mem (same ▸ Cell.noConfusion) (same.trans identified.symm)
  rw [List.filter_congr picks, List.filter_eq, List.count_eq_one_of_mem sound.nodup mem]
  rfl

end Table

end RowQuery
