import RowQuery.Proofs.Store.Integrity

/-!
# Rules that are broken

A rule for cells is handed on by a statement that heeds it. Conversely, a statement that changes the
tables without heeding the rule leaves a row that breaks it: what is written is there afterwards.

* `Assignments.heed_of_new` and `Assignments.heed_of_assigned` — what the cells that are written say
  about the values that count.
* `Table.exists_assigned` — a row that has been assigned to is there in the end.
* `Connection.run_obeys_iff` — a rule is kept exactly if nothing changes or the cells that are
  written obey it.
-/

namespace RowQuery

theorem sameName_iff {a b : String} :
    sameName a b = true ↔ a.toList.map Char.toLower = b.toList.map Char.toLower := by
  rw [sameName, beq_iff_eq]

theorem sameName_comm (a b : String) : sameName a b = sameName b a := by
  rw [Bool.eq_iff_iff, sameName_iff, sameName_iff]
  exact eq_comm

theorem sameName_trans {a b c : String} (left : sameName a b = true) (right : sameName b c = true) :
    sameName a c = true := by
  rw [sameName_iff] at *
  exact left.trans right

/-! ### Cells that are written -/

namespace Assignments

variable {rule : Rule} {declaration : Declaration} {assignments : Assignments}

theorem heed_of_new
    (obeys : List.Forall₂ rule declaration.columns (Table.newCells declaration assignments)) :
    assignments.Heed rule declaration List.head? := by
  rw [Table.newCells, List.forall₂_map_right_iff, List.forall₂_same] at obeys
  intro column mem value counts
  have held := obeys column mem
  have counts : (assignments.valuesFor column.name).head? = some value := counts
  rw [List.headD_eq_head?_getD, counts] at held
  exact held

theorem heed_of_assigned {cells : List Cell}
    (obeys : List.Forall₂ rule declaration.columns
      (Table.assignedCells declaration assignments cells)) :
    assignments.Heed rule declaration List.getLast? := by
  intro column mem value counts
  obtain ⟨index, lt, rfl⟩ := List.getElem_of_mem mem
  have lengths := List.Forall₂.length_eq obeys
  have held := List.Forall₂.get obeys lt (lengths ▸ lt)
  have counts : (assignments.valuesFor declaration.columns[index].name).getLast? = some value :=
    counts
  simp only [Table.assignedCells, List.get_eq_getElem, List.getElem_map, List.getElem_zip,
    counts] at held
  exact held

end Assignments

/-! ### Rows that are written -/

namespace Table

variable {table changed : Table} {declared : Declaration} {assignments : Assignments}

/-- Some row has the cells of a row that has been assigned to. -/
def HasAssigned (declaration : Declaration) (assignments : Assignments) (table : Table) : Prop :=
  table.declaration = declaration ∧
    ∃ row ∈ table.rows, ∃ cells, row.cells = assignedCells declaration assignments cells

/-- The row that takes the place of another is there, if the other one was. -/
theorem mem_replaceRow_self {row new : Row} (mem : row ∈ table.rows) :
    new ∈ (table.replaceRow row.number new).rows := by
  rw [replaceRow]
  split
  · exact List.mem_map.mpr ⟨row, mem, if_pos rfl⟩
  · exact mem_insertRow.mpr (.inl rfl)

theorem HasAssigned.updateRow {row : Row}
    (held : table.HasAssigned declared assignments)
    (h : Table.updateRow assignments table row = .ok changed) :
    changed.HasAssigned declared assignments := by
  obtain ⟨new, assigned, -, rfl⟩ := updateRow_ok h
  obtain ⟨rfl, other, mem, cells, written⟩ := held
  have new_cells := assignRow_ok assigned
  refine ⟨declaration_replaceRow _ _ _, ?_⟩
  by_cases same : new.number = row.number
  · -- The row is still there, or the new one stands in its place.
    rw [replaceRow, if_pos same]
    refine ⟨_, List.mem_map_of_mem mem, ?_⟩
    split
    · exact ⟨_, new_cells⟩
    · exact ⟨cells, written⟩
  · rw [replaceRow, if_neg same]
    exact ⟨new, mem_insertRow.mpr (.inl rfl), _, new_cells⟩

/-- A row that has been assigned to is there in the end, though it may have been assigned to more
than once. -/
theorem exists_assigned {row : Row} {rest : List Row} (mem : row ∈ table.rows)
    (h : table.update assignments (row :: rest) = .ok changed) :
    changed.HasAssigned table.declaration assignments := by
  rw [update, List.foldlM_cons] at h
  cases first : updateRow assignments table row with
  | error fault =>
    rw [first] at h
    cases h
  | ok between =>
    rw [first] at h
    have start : between.HasAssigned table.declaration assignments := by
      obtain ⟨new, assigned, -, rfl⟩ := updateRow_ok first
      exact ⟨declaration_replaceRow _ _ _, new, mem_replaceRow_self mem, _, assignRow_ok assigned⟩
    exact update_induction
      (motive := fun _ between => between.HasAssigned table.declaration assignments) start
      (fun _ _ _ _ held replaced => held.updateRow replaced) h

end Table

namespace Database

variable {db : Database} {table changed : Table}

/-- A declared table is found by every name that is like its own. -/
theorem Sound.exists_table? (sound : db.Sound) {declaration : Declaration} {name : String}
    (declared : declaration ∈ Catalog.tables) (about : sameName declaration.name name = true) :
    ∃ table, db.table? name = some table ∧ table ∈ db.tables ∧ table.declaration = declaration := by
  obtain ⟨own, member, rfl⟩ := sound.exists_table declared
  have known : (db.tables.find? fun other => sameName other.name name).isSome :=
    List.find?_isSome.mpr ⟨own, member, about⟩
  obtain ⟨table, found⟩ := Option.isSome_iff_exists.mp known
  obtain ⟨mem, named⟩ := mem_of_table? found
  have same : sameName own.name table.name = true :=
    sameName_trans about ((sameName_comm _ _).trans named)
  obtain rfl := sound.eq_of_sameName member mem same
  exact ⟨own, found, mem, rfl⟩

theorem mem_put_self (mem : table ∈ db.tables) (same : changed.declaration = table.declaration) :
    changed ∈ (db.put changed).tables := by
  have named : table.name = changed.name := congrArg Declaration.name same.symm
  exact List.mem_map.mpr ⟨table, mem, if_pos named⟩

/-- A table that stays as it is. -/
theorem Sound.put_self (sound : db.Sound) (mem : table ∈ db.tables) : db.put table = db := by
  have kept : db.tables.map (fun other => if other.name = table.name then table else other) =
      db.tables := by
    refine (List.map_congr_left fun other member => ?_).trans (List.map_id _)
    split
    · next named =>
      refine (sound.eq_of_sameName member mem ?_).symm
      rw [named]
      exact sameName_self _
    · rfl
  exact congrArg Database.mk kept

end Database

/-! ### Statements -/

/-- Where the cells that a statement writes obey a rule, the values that are given heed it. -/
theorem Sql.Statement.Fills.heeds {rule : Rule} {statement : Sql.Statement}
    (fills : statement.Fills rule) : statement.Heeds rule := by
  cases statement with
  | select => exact trivial
  | delete => exact trivial
  | update => exact fills
  | insert => exact fun _ declared named => Assignments.heed_of_new (fills _ declared named)

namespace Connection

variable {connection : Connection} {statement : Sql.Statement} {rule : Rule}

/-- **A statement keeps a rule exactly if it changes nothing or the cells that it writes obey the
rule.** -/
theorem run_obeys_iff (emptied : rule.Emptied) (enforced : connection.enforced = true)
    (sound : connection.database.Sound) (obeys : connection.database.Obeys rule) :
    (connection.run statement).2.database.Obeys rule ↔
      (connection.run statement).2.database = connection.database ∨ statement.Fills rule := by
  constructor
  · intro kept
    rcases effect_of_run statement connection with same | ⟨table, found, effect⟩
    · exact .inl same
    · obtain ⟨mem, named⟩ := Database.mem_of_table? found
      rw [enforced] at effect
      -- A declaration that the statement may be about is that of the table.
      have about {declaration : Declaration} (declared : declaration ∈ Catalog.tables)
          (same : sameName declaration.name (tableName statement) = true) :
          declaration = table.declaration := by
        obtain ⟨other, member, rfl⟩ := sound.exists_table declared
        rw [sameName_comm] at named
        rw [sound.eq_of_sameName member mem (sameName_trans same named)]
      generalize (connection.run statement).2.database = later at effect kept ⊢
      cases effect with
      | none => exact .inl rfl
      | delete => exact .inr trivial
      | insert inserted =>
        refine .inr fun declaration declared same => ?_
        rw [about declared same]
        obtain ⟨row, made, -, rfl⟩ := Database.exists_put_of_insert inserted
        have row_obeys := kept _ (Database.mem_put_self mem rfl) row
          (Table.mem_insertRow.mpr (.inl rfl))
        rw [Row.Obeys, (Table.newRow_ok made).1] at row_obeys
        exact row_obeys
      | @update name values conditions later updated =>
        obtain ⟨changed, made, -, rfl⟩ := Database.exists_put_of_update updated
        have declared' := Table.declaration_update made
        cases selected : table.rows.filter (table.selects conditions) with
        | nil =>
          rw [selected] at made
          cases made
          exact .inl (sound.put_self mem)
        | cons row rest =>
          refine .inr fun declaration declared same => ?_
          rw [about declared same]
          rw [selected] at made
          have inside : row ∈ table.rows :=
            List.mem_of_mem_filter (selected ▸ List.mem_cons_self)
          obtain ⟨-, written, member, cells, same⟩ := Table.exists_assigned inside made
          have row_obeys := kept _ (Database.mem_put_self mem declared') written member
          rw [Row.Obeys, same, declared'] at row_obeys
          exact Assignments.heed_of_assigned row_obeys
  · rintro (same | fills)
    · rw [same]
      exact obeys
    · exact run_obeys emptied fills enforced sound obeys

end Connection

end RowQuery
