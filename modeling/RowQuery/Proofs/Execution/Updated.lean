import RowQuery.Proofs.Execution.Statements
import RowQuery.Proofs.Execution.Written
import RowQuery.Proofs.Filter.Meaning
import RowQuery.Proofs.Store.Assignment
import RowQuery.Proofs.Store.Selection

/-!
# What an update changes

An update that succeeds assigns to the rows of which its filters hold, and to no others.

* `Traits.assigned?` is the value that an update assigns to a column, if it does.
* `Table.updatedRow` is a row after that.
* `Execution.performed_of_update` — an update that is not answered with a failure has been
  performed.
* `updated_exactly` — the tables after an update, row by row.
-/

namespace RowQuery

/-! ### What is assigned -/

/-- A column for the stamp of a change is spelt as the stamp is. -/
theorem Catalog.stamp_spelt : ∀ declaration ∈ tables, ∀ column ∈ declaration.columns,
    sameName column.name stampColumn = true → column.name = stampColumn := by
  decide +kernel

/-- The value that an update assigns to a column. The stamp of a change is that of the update,
whatever the record says; otherwise it is the stored form of the value in the record, if there is
one. -/
def Traits.assigned? (traits : Traits) (record : Fields) (now : Instant) (column : String) :
    Option Json :=
  if traits.stamped = true ∧ column = stampColumn then some (.string now.text)
  else (Fields.get? record column).map (traits.storedValue column)

/-- A row after an update: each column that a value is assigned to keeps that value in its own way,
and the others are as they were. -/
def Table.updatedRow (table : Table) (assigned? : String → Option Json) (row : Row) : Row where
  number := row.number
  cells := table.declaration.columns.map fun column =>
    match assigned? column.name with
    | some value => (Cell.bound value).keep column.type.storage
    | none => table.cell row column.name

namespace Execution

variable {traits : Traits} {record fields : Fields} {now : Instant} {declaration : Declaration}

theorem get?_changedRecord (traits : Traits) (record : Fields) (now : Instant) (column : String) :
    Fields.get? (changedRecord traits record now) column = traits.assigned? record now column := by
  have stored : Fields.get? (traits.toStorage record) column =
      (Fields.get? record column).map (traits.storedValue column) :=
    Fields.get?_map traits.storedValue record column
  rw [changedRecord, Traits.assigned?]
  by_cases stamped : traits.stamped = true
  · rw [if_pos stamped, Fields.get?_put, stored]
    by_cases same : stampColumn = column
    · rw [if_pos same, if_pos ⟨stamped, same.symm⟩]
    · rw [if_neg same, if_neg fun h => same h.2.symm]
  · rw [if_neg stamped, stored, if_neg fun h => stamped h.1]

theorem nodup_changedRecord (traits : Traits) (distinct : (Fields.names record).Nodup)
    (now : Instant) :
    (Fields.names (changedRecord traits record now)).Nodup := by
  rw [names_changedRecord, changedNames]
  split
  · exact Fields.nodup_addName distinct stampColumn
  · exact distinct

/-- Where the names of a record are those of columns and the table has a column for all that is
written, every name that is written is that of a column. -/
theorem exists_column_of_changed (declared : declaration ∈ Catalog.tables)
    (spelt : ∀ name ∈ Fields.names record, ∃ column ∈ declaration.columns, column.name = name)
    (known : (Assignments.ofFields (changedRecord traits record now)).unknown? declaration = none) :
    ∀ name ∈ Fields.names (changedRecord traits record now),
      ∃ column ∈ declaration.columns, column.name = name := by
  intro name mem
  have named : name ∈ Fields.names record ∨ name = stampColumn := by
    rw [names_changedRecord, changedNames] at mem
    split at mem
    · rw [Fields.addName] at mem
      split at mem
      · exact .inl mem
      · simpa using mem
    · exact .inl mem
  rcases named with old | rfl
  · exact spelt name old
  · -- The stamp has a column of some spelling, or else the update would have been refused.
    obtain ⟨field, written, same⟩ := List.mem_map.mp mem
    have listed : (field.1, Cell.bound field.2) ∈
        Assignments.ofFields (changedRecord traits record now) :=
      List.mem_map.mpr ⟨field, written, rfl⟩
    have found := List.find?_eq_none.mp (Option.map_eq_none_iff.mp known) _ listed
    have number : Declaration.isRowNumber stampColumn = false := by decide
    rw [same, number] at found
    obtain ⟨column, member, like⟩ : ∃ column ∈ declaration.columns,
        sameName column.name stampColumn = true := by
      simpa [Declaration.columnIndex?] using found
    exact ⟨column, member, Catalog.stamp_spelt declaration declared column member like⟩

theorem numbers_eq_nil
    (columns : ∀ name ∈ Fields.names fields, ∃ column ∈ declaration.columns, column.name = name) :
    (Assignments.ofFields fields).numbers declaration = [] := by
  rw [Assignments.numbers, List.map_eq_nil_iff, List.filter_eq_nil_iff]
  intro assignment listed
  obtain ⟨field, mem, rfl⟩ := List.mem_map.mp listed
  obtain ⟨column, inside, named⟩ := columns field.1 (List.mem_map_of_mem mem)
  obtain ⟨index, here⟩ := Option.isSome_iff_exists.mp (Catalog.columnIndex?_isSome inside)
  rw [named] at here
  simp [here]

/-- Where every name is that of a column and no name repeats, the value under the name of a column
is what is assigned to the column. -/
theorem getLast?_valuesFor {column : Column} (declared : declaration ∈ Catalog.tables)
    (distinct : (Fields.names fields).Nodup)
    (columns : ∀ name ∈ Fields.names fields, ∃ column ∈ declaration.columns, column.name = name)
    (mem : column ∈ declaration.columns) :
    ((Assignments.ofFields fields).valuesFor column.name).getLast? =
      (Fields.get? fields column.name).map Cell.bound := by
  have spelt : ∀ field ∈ fields, sameName field.1 column.name = true → field.1 = column.name := by
    intro field listed like
    obtain ⟨other, member, named⟩ := columns field.1 (List.mem_map_of_mem listed)
    rw [← named] at like ⊢
    rw [Catalog.eq_of_like declared mem member like]
  have single : (fields.like column.name).getLast? = (fields.like column.name).head? := by
    have names : ∀ field ∈ fields.like column.name, field.1 = column.name := fun field listed =>
      spelt field (Fields.mem_like.mp listed).1 (Fields.mem_like.mp listed).2
    have distinct' : ((fields.like column.name).map (·.1)).Nodup :=
      distinct.sublist (List.filter_sublist.map _)
    cases found : fields.like column.name with
    | nil => rfl
    | cons first rest =>
      cases rest with
      | nil => rfl
      | cons second rest =>
        -- Two fields for one column would have the same name.
        rw [found] at names distinct'
        have same : first.1 = second.1 := by
          rw [names first List.mem_cons_self, names second (by simp)]
        simp [same] at distinct'
  rw [Assignments.valuesFor_ofFields, List.getLast?_map, single, ← Fields.head?_like spelt,
    Option.map_map]
  rfl

end Execution

/-- A row that is assigned to, column by column. -/
theorem Table.assigned_eq {table : Table} {row : Row} {assignments : Assignments}
    {assigned? : String → Option Json} (declared : table.declaration ∈ Catalog.tables)
    (shaped : row.cells.length = table.declaration.columns.length)
    (values : ∀ column ∈ table.declaration.columns,
      (assignments.valuesFor column.name).getLast? = (assigned? column.name).map Cell.bound) :
    assigned table.declaration assignments row = table.updatedRow assigned? row := by
  have cells : assignedCells table.declaration assignments row.cells =
      (table.updatedRow assigned? row).cells := by
    -- Cell by cell, since the assignment goes along columns and cells at once.
    refine List.ext_getElem (by simp [assignedCells, updatedRow, shaped]) fun index lt lt' => ?_
    have inside : index < table.declaration.columns.length := by simpa [updatedRow] using lt'
    have inside' : index < row.cells.length := by omega
    have here := values _ (List.getElem_mem inside)
    have own : table.cell row table.declaration.columns[index].name = row.cells[index] := by
      rw [cell, Table.index, Catalog.columnIndex?_eq declared (List.getElem?_eq_getElem inside)]
      exact (List.getElem_eq_getD Cell.null).symm
    simp only [assignedCells, updatedRow, List.getElem_map, List.getElem_zip, here, own]
    cases assigned? table.declaration.columns[index].name <;> rfl
  rw [assigned, cells]
  rfl

namespace Execution

/-- What is written of a record is what is assigned to the columns. -/
theorem assigned_changed {traits : Traits} {record : Fields} {now : Instant} {table : Table}
    {row : Row} (declared : table.declaration ∈ Catalog.tables)
    (distinct : (Fields.names record).Nodup)
    (columns : ∀ name ∈ Fields.names (changedRecord traits record now),
      ∃ column ∈ table.declaration.columns, column.name = name)
    (shaped : row.cells.length = table.declaration.columns.length) :
    Table.assigned table.declaration (.ofFields (changedRecord traits record now)) row =
      table.updatedRow (traits.assigned? record now) row := by
  have distinct' := nodup_changedRecord traits distinct now
  refine Table.assigned_eq declared shaped fun column mem => ?_
  rw [getLast?_valuesFor declared distinct' columns mem, get?_changedRecord]

/-- Where all columns of filters exist, the conditions select the rows of which the filters hold. -/
theorem selects_iff_holds (schema : Schema) {request : Request} {table : Table} (row : Row)
    (present : ∀ filter ∈ request.filters, ∀ column ∈ filter.columns,
      (table.declaration.columnIndex? column).isSome) :
    table.selects (conditions schema request) row = true ↔
      ∀ filter ∈ request.filters, filter.Holds schema request.table table row :=
  Filter.selects_iff_holds present

/-- **An update that is not answered with a failure has been performed**, with the record in stored
form and with the conditions of its filters. -/
theorem performed_of_update {sources : Sources} {schema : Schema} {query : Query}
    {request : Request}
    {world : World Connection} {data : Json} (checked : query.check = .ok request)
    (method : request.method = .update)
    (answered : (query.execute Connection.engine sources schema world).1 = .ok data) :
    let values := changedRecord (schema.traits request.table) request.firstRecord
      (sources.instant world.draws.instants)
    ∃ table, world.state.Fit (.update request.table values (conditions schema request)) table ∧
      world.state.database.update world.state.enforced table (.ofFields values)
        (conditions schema request) =
          .ok (query.execute Connection.engine sources schema world).2.state.database := by
  intro values
  obtain ⟨draws, made⟩ := changes_apply sources schema request world
  have run := execute_eq Connection.engine sources schema request checked world
  have responds : attend Connection.engine sources schema request world =
      update Connection.engine sources schema request world := by
    show respond _ _ _ _ world = _
    rw [respond, method]
  rw [responds, update_eq, Run.bind_apply, made] at run
  dsimp only at run
  generalize query.execute Connection.engine sources schema world = done at answered run ⊢
  split at run
  · -- Without anything to write the answer is a failure.
    rw [run] at answered
    cases answered
  · have shows (rows : List Json) : ∃ data, updateAnswer request rows = .ok data := ⟨_, rfl⟩
    rcases write_cases (.update request.table values (conditions schema request))
      { world with draws } with ⟨fault, later, wrote, -⟩ | ⟨reply, between, later, ran, -, -⟩
    · rw [writeAndRead, Run.bind_apply, wrote] at run
      rw [run] at answered
      cases answered
    · obtain ⟨table, fit, performed⟩ := Connection.performed_of_run ran
      refine ⟨table, fit, ?_⟩
      rw [run]
      dsimp only
      rw [database_of_writeAndRead schema shows rfl .update, ran]
      exact Connection.update_of_perform performed

end Execution

open Classical in
/-- The tables after an update of one of them. The rows of which all filters held before are
assigned to; these filters, and the record, are those of a request. -/
def Database.Updated (schema : Schema) (request : Request) (now : Instant)
    (declaration : Declaration) (db later : Database) : Prop :=
  let assigned? := (schema.traits request.table).assigned? request.firstRecord now
  ∃ before ∈ db.tables, before.declaration = declaration ∧
    later.tables = db.tables.map fun table =>
      if table = before then
        ⟨declaration, before.rows.map fun row =>
          if ∀ filter ∈ request.filters, filter.Holds schema request.table before row
          then before.updatedRow assigned? row else row⟩
      else table

/-- **What an update changes.** In any store that is reached, an update of a declared table that
succeeds leaves every table as it is but the one that it is about. Of that table it assigns to the
rows of which all filters held before, and leaves every other row; a row that is assigned to keeps
its place and whatever is in columns of which the first record says nothing. -/
theorem updated_exactly (sources : Sources) (kind : Schema → Request → Prop)
    (world : World Connection) (reached : Reached sources kind world) (declaration : Declaration)
    (declared : declaration ∈ Catalog.tables) (schema : Schema) (query : Query) (request : Request)
    (checked : query.check = .ok request) (method : request.method = .update)
    (about : sameName declaration.name request.table = true)
    (spelt : ∀ field ∈ request.firstRecord, ∃ column ∈ declaration.columns, column.name = field.1)
    (present : ∀ filter ∈ request.filters, ∀ column ∈ filter.columns,
      (declaration.columnIndex? column).isSome) :
    let done := query.execute Connection.engine sources schema world
    ∀ data, done.1 = .ok data →
      world.state.database.Updated schema request (sources.instant world.draws.instants) declaration
        done.2.state.database := by
  intro done data answered
  obtain ⟨table, fit, updated⟩ := Execution.performed_of_update checked method answered
  obtain ⟨enforced, sound, obeys⟩ := reached.holds_admits
  obtain ⟨mem, named⟩ := Database.mem_of_table? (Connection.table?_of_findTable rfl fit.found)
  obtain rfl : table.declaration = declaration := by
    obtain ⟨other, member, rfl⟩ := sound.exists_table declared
    have same : sameName other.name table.name = true :=
      sameName_trans about ((sameName_comm _ _).trans named)
    rw [sound.eq_of_sameName member mem same]
  -- All that is written is for columns, so that no row gets another number.
  have known : (Assignments.ofFields (Execution.changedRecord (schema.traits request.table)
      request.firstRecord (sources.instant world.draws.instants))).unknown? table.declaration =
        none := Option.map_eq_none_iff.mp fit.columns
  have spelt' : ∀ name ∈ Fields.names request.firstRecord,
      ∃ column ∈ table.declaration.columns, column.name = name := by
    intro name listed
    obtain ⟨field, inside, rfl⟩ := List.mem_map.mp listed
    exact spelt field inside
  have columns := Execution.exists_column_of_changed declared spelt' known
  have numbers := Execution.numbers_eq_nil columns
  refine ⟨table, mem, rfl, ?_⟩
  -- Every other table is left alone; in this one, "selected" is "all filters hold" row by row.
  rw [sound.tables_update mem numbers updated]
  refine List.map_congr_left fun other _ => ?_
  split
  · refine congrArg (Table.mk table.declaration) (List.map_congr_left fun row inside => ?_)
    have selected := Execution.selects_iff_holds schema row present
    have written := Execution.assigned_changed declared request.nodup_firstRecord columns
      (obeys table mem row inside).length_eq
    classical
    exact if_congr selected written rfl
  · rfl

/-- Two people. -/
def couple : World Connection :=
  Query.executeAll Connection.engine (.steady 0 1000) Catalog.schema [
    .request (plainRequest .insert "people" [
      [("id", .string "p-1"), ("display_name", .string "An")],
      [("id", .string "p-2"), ("display_name", .string "Binh")]] [])] Execution.newStore

/-- A request to change one of them, which has a stamp of its own and a record too many. -/
def rename : Request :=
  plainRequest .update "people" [
    [("display_name", .string "Chi"), ("is_living", .string ""), ("updated_at", .string "now"),
      ("birth_year", .string "1901")],
    [("display_name", .string "Dung")]] [.equals "id" (.string "p-1")]

theorem updated_exactly_couple :
    let done := (Query.request rename).execute Connection.engine (.steady 0 1000) Catalog.schema
      couple
    done.1 = .ok .null ∧
      couple.state.database.Updated Catalog.schema rename
        ((Sources.steady 0 1000).instant couple.draws.instants) Catalog.people
          done.2.state.database ∧
      (done.2.state.database.table? "people").map (fun table => table.rows.map fun row =>
        ["id", "display_name", "is_living", "birth_year", "updated_at"].map (table.cell row)) =
          some [
          [.text "p-1", .text "Chi", .integer 0, .integer 1901, .text "1970-01-01T00:00:00.002Z"],
          [.text "p-2", .text "Binh", .integer 1, .null, .text "1970-01-01T00:00:00.001Z"]] := by
  intro done
  have reached : Reached (.steady 0 1000) (fun _ _ => True) couple :=
    Reached.new.queries Catalog.schema _ fun _ _ _ _ => trivial
  have declared : Catalog.people ∈ Catalog.tables := by decide
  have answered : done.1 = .ok .null := by decide +kernel
  have spelt : ∀ field ∈ rename.firstRecord,
      ∃ column ∈ Catalog.people.columns, column.name = field.1 := by decide +kernel
  have present : ∀ filter ∈ rename.filters, ∀ column ∈ filter.columns,
      (Catalog.people.columnIndex? column).isSome := by decide +kernel
  have changed := updated_exactly (.steady 0 1000) (fun _ _ => True) couple reached Catalog.people
    declared Catalog.schema (.request rename) rename rfl rfl (by decide) spelt present .null
    answered
  exact ⟨answered, changed, by decide +kernel⟩

end RowQuery
