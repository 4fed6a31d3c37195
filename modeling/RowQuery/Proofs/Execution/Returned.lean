import RowQuery.Proofs.Execution.Listing
import RowQuery.Proofs.Execution.Updated
import RowQuery.Proofs.Store.Insertion

/-!
# What an update returns

An update that asks for rows reads them with its filters, when it has been done. So it returns of
the rows that it has changed those of which the filters still hold, and no others.

* `Request.Assigns` are the columns that an update assigns to.
* `Request.Returns` says what has become of the rows that matched, and which of them are returned.
* `returns_changed_rows` — the answer of an update that asks for rows.
-/

namespace RowQuery

/-- The columns that an update assigns to: those of the record, and the stamp of a change. -/
def Request.Assigns (request : Request) (schema : Schema) (name : String) : Prop :=
  name ∈ Fields.names request.firstRecord ∨
    (schema.traits request.table).stamped = true ∧ name = stampColumn

open Classical in
/-- What an update has made of the rows of a table, and which of them it returns. With each row of
which all filters held before goes what it has become; the other rows are as they were. Of what has
become of rows those are returned of which the filters still hold, each once. -/
structure Request.Returns (request : Request) (schema : Schema) (values : Fields)
    (before after : Table) (changed : List (Row × Row)) (returned : List Row) : Prop where
  matched : changed.map Prod.fst = before.rows.filter fun row =>
    ∀ filter ∈ request.filters, filter.Holds schema request.table before row
  assigned : ∀ pair ∈ changed,
    Table.assignRow before.declaration (.ofFields values) pair.1 = .ok pair.2
  rows : after.rows.Perm (changed.map Prod.snd ++ before.rows.filter fun row =>
    ¬∀ filter ∈ request.filters, filter.Holds schema request.table before row)
  kept : returned.Perm ((changed.map Prod.snd).filter fun row =>
    ∀ filter ∈ request.filters, filter.Holds schema request.table after row)
  found : returned.Perm (after.rows.filter fun row =>
    ∀ filter ∈ request.filters, filter.Holds schema request.table after row)
  once : returned.Nodup

namespace Execution

variable {sources : Sources} {schema : Schema} {request : Request} {world : World Connection}
  {declaration : Declaration}

/-- A write that is read back stops, or yields what is there in the end. -/
theorem writeAndRead_cases (schema : Schema) (wants : request.wantsRows = true)
    (declared : declaration ∈ Catalog.tables)
    (about : sameName declaration.name request.table = true) (present : List Json → Answer)
    (writing : Sql.Statement) (conditions : List Sql.Condition) (world : World Connection)
    (held : world.state.Holds Column.Admits) :
    let done := writeAndRead Connection.engine schema request present writing conditions world
    (∃ fault, done.1 = .error fault) ∨ ∃ rows, done.1 = .ok (present rows) ∧
      done.2.state.Holds Column.Admits ∧ fetch Connection.engine schema request.table
        (readBackStatement request conditions) done.2 = (.ok rows, done.2) := by
  intro done
  have run : done = (Run.write Connection.engine writing >>= fun _ =>
    readBack Connection.engine schema request present conditions) world := rfl
  rw [Run.bind_apply] at run
  have heeds := Sql.Statement.heeds_admits writing
  obtain ⟨kept, -⟩ := write_maintains (heeds.preserves Rule.natural_admits) world held
  rcases wrote : Run.write Connection.engine writing world with ⟨fault | _, between⟩
  · rw [wrote] at run
    exact .inl ⟨fault, congrArg Prod.fst run⟩
  · rw [wrote] at run kept
    dsimp only at run kept
    rw [readBack, if_pos wants, Run.bind_apply] at run
    rcases fetched : fetch Connection.engine schema request.table
        (readBackStatement request conditions) between with ⟨fault | rows, later⟩
    · rw [fetched] at run
      exact .inl ⟨fault, congrArg Prod.fst run⟩
    · obtain ⟨rfl, -⟩ := exists_fetched kept.sound declared about fetched
      rw [fetched] at run
      refine .inr ⟨rows, congrArg Prod.fst run, ?_⟩
      rw [run]
      exact ⟨kept, fetched⟩

/-- An update that asks for rows and is not answered with a failure reads the tables as they are in
the end. -/
theorem fetched_of_update {query : Query} {data : Json}
    (held : world.state.Holds Column.Admits) (checked : query.check = .ok request)
    (method : request.method = .update) (wants : request.wantsRows = true)
    (many : request.single = false) (declared : declaration ∈ Catalog.tables)
    (about : sameName declaration.name request.table = true)
    (answered : (query.execute Connection.engine sources schema world).1 = .ok data) :
    let done := query.execute Connection.engine sources schema world
    done.2.state.Holds Column.Admits ∧ ∃ rows, data = .array rows ∧
      fetch Connection.engine schema request.table
        (readBackStatement request (conditions schema request)) done.2 = (.ok rows, done.2) := by
  intro done
  obtain ⟨draws, made⟩ := changes_apply sources schema request world
  have run : done = _ := execute_respond checked world
  simp only [respond, method, update_eq, Run.bind_apply, made] at run
  change done.1 = _ at answered
  clear_value done
  split at run
  · -- Without anything to write the answer is a failure.
    rw [run] at answered
    cases answered
  · rcases writeAndRead_cases schema wants declared about (updateAnswer request)
      (.update request.table (changedRecord (schema.traits request.table) request.firstRecord
        (sources.instant world.draws.instants)) (conditions schema request))
      (conditions schema request) { world with draws } held with
      ⟨fault, failed⟩ | ⟨rows, yielded, kept, fetched⟩
    · rw [run, failed] at answered
      cases answered
    · rw [run, yielded] at answered
      rw [run]
      refine ⟨kept, rows, ?_, fetched⟩
      rw [conclude, updateAnswer, many] at answered
      cases answered
      rfl

end Execution

namespace Request

variable {request : Request} {schema : Schema} {before after : Table} {values : Fields}

/-- A cell depends on the declaration of its table only. -/
theorem cell_congr (same : after.declaration = before.declaration) (row : Row) (column : String) :
    after.cell row column = before.cell row column := by
  rw [Table.cell, Table.cell, Table.index, Table.index, same]

/-- What is written has the columns that are assigned to. -/
theorem assigns_of_mem {now : Instant} {name : String}
    (mem : name ∈ Fields.names (Execution.changedRecord (schema.traits request.table)
      request.firstRecord now)) : request.Assigns schema name := by
  rw [Execution.names_changedRecord, Execution.changedNames] at mem
  split at mem
  · next stamped =>
    exact (Fields.mem_addName_iff.mp mem).imp_right fun same => ⟨stamped, same⟩
  · exact .inl mem

/-- A filter still holds of a row if nothing is assigned to columns that it looks at. -/
theorem holds_of_assigned (same : after.declaration = before.declaration) {row new : Row}
    (shaped : row.cells.length = before.declaration.columns.length)
    (written : Table.assignRow before.declaration (.ofFields values) row = .ok new)
    {filter : Filter}
    (apart : ∀ name ∈ Fields.names values, ∀ column ∈ filter.columns,
      sameName name column = false)
    (holds : filter.Holds schema request.table before row) :
    filter.Holds schema request.table after new := by
  refine (Filter.holds_congr same fun column looked => ?_).mpr holds
  rw [cell_congr same]
  refine Table.cell_of_assignRow written shaped fun assignment mem => ?_
  obtain ⟨field, listed, rfl⟩ := List.mem_map.mp mem
  exact apart field.1 (List.mem_map_of_mem listed) column looked

/-- What an update makes of a table, and what its filters find there when it has been done. -/
theorem exists_returns (sound : before.Sound) (sound' : after.Sound)
    (made : before.update (.ofFields values)
      (before.rows.filter (before.selects (Execution.conditions schema request))) = .ok after)
    (present : ∀ filter ∈ request.filters, ∀ column ∈ filter.columns,
      (before.declaration.columnIndex? column).isSome) {returned : List Row}
    (found : returned.Perm
      (after.rows.filter (after.selects (Execution.conditions schema request)))) :
    ∃ changed, request.Returns schema values before after changed returned := by
  classical
  have same := Table.declaration_update made
  rw [filter_selects present] at made
  rw [filter_selects (same ▸ present)] at found
  obtain ⟨news, become, rows⟩ :=
    Table.update_perm sound (List.filter_append_perm _ before.rows).symm made
  obtain ⟨lengths, become⟩ := List.forall₂_iff_zip.mp become
  have snd : (List.zip _ news).map Prod.snd = news := List.map_snd_zip (Nat.le_of_eq lengths.symm)
  refine ⟨List.zip _ news, List.map_fst_zip (Nat.le_of_eq lengths), fun pair mem => become mem, ?_,
    ?_, found, ?_⟩
  · rw [snd]
    refine rows.trans (.append_left _ (.of_eq (List.filter_congr fun row _ => ?_)))
    rw [decide_not]
  · -- Of the rows that were left alone the filters do not hold now either.
    rw [snd]
    refine found.trans ((rows.filter _).trans ?_)
    rw [List.filter_append]
    refine (List.Perm.append_left _ (.of_eq (List.filter_eq_nil_iff.mpr ?_))).trans
      (.of_eq (List.append_nil _))
    intro row listed
    obtain ⟨-, unmatched⟩ := List.mem_filter.mp listed
    simp only [Bool.not_eq_true', decide_eq_false_iff_not, decide_eq_true_eq] at unmatched ⊢
    exact fun holds => unmatched fun filter mem =>
      (Filter.holds_congr same fun column _ => cell_congr same row column).mp (holds filter mem)
  · exact found.nodup_iff.mpr (sound'.nodup.filter _)

/-- Where nothing is assigned to columns that filters look at, all rows that have been changed are
returned. -/
theorem Returns.all {changed : List (Row × Row)} {returned : List Row}
    (returns : request.Returns schema values before after changed returned)
    (same : after.declaration = before.declaration)
    (shaped : ∀ row ∈ before.rows, row.cells.length = before.declaration.columns.length)
    (apart : ∀ name ∈ Fields.names values, ∀ filter ∈ request.filters,
      ∀ column ∈ filter.columns, sameName name column = false) :
    returned.Perm (changed.map Prod.snd) := by
  classical
  refine returns.kept.trans (.of_eq (List.filter_eq_self.mpr fun new listed => ?_))
  obtain ⟨pair, mem, rfl⟩ := List.mem_map.mp listed
  have matched : pair.1 ∈ changed.map Prod.fst := List.mem_map_of_mem mem
  rw [returns.matched] at matched
  obtain ⟨inside, holds⟩ := List.mem_filter.mp matched
  refine decide_eq_true fun filter looked => ?_
  exact holds_of_assigned same (shaped _ inside) (returns.assigned pair mem)
    (fun name named => apart name named filter looked) (of_decide_eq_true holds filter looked)

end Request

/-- **What an update returns.** In any store that is reached, an update of a declared table that
asks for rows and succeeds, with columns that exist in its filters, returns rows as they are in the
end: of the rows of which all filters held before, those of which they still hold. So a row that was
not changed is never returned. If no column is assigned to that a filter looks at, all rows are
returned that have been changed. -/
theorem returns_changed_rows (sources : Sources) (kind : Schema → Request → Prop)
    (world : World Connection) (reached : Reached sources kind world) (declaration : Declaration)
    (declared : declaration ∈ Catalog.tables) (schema : Schema) (query : Query) (request : Request)
    (checked : query.check = .ok request) (method : request.method = .update)
    (about : sameName declaration.name request.table = true) (wants : request.wantsRows = true)
    (many : request.single = false)
    (present : ∀ filter ∈ request.filters, ∀ column ∈ filter.columns,
      (declaration.columnIndex? column).isSome) :
    let done := query.execute Connection.engine sources schema world
    let values := Execution.changedRecord (schema.traits request.table) request.firstRecord
      (sources.instant world.draws.instants)
    ∀ data, done.1 = .ok data →
      ∃ before ∈ world.state.database.tables, before.declaration = declaration ∧
        ∃ after ∈ done.2.state.database.tables, after.declaration = declaration ∧
          ∃ changed returned, request.Returns schema values before after changed returned ∧
            data = .array (returned.map
              (after.shown (schema.traits request.table) (Execution.projection request))) ∧
            ((∀ name, request.Assigns schema name → ∀ filter ∈ request.filters,
                ∀ column ∈ filter.columns, sameName name column = false) →
              returned.Perm (changed.map Prod.snd)) := by
  intro done values data answered
  obtain ⟨table, fit, updated⟩ := Execution.performed_of_update checked method answered
  have held := reached.holds_admits
  obtain ⟨held', rows, rfl, fetched⟩ :=
    Execution.fetched_of_update held checked method wants many declared about answered
  obtain ⟨own, found, mem, rfl⟩ := held.sound.exists_table? declared about
  have same : some table = some own :=
    (Connection.table?_of_findTable rfl fit.found).symm.trans found
  cases same
  obtain ⟨-, after, mem', declares, listed, perm, rfl⟩ :=
    Execution.exists_fetched held'.sound declared about fetched
  obtain ⟨changed, made, -, put⟩ := Database.exists_put_of_update updated
  have own : changed = after := by
    have there : changed ∈ done.2.state.database.tables := by
      rw [put]
      exact Database.mem_put_self mem (Table.declaration_update made)
    refine held'.sound.eq_of_sameName there mem' ?_
    rw [Table.name, Table.name, Table.declaration_update made, declares]
    exact sameName_self _
  subst own
  have sorted : (Table.cut none (changed.sort [] listed)).Perm listed := List.mergeSort_perm _ _
  obtain ⟨pairs, returns⟩ := Request.exists_returns (held.sound.tables table mem)
    (held'.sound.tables changed mem') made present (sorted.trans perm)
  refine ⟨table, mem, rfl, changed, mem', declares, pairs, _, returns, rfl, fun apart => ?_⟩
  refine returns.all declares (fun row inside => (held.obeys table mem row inside).length_eq)
    fun name named => apart name (Request.assigns_of_mem named)

/-- A request to change those with a year or a name, and to return them. -/
def redate : Request where
  table := "people"
  method := .update
  columns := some "id, birth_year"
  body := .record (.ofPairs [("birth_year", .integer 1900)])
  filters := [.anyOf "birth_year.eq.1920,display_name.eq.Chi"]
  order := []
  limit := none
  single := false
  maybeSingle := false

/-- Three people are changed, but those who were found by the year are not found any more. -/
theorem returns_changed_rows_redate :
    let done := (Query.request redate).execute Connection.engine (.steady 0 1) Catalog.schema
      neighbours
    done.1 = .ok (.array [.object [("id", .string "p-3"), ("birth_year", .integer 1900)]]) ∧
      (done.2.state.database.table? "people").map (fun table => table.rows.map fun row =>
        table.cell row "birth_year") =
          some [.integer 1900, .null, .integer 1900, .integer 1900, .null] := by
  intro done
  have reached : Reached (.steady 0 1) (fun _ _ => True) neighbours :=
    Reached.new.queries Catalog.schema _ fun _ _ _ _ => trivial
  have present : ∀ filter ∈ redate.filters, ∀ column ∈ filter.columns,
      (Catalog.people.columnIndex? column).isSome := by decide +kernel
  have told : done.1.isOk = true ∧
      (∀ table ∈ done.2.state.database.tables, table.declaration = Catalog.people →
        (table.rows.filter (table.selects (Execution.conditions Catalog.schema redate))).map
          (table.shown (Catalog.schema.traits redate.table) (Execution.projection redate)) =
            [.object [("id", .string "p-3"), ("birth_year", .integer 1900)]]) ∧
      (done.2.state.database.table? "people").map (fun table => table.rows.map fun row =>
        table.cell row "birth_year") =
          some [.integer 1900, .null, .integer 1900, .integer 1900, .null] := by decide +kernel
  obtain ⟨succeeds, found, years⟩ := told
  cases answered : done.1 with
  | error failure =>
    rw [answered] at succeeds
    cases succeeds
  | ok data =>
    have answer := returns_changed_rows (.steady 0 1) (fun _ _ => True) neighbours reached
      Catalog.people (by decide) Catalog.schema (.request redate) redate rfl rfl (by decide) rfl rfl
      present data
    have same : (Query.request redate).execute Connection.engine (.steady 0 1) Catalog.schema
      neighbours = done := rfl
    rw [same] at answer
    obtain ⟨before, -, -, after, mem, declares, changed, returned, returns, rfl, -⟩ :=
      answer answered
    have one := returns.found.map
      (after.shown (Catalog.schema.traits redate.table) (Execution.projection redate))
    rw [← Request.filter_selects (declares ▸ present), found after mem declares] at one
    rw [List.perm_singleton.mp one]
    exact ⟨rfl, years⟩

end RowQuery
