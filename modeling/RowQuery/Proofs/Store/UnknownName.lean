import RowQuery.Proofs.Execution.Answer
import RowQuery.Proofs.Execution.Stored
import RowQuery.Proofs.Store.Refusal
import RowQuery.Proofs.Store.Success

/-!
# Names that are no columns

What becomes of a name in a filter that is no column of the table: it is a text, and so no mistake.

* `Table.truth_of_lacks` — a condition whose names are no columns is true of all rows or of none.
* `Execution.undefinedColumn_iff_and_truth_constant` — when a request that does not insert is
  answered with the code of an unknown column. Filters have no part in it.
-/

namespace RowQuery

/-! ### Conditions without columns -/

/-- The names in a condition. -/
def Sql.Condition.names : Sql.Condition → List String
  | compare term => [term.column]
  | oneOf column _ | isNull column | notNull column | like column _ => [column]
  | never => []
  | anyOf terms => terms.map (·.column)

namespace Table

/-- Whether a name is no column of a table, and not the number of its rows either. -/
def Lacks (table : Table) (name : String) : Prop :=
  table.declaration.columnIndex? name = none ∧ Declaration.isRowNumber name = false
deriving Decidable

variable {table : Table} {condition : Sql.Condition}

/-- A name that is no column is a text, whatever the row. -/
theorem read_of_lacks {name : String} (h : table.Lacks name) (row : Row) :
    row.read (table.declaration.source name) = .text name := by
  rw [Declaration.source, h.1]
  simp only [h.2]
  rfl

theorem compareWith_of_lacks {name : String} (h : table.Lacks name) (row other : Row)
    (value : Json) : table.compareWith row name value = table.compareWith other name value := by
  rw [compareWith, compareWith, read_of_lacks h, read_of_lacks h]

theorem termTruth_of_lacks {term : Sql.Term} (h : table.Lacks term.column) (row other : Row) :
    table.termTruth row term = table.termTruth other term := by
  rw [termTruth, termTruth, compareWith_of_lacks h row other]

/-- A condition whose names are no columns is true of all rows or of none. -/
theorem truth_of_lacks (h : ∀ name ∈ condition.names, table.Lacks name) (row other : Row) :
    table.truth row condition = table.truth other condition := by
  cases condition with
  | never => rfl
  | compare term =>
    rw [truth, truth]
    exact termTruth_of_lacks (h _ (List.mem_singleton_self _)) row other
  | oneOf column values =>
    have lacks := h column (List.mem_singleton_self _)
    rw [truth, truth]
    simp only [compareWith_of_lacks lacks row other]
  | isNull column =>
    have lacks := h column (List.mem_singleton_self _)
    rw [truth, truth, read_of_lacks lacks, read_of_lacks lacks]
  | notNull column =>
    have lacks := h column (List.mem_singleton_self _)
    rw [truth, truth, read_of_lacks lacks, read_of_lacks lacks]
  | like column pattern =>
    have lacks := h column (List.mem_singleton_self _)
    rw [truth, truth, read_of_lacks lacks, read_of_lacks lacks]
  | anyOf terms =>
    rw [truth, truth]
    refine congrArg Truth.any (List.map_congr_left fun term mem => ?_)
    exact termTruth_of_lacks (h _ (List.mem_map_of_mem mem)) row other

end Table

/-! ### Requests -/

namespace Execution

open Connection Fault

variable {sources : Sources} {schema : Schema} {request : Request} {world : World Connection}

/-- What a select yields is never the code of an unknown column. -/
theorem code?_ne_of_fetch {name : String} {projection : Sql.Projection} {table : String}
    {conditions : List Sql.Condition} {order : List OrderTerm} {limit : Option Int} {fault : Fault}
    (h : (fetch Connection.engine schema name (.select projection table conditions order limit)
      world).1 = .error fault) : fault.code? ≠ some undefinedColumn := by
  intro code
  rw [fetch, Run.bind_apply, query_apply] at h
  cases ran : (world.state.run (.select projection table conditions order limit)).1 with
  | ok reply =>
    rw [ran] at h
    cases h
  | error found =>
    rw [ran] at h
    cases h
    obtain ⟨-, _, _, -, column, -⟩ := columnRefusal?_of_run (fun written => by cases written)
      ran code
    cases column

/-- Only a column that it writes has a write to a table refused for an unknown column. -/
theorem columnRefusal?_of_write {statement : Sql.Statement} {table : Table} {fault : Fault}
    (h : (Run.write Connection.engine statement world).1 = .error fault)
    (found : world.state.database.table? (tableName statement) = some table)
    (code : fault.code? = some undefinedColumn) :
    textRefusal? statement = none ∧
      ∃ f, columnRefusal? table.declaration statement = some f ∧ fault = f.fault := by
  have known : (world.state.database.table? (tableName statement)).isSome := by
    rw [found]
    rfl
  obtain ⟨text, missed, f, found', column, rfl⟩ :=
    columnRefusal?_of_run (fun _ => known) (error_of_write h) code
  rw [findTable_eq found] at found'
  cases found'
  exact ⟨text, f, column, rfl⟩

/-- A write that is refused leaves the world as it is. -/
theorem write_of_refused {statement : Sql.Statement} {fault : Fault}
    (refused : world.state.run statement = (.error fault, world.state)) :
    Run.write Connection.engine statement world = (.error fault, world) := by
  have queried : Run.query Connection.engine statement world = (.error fault, world) := by
    rw [query_apply, refused]
  show (Run.query Connection.engine statement >>= _) world = _
  rw [Run.bind_apply, queried]

section Refused

variable {table : Table} {fault : Fault}

/-- A delete is never refused for an unknown column. -/
theorem code?_ne_of_delete (found : world.state.database.table? request.table = some table)
    (h : (delete Connection.engine schema request world).1 = .error fault) :
    fault.code? ≠ some undefinedColumn := by
  intro code
  rw [delete] at h
  rcases Run.error_of_bind h with failed | ⟨_, -, answered⟩
  · obtain ⟨-, _, column, -⟩ := columnRefusal?_of_write failed found code
    cases column
  · cases answered

/-- A select is never refused for an unknown column. -/
theorem code?_ne_of_select (h : (select Connection.engine schema request world).1 = .error fault) :
    fault.code? ≠ some undefinedColumn := by
  rw [select] at h
  rcases Run.error_of_bind h with failed | ⟨_, -, answered⟩
  · exact code?_ne_of_fetch failed
  · cases answered

/-- An update is refused for an unknown column only if it writes one. -/
theorem unknown?_of_update (found : world.state.database.table? request.table = some table)
    (h : (update Connection.engine sources schema request world).1 = .error fault)
    (code : fault.code? = some undefinedColumn) :
    let values := changedRecord (schema.traits request.table) request.firstRecord
      (sources.instant world.draws.instants)
    textRefusal? (.update request.table values (conditions schema request)) = none ∧
      ∃ name, (Assignments.ofFields values).unknown? table.declaration = some name ∧
        fault = (StoreFault.noColumn name).fault := by
  intro values
  obtain ⟨draws, applied⟩ := changes_apply sources schema request world
  rw [update, Run.bind_apply, applied] at h
  change ((if values.isEmpty then _ else _ : Run Connection Answer) _).1 = _ at h
  by_cases empty : values.isEmpty
  · rw [if_pos empty] at h
    cases h
  · rw [if_neg empty] at h
    rcases Run.error_of_bind h with failed | ⟨_, -, later⟩
    · obtain ⟨text, f, column, rfl⟩ := columnRefusal?_of_write failed found code
      obtain ⟨name, unknown, rfl⟩ := Option.map_eq_some_iff.mp column
      exact ⟨text, name, unknown, rfl⟩
    · -- The write has been done. What is read back afterwards is not refused for its columns.
      by_cases reads : request.wantsRows
      · rw [if_pos reads] at later
        rcases Run.error_of_bind later with failed | ⟨_, -, answered⟩
        · exact absurd code (code?_ne_of_fetch failed)
        · cases answered
      · rw [if_neg reads] at later
        cases later

/-- A fault with the code of an unknown column comes from an update and a column that it writes. -/
theorem unknown?_of_respond (found : world.state.database.table? request.table = some table)
    (other : request.method ≠ .insert)
    (h : (respond Connection.engine sources schema request world).1 = .error fault)
    (code : fault.code? = some undefinedColumn) :
    let values := changedRecord (schema.traits request.table) request.firstRecord
      (sources.instant world.draws.instants)
    request.method = .update ∧
      textRefusal? (.update request.table values (conditions schema request)) = none ∧
      ∃ name, (Assignments.ofFields values).unknown? table.declaration = some name ∧
        fault = (StoreFault.noColumn name).fault := by
  intro values
  rw [respond] at h
  cases method : request.method with
  | insert => exact absurd method other
  | select =>
    rw [method] at h
    exact absurd code (code?_ne_of_select h)
  | delete =>
    rw [method] at h
    exact absurd code (code?_ne_of_delete found h)
  | update =>
    rw [method] at h
    exact ⟨rfl, unknown?_of_update found h code⟩

/-- An update that writes an unknown column is refused, and the connection stays as it is. -/
theorem update_of_unknown? {name : String}
    (found : world.state.database.table? request.table = some table) :
    let values := changedRecord (schema.traits request.table) request.firstRecord
      (sources.instant world.draws.instants)
    textRefusal? (.update request.table values (conditions schema request)) = none →
    (Assignments.ofFields values).unknown? table.declaration = some name →
    ∃ draws, update Connection.engine sources schema request world =
      (.error (StoreFault.noColumn name).fault, { world with draws }) := by
  intro values text unknown
  obtain ⟨draws, applied⟩ := changes_apply sources schema request world
  refine ⟨draws, ?_⟩
  have nonempty : ¬values.isEmpty = true := by
    intro empty
    rw [List.isEmpty_iff] at empty
    rw [empty] at unknown
    cases unknown
  have column : columnRefusal? table.declaration
      (.update request.table values (conditions schema request)) =
        some (.noColumn name) := by
    rw [columnRefusal?, unknown]
    rfl
  have refused := run_of_columnRefusal? text (findTable_eq found) column
  have written : Run.write Connection.engine
      (.update request.table values (conditions schema request)) { world with draws } =
        (.error (StoreFault.noColumn name).fault, { world with draws }) := write_of_refused refused
  rw [update, Run.bind_apply, applied]
  change ((if values.isEmpty then _ else _ : Run Connection Answer) _) = _
  rw [if_neg nonempty, Run.bind_apply, written]

end Refused

/-- **A filter on an unknown column is a condition and no mistake.** A request that does not insert
is answered with the code of an unknown column, nothing being changed, if and only if it is an
update, and one of the columns that it writes is unknown. A condition on unknown columns only has
the same value on every row. -/
theorem undefinedColumn_iff_and_truth_constant (sources : Sources) (schema : Schema) (query : Query)
    (request : Request) (world : World Connection) (table : Table)
    (checked : query.check = .ok request)
    (found : world.state.database.table? request.table = some table)
    (other : request.method ≠ .insert) :
    let values := changedRecord (schema.traits request.table) request.firstRecord
      (sources.instant world.draws.instants)
    let done := query.execute Connection.engine sources schema world
    (((∃ failure, done.1 = .error failure ∧ failure.code = some undefinedColumn) ∧
          done.2.state.database = world.state.database) ↔
        request.method = .update ∧
          textRefusal? (.update request.table values (conditions schema request)) = none ∧
          ∃ name, (Assignments.ofFields values).unknown? table.declaration = some name ∧
            (StoreFault.noColumn name).fault.code? = some undefinedColumn) ∧
      ∀ condition ∈ conditions schema request, (∀ name ∈ condition.names, table.Lacks name) →
        ∃ constant, ∀ row, table.truth row condition = constant := by
  intro values done
  have answered : done = answer Connection.engine sources schema request world := by
    show query.execute _ _ _ _ = _
    rw [Query.execute, checked]
  rw [answered]
  refine ⟨⟨?_, ?_⟩, fun _ _ lacks => ⟨_, fun row => Table.truth_of_lacks lacks row ⟨0, []⟩⟩⟩
  · rintro ⟨⟨failure, failed, code⟩, -⟩
    -- Of the failures only that of a fault has a code that a name could be the cause of.
    rcases error_of_answer failed with rfl | rfl | ⟨fault, stopped, rfl⟩
    · exact absurd code (by decide)
    · exact absurd code (by decide)
    · rw [Failure.code_ofFault] at code
      obtain ⟨updates, text, name, unknown, rfl⟩ := unknown?_of_respond found other stopped code
      exact ⟨updates, text, name, unknown, code⟩
  · rintro ⟨updates, text, name, unknown, code⟩
    obtain ⟨draws, updated⟩ := update_of_unknown? found text unknown
    have stopped : respond Connection.engine sources schema request world =
        (.error (StoreFault.noColumn name).fault, { world with draws }) := by
      rw [respond, updates]
      exact updated
    refine ⟨⟨_, answer_of_fault (congrArg Prod.fst stopped), ?_⟩, ?_⟩
    · rw [Failure.code_ofFault]
      exact code
    · rw [answer_world]
      exact congrArg (·.2.state.database) stopped

/-- A request to change people by a record, with a filter on a column that they do not have. -/
def misspelt (method : Method) (record : Fields) : Request where
  table := "people"
  method := method
  columns := none
  body := .record (.ofPairs record)
  filters := [.differs "nope" .neq (.string "x")]
  order := []
  limit := none
  single := false
  maybeSingle := false

/-- A new store after the insert of a person. -/
def onePerson : World Connection :=
  let record : Fields := [("id", .string "p-1"), ("display_name", .string "An")]
  ((Query.request (misspelt .insert record)).execute Connection.engine (.steady 0 1) Catalog.schema
    ⟨.opened Database.empty.create, Draws.none⟩).2

/-- The people of that store. -/
def peopleTable : Table :=
  (onePerson.state.database.table? "people").getD (.empty Catalog.people)

theorem undefinedColumn_iff_and_truth_constant_misspelt :
    onePerson.state.database.table? "people" = some peopleTable ∧
      let done := (Query.request (misspelt .update [("mistake", .null)])).execute Connection.engine
        (.steady 0 1) Catalog.schema onePerson
      ((∃ failure, done.1 = .error failure ∧ failure.code = some undefinedColumn) ∧
          done.2.state.database = onePerson.state.database) ∧
        ∃ constant, ∀ row, peopleTable.truth row (.compare ⟨"nope", .ne, .string "x"⟩) =
          constant := by
  have found : onePerson.state.database.table? "people" = some peopleTable := by decide +kernel
  have text : textRefusal? (.update "people"
      (changedRecord (Catalog.schema.traits "people") [("mistake", .null)]
        (Sources.instant (.steady 0 1) onePerson.draws.instants))
      (conditions Catalog.schema (misspelt .update [("mistake", .null)]))) = none := by
    decide +kernel
  have unknown : (Assignments.ofFields
      (changedRecord (Catalog.schema.traits "people") [("mistake", .null)]
        (Sources.instant (.steady 0 1) onePerson.draws.instants))).unknown?
      peopleTable.declaration = some "mistake" := by decide +kernel
  have code : (StoreFault.noColumn "mistake").fault.code? = some undefinedColumn := by decide
  obtain ⟨told, constant⟩ := undefinedColumn_iff_and_truth_constant (.steady 0 1) Catalog.schema
    (.request (misspelt .update [("mistake", .null)])) (misspelt .update [("mistake", .null)])
    onePerson peopleTable rfl found (by decide)
  refine ⟨found, told.mpr ⟨rfl, text, "mistake", unknown, code⟩, ?_⟩
  exact constant _ (List.mem_singleton.mpr rfl) (by decide +kernel)

/-- A delete is not refused: its filter is on no column, and holds of every row. -/
theorem execute_misspelt_delete :
    onePerson.state.database.table? "people" = some peopleTable ∧ peopleTable.rows.length = 1 ∧
      (conditions Catalog.schema (misspelt .delete [])).map (·.names) = [["nope"]] ∧
      peopleTable.Lacks "nope" ∧
      let done := (Query.request (misspelt .delete [])).execute Connection.engine (.steady 0 1)
        Catalog.schema onePerson
      done.1 = .ok .null ∧
        (done.2.state.database.table? "people").map (·.rows.length) = some 0 := by
  refine ⟨by decide +kernel, by decide +kernel, by decide +kernel, by decide +kernel, ?_,
    by decide +kernel⟩
  have answered : ((Query.request (misspelt .delete [])).execute Connection.engine (.steady 0 1)
      Catalog.schema onePerson).1.toOption = some .null := by decide +kernel
  generalize Prod.fst (Query.execute _ _ _ _ _) = answer at answered ⊢
  cases answer with
  | error failure => cases answered
  | ok value => exact congrArg Except.ok (Option.some.inj answered)

end Execution

end RowQuery
