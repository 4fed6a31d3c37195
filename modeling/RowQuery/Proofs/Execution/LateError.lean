import RowQuery.Proofs.Execution.Composition
import RowQuery.Proofs.Execution.Stored
import RowQuery.Proofs.Store.ReadBack

/-!
# Errors after the write

A write is committed before the rows that are asked for are read back. Where they cannot be read,
the answer is an error, and what was written stays.

* `Request.quiet` is a request that asks for no rows.
* `Execution.writeAndRead` is what updates and inserts of one record have in common;
  `Execution.insert_eq` and `Execution.update_eq` say so.
* `Execution.failed_and_changed_iff` — an answer is an error in spite of a change if and only if
  something is wrong with the columns that are asked for. What is written does not depend on them.
-/

namespace RowQuery

/-- A request without the columns that it asks for. -/
def Request.quiet (request : Request) : Request := { request with columns := none }

namespace Execution

open Connection (tableName)
open Sql.Statement (ReadBackBy)

/-! ### One write and one select -/

section Shape

variable {σ : Type} (engine : Engine σ) (sources : Sources) (schema : Schema) (request : Request)

/-- The select that reads rows back. -/
def readBackStatement (conditions : List Sql.Condition) : Sql.Statement :=
  .select (projection request) request.table conditions [] none

/-- Reads back rows, if the request asks for any. -/
def readBack (present : List Json → Answer) (conditions : List Sql.Condition) : Run σ Answer := do
  if request.wantsRows then
    let rows ← fetch engine schema request.table (readBackStatement request conditions)
    return present rows
  else return .ok .null

/-- Runs a write, and reads back the rows that the request asks for. -/
def writeAndRead (present : List Json → Answer) (writing : Sql.Statement)
    (conditions : List Sql.Condition) : Run σ Answer := do
  Run.write engine writing
  readBack engine schema request present conditions

/-- What is stored for a record that is inserted. -/
def filled (record : Fields) : Run σ Fields := do
  let traits := schema.traits request.table
  let identified ← identify sources (traits.toStorage record)
  let now ← Run.instant sources
  return stamp traits now identified

/-- The conditions with which an inserted record is read back. -/
def sameId (values : Fields) : List Sql.Condition :=
  [.compare ⟨"id", .eq, (Fields.get? values "id").getD .null⟩]

theorem insert_eq {record : Fields} (single : request.records = [record]) :
    insert engine sources schema request = filled sources schema request record >>= fun values =>
      writeAndRead engine schema request (fun rows => insertAnswer request (rows.take 1))
        (.insert request.table values) (sameId values) := by
  rw [insert, single]
  simp only [insertRecords, insertRecord, filled, writeAndRead, readBack, bind_assoc, pure_bind]
  refine congrArg _ (funext fun identified => congrArg _ (funext fun now =>
    congrArg _ (funext fun _ => ?_)))
  split
  · simp only [bind_assoc, pure_bind, List.append_nil]
    rfl
  · next unwanted => simp [insertAnswer, unwanted]

theorem update_eq : update engine sources schema request =
    changes sources schema request >>= fun values =>
      let conditions := conditions schema request
      if values.isEmpty then pure (.error .emptyUpdate)
      else writeAndRead engine schema request (updateAnswer request)
        (.update request.table values conditions) conditions := rfl

/-- A record with an identifier is read back by it. -/
theorem readBackBy_insert {table : String} {values : Fields} (h : "id" ∈ Fields.names values) :
    ReadBackBy (.insert table values) (sameId values) := by
  obtain ⟨value, found, mem⟩ := Fields.get?_mem_of_mem_names h
  rw [sameId, found]
  exact .insert mem

theorem filled_silent (record : Fields) :
    Run.Silent (filled sources schema request record : Run σ Fields) fun values =>
      ReadBackBy (.insert request.table values) (sameId values) := by
  refine (identify_silent sources _).bind fun identified made =>
    (Run.instant_silent sources).bind fun now _ => .pure ?_
  obtain ⟨identifier, rfl⟩ := made
  refine readBackBy_insert ?_
  show "id" ∈ Fields.names (storedRecord (schema.traits request.table) record identifier now)
  rw [names_storedRecord]
  exact id_mem_storedNames _ _

end Shape

/-! ### What becomes of the tables -/

section Tables

variable {sources : Sources} {schema : Schema} {request : Request} {world : World Connection}
  {present : List Json → Answer} {writing : Sql.Statement} {conditions : List Sql.Condition}

/-- Whether a run has ended with a failure. -/
def Failed (done : Except Fault Answer × World Connection) : Prop :=
  ∃ failure, conclude done.1 = .error failure

/-- Reading back changes no table. It fails if rows are asked for and the select fails. -/
theorem readBack_spec (schema : Schema) (request : Request) (conditions : List Sql.Condition)
    (shows : ∀ rows, ∃ data, present rows = .ok data) (world : World Connection) :
    let done := readBack Connection.engine schema request present conditions world
    done.2.state.database = world.state.database ∧
      (Failed done ↔ request.wantsRows ∧
        ¬∃ reply, (world.state.run (readBackStatement request conditions)).1 = .ok reply) := by
  intro done
  by_cases wanted : request.wantsRows
  · have kept : (world.state.run (readBackStatement request conditions)).2.database =
        world.state.database := Connection.database_of_select
    have run : done = (fetch Connection.engine schema request.table
        (readBackStatement request conditions) >>= fun rows => pure (present rows)) world := by
      show readBack _ _ _ _ _ world = _
      rw [readBack, if_pos wanted]
    rw [fetch, bind_assoc, Run.bind_apply, query_apply] at run
    rcases ran : world.state.run (readBackStatement request conditions) with ⟨fault | reply, later⟩
    · rw [ran] at kept run
      rw [run]
      exact ⟨kept, iff_of_true ⟨_, rfl⟩ ⟨wanted, fun ⟨_, h⟩ => by cases h⟩⟩
    · rw [ran] at kept run
      rw [run]
      refine ⟨kept, iff_of_false (fun ⟨failure, failed⟩ => ?_) fun h => h.2 ⟨_, rfl⟩⟩
      obtain ⟨data, shown⟩ := shows (reply.records.map fun record =>
        .object ((schema.traits request.table).toLogical record))
      change present _ = _ at failed
      rw [shown] at failed
      cases failed
  · have run : done = (.ok (.ok .null), world) := by
      show readBack _ _ _ _ _ world = _
      rw [readBack, if_neg wanted]
      rfl
    rw [run]
    exact ⟨rfl, iff_of_false (fun ⟨_, h⟩ => by cases h) fun h => wanted h.1⟩

/-- A write that is followed by a select: what it does to the tables, and when it fails although it
has changed them. -/
theorem writeAndRead_spec (schema : Schema) (shows : ∀ rows, ∃ data, present rows = .ok data)
    (about : tableName writing = request.table) (matching : ReadBackBy writing conditions)
    (world : World Connection) :
    let done := writeAndRead Connection.engine schema request present writing conditions world
    let written := (Run.write Connection.engine writing world).2
    done.2.state.database = written.state.database ∧
      (Failed done ∧ done.2.state.database ≠ world.state.database ↔
        written.state.database ≠ world.state.database ∧ request.wantsRows ∧
          ∃ table, world.state.database.table? request.table = some table ∧
            table.Unreadable (projection request)) := by
  intro done written
  have run : done = (Run.write Connection.engine writing >>= fun _ =>
      readBack Connection.engine schema request present conditions) world := rfl
  rw [Run.bind_apply] at run
  rcases write_cases writing world with
    ⟨fault, later, wrote, same⟩ | ⟨reply, between, later, ran, wrote, same⟩
  · -- The write itself fails, and nothing has been changed.
    have written_eq : written = later := congrArg Prod.snd wrote
    rw [wrote] at run
    rw [run, written_eq]
    exact ⟨rfl, iff_of_false (fun h => h.2 same) fun h => h.1 same⟩
  · have written_eq : written = later := congrArg Prod.snd wrote
    simp only [wrote] at run
    obtain ⟨kept, failed⟩ := readBack_spec schema request conditions shows later
    rw [← run] at kept failed
    obtain ⟨table, found, readable⟩ :=
      Connection.run_readBack_iff matching ran later.state same (projection request)
    rw [about] at found readable
    have unreadable : (∃ table, world.state.database.table? request.table = some table ∧
        table.Unreadable (projection request)) ↔ table.Unreadable (projection request) := by
      rw [found]
      exact ⟨fun ⟨_, same, h⟩ => Option.some.inj same ▸ h, fun h => ⟨table, rfl, h⟩⟩
    rw [readBackStatement, readable, Classical.not_not] at failed
    rw [written_eq, unreadable, failed, kept]
    exact ⟨rfl, and_comm⟩

/-- Without columns a request runs its write alone. -/
theorem writeAndRead_quiet (present : List Json → Answer) (writing : Sql.Statement)
    (conditions : List Sql.Condition) (world : World Connection) :
    (writeAndRead Connection.engine schema request.quiet present writing conditions world).2 =
      (Run.write Connection.engine writing world).2 := by
  have run : writeAndRead Connection.engine schema request.quiet present writing conditions world =
    (Run.write Connection.engine writing >>= fun _ => pure (.ok .null)) world := rfl
  rw [run, Run.bind_apply]
  rcases Run.write Connection.engine writing world with ⟨_ | _, _⟩ <;> rfl

end Tables

/-! ### Queries -/

theorem insertAnswer_ok (request : Request) (rows : List Json) :
    ∃ data, insertAnswer request rows = .ok data := by
  unfold insertAnswer
  split <;> exact ⟨_, rfl⟩

variable {sources : Sources} {schema : Schema} {request : Request} {world : World Connection}

/-- What columns have to do with the run of a request: what it writes does not depend on them, and
it ends with a failure in spite of a change for certain columns only. -/
def ColumnsMatterLate (request : Request) (world : World Connection)
    (done quiet : Except Fault Answer × World Connection) : Prop :=
  done.2.state.database = quiet.2.state.database ∧
    (Failed done ∧ done.2.state.database ≠ world.state.database ↔
      request.method ≠ .delete ∧ quiet.2.state.database ≠ world.state.database ∧
        request.wantsRows ∧ ∃ table, world.state.database.table? request.table = some table ∧
          table.Unreadable (projection request))

/-- Where nothing changes, columns do not matter. -/
theorem ColumnsMatterLate.of_unchanged {done quiet : Except Fault Answer × World Connection}
    (same : done.2.state.database = world.state.database)
    (same' : quiet.2.state.database = world.state.database) :
    ColumnsMatterLate request world done quiet :=
  ⟨same.trans same'.symm, iff_of_false (fun h => h.2 same) fun h => h.2.1 same'⟩

/-- A write that is read back, after computations that leave the engine alone. -/
theorem ColumnsMatterLate.writeAndRead {present quietly : List Json → Answer}
    {writing : Sql.Statement} {conditions : List Sql.Condition} {between : World Connection}
    (other : request.method ≠ .delete) (shows : ∀ rows, ∃ data, present rows = .ok data)
    (about : tableName writing = request.table) (matching : ReadBackBy writing conditions)
    (same : between.state = world.state) :
    ColumnsMatterLate request world
      (Execution.writeAndRead Connection.engine schema request present writing conditions between)
      (Execution.writeAndRead Connection.engine schema request.quiet quietly writing conditions
        between) := by
  obtain ⟨kept, failed⟩ := writeAndRead_spec schema shows about matching between
  rw [ColumnsMatterLate, writeAndRead_quiet, ← same, and_iff_right other]
  exact ⟨kept, failed⟩

theorem database_of_select (request : Request) :
    (select Connection.engine schema request world).2.state.database = world.state.database := by
  have kept : (world.state.run (selectStatement schema request)).2.database =
      world.state.database := Connection.database_of_select
  rw [select, fetch, bind_assoc, Run.bind_apply, query_apply]
  rcases ran : world.state.run (selectStatement schema request) with ⟨_ | _, _⟩ <;>
    rw [ran] at kept <;> exact kept

theorem insert_columns (method : request.method = .insert) (single : request.records.length = 1) :
    ColumnsMatterLate request world (insert Connection.engine sources schema request world)
      (insert Connection.engine sources schema request.quiet world) := by
  obtain ⟨record, records⟩ := List.length_eq_one_iff.mp single
  rw [insert_eq _ _ _ request records, insert_eq _ _ _ request.quiet records]
  change ColumnsMatterLate _ _ _ ((filled sources schema request record >>= _) world)
  obtain ⟨same, values, made, matching⟩ := filled_silent sources schema request record world
  rw [Run.bind_apply, Run.bind_apply]
  rcases ran : filled sources schema request record world with ⟨_, between⟩
  rw [ran] at same made
  cases made
  have other : request.method ≠ .delete := by rw [method]; decide
  exact .writeAndRead other (fun rows => insertAnswer_ok request (rows.take 1)) rfl matching same

theorem update_columns (method : request.method = .update) :
    ColumnsMatterLate request world (update Connection.engine sources schema request world)
      (update Connection.engine sources schema request.quiet world) := by
  obtain ⟨draws, changed⟩ := changes_apply sources schema request world
  have changed' : changes sources schema request.quiet world = _ := changed
  rw [update_eq, update_eq, Run.bind_apply, Run.bind_apply, changed, changed']
  have other : request.method ≠ .delete := by rw [method]; decide
  dsimp only
  split
  · -- There is nothing to write.
    exact .of_unchanged rfl rfl
  · exact .writeAndRead other (fun _ => ⟨_, rfl⟩) rfl .update rfl

theorem delete_columns (method : request.method = .delete) :
    ColumnsMatterLate request world (delete Connection.engine schema request world)
      (delete Connection.engine schema request.quiet world) := by
  refine ⟨rfl, iff_of_false (fun h => ?_) fun h => h.1 method⟩
  have run : delete Connection.engine schema request world =
    (Run.write Connection.engine (.delete request.table (conditions schema request)) >>=
      fun _ => pure (.ok .null)) world := rfl
  rw [run, Run.bind_apply] at h
  rcases write_cases (.delete request.table (conditions schema request)) world with
    ⟨fault, later, wrote, same⟩ | ⟨reply, between, later, ran, wrote, same⟩
  · rw [wrote] at h
    exact h.2 same
  · rw [wrote] at h
    obtain ⟨⟨_, failed⟩, -⟩ := h
    cases failed

theorem respond_columns (sources : Sources) (schema : Schema) (request : Request)
    (single : request.method = .insert → request.records.length = 1) (world : World Connection) :
    ColumnsMatterLate request world (respond Connection.engine sources schema request world)
      (respond Connection.engine sources schema request.quiet world) := by
  have same : request.quiet.method = request.method := rfl
  cases method : request.method <;> simp only [respond, same, method]
  case select =>
    exact .of_unchanged (database_of_select request) (database_of_select request.quiet)
  case insert => exact insert_columns method (single method)
  case update => exact update_columns method
  case delete => exact delete_columns method

/-- **An error does not mean that nothing was written.** A request, which inserts one record if it
inserts at all, writes the same with and without the columns that it asks for. Its answer is an
error in spite of a change if and only if it is no delete, asks for rows, and something is wrong
with these columns. -/
theorem failed_and_changed_iff (sources : Sources) (schema : Schema) (query : Query)
    (request : Request) (world : World Connection) (checked : query.check = .ok request)
    (single : request.method = .insert → request.records.length = 1) :
    let done := query.execute Connection.engine sources schema world
    let quiet := (Query.request request.quiet).execute Connection.engine sources schema world
    done.2.state.database = quiet.2.state.database ∧
      ((∃ failure, done.1 = .error failure) ∧ done.2.state.database ≠ world.state.database ↔
        request.method ≠ .delete ∧ quiet.2.state.database ≠ world.state.database ∧
          request.wantsRows ∧ ∃ table, world.state.database.table? request.table = some table ∧
            table.Unreadable (projection request)) := by
  intro done quiet
  have done_eq : done = _ := execute_eq Connection.engine sources schema request checked world
  have quiet_eq : quiet = _ := execute_eq Connection.engine sources schema request.quiet rfl world
  rw [done_eq, quiet_eq]
  exact respond_columns sources schema request single world

/-- A new store. -/
def newStore : World Connection := ⟨.opened Database.empty.create, Draws.none⟩

/-- A request to insert a person and to read back columns, of which no name is given. -/
def nameless : Request where
  table := "people"
  method := .insert
  columns := some ","
  body := .record (.ofPairs [("id", .string "p-1"), ("display_name", .string "An")])
  filters := []
  order := []
  limit := none
  single := false
  maybeSingle := false

/-- The number of people in a store. -/
def peopleCount (world : World Connection) : Option Nat :=
  (world.state.database.table? "people").map (·.rows.length)

theorem failed_and_changed_iff_nameless :
    (Query.request nameless).check = .ok nameless ∧ nameless.records.length = 1 ∧
      let done := (Query.request nameless).execute Connection.engine (.steady 0 1) Catalog.schema
        newStore
      (∃ failure, done.1 = .error failure) ∧
        done.2.state.database ≠ newStore.state.database := by
  refine ⟨rfl, rfl, ?_⟩
  have told := (failed_and_changed_iff (.steady 0 1) Catalog.schema (.request nameless) nameless
    newStore rfl fun _ => rfl).2
  have found : (newStore.state.database.table? "people").isSome := by decide +kernel
  obtain ⟨table, found⟩ := Option.isSome_iff_exists.mp found
  refine told.mpr ⟨by decide, fun same => ?_, rfl, table, found, .inl (by decide +kernel)⟩
  have count := congrArg (fun database => (database.table? "people").map (·.rows.length)) same
  exact absurd count (by decide +kernel)

/-- The insert is answered with an error, and the person is there. -/
theorem execute_nameless :
    let done := (Query.request nameless).execute Connection.engine (.steady 0 1) Catalog.schema
      newStore
    Answer.document done.1 = .object [("data", .null), ("error", .object [
        ("message", .string "near \"FROM\": syntax error"), ("code", .string "42601"),
        ("details", .null), ("hint", .null)])] ∧
      peopleCount newStore = some 0 ∧ peopleCount done.2 = some 1 := by
  decide +kernel

end Execution

end RowQuery
