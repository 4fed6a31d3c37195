import RowQuery.Proofs.Execution.Session
import RowQuery.Proofs.Store.Breach

/-!
# The statement that changes a store

A request that writes at most one record changes the tables by one statement at most.

* `Execution.filled_apply` — the record that an insert stores, with what has been drawn for it.
* `Request.WrittenBy` tells by what statement a request changes tables;
  `Execution.exists_writing` says that it is the only one.
* `Execution.execute_obeys_iff_of` and `Execution.execute_obeys_iff` — such a request keeps a rule
  exactly if nothing changes or the statement keeps the rule.
-/

namespace RowQuery

/-- The statements by which a request can change tables, an insert being one of a single record. -/
inductive Request.WrittenBy (schema : Schema) (request : Request) : Sql.Statement → Prop where
  | insert {record : Fields} (method : request.method = .insert)
    (single : request.records = [record]) (identifier : String) (now : Instant) :
    WrittenBy schema request (.insert request.table
      (Execution.storedRecord (schema.traits request.table) record identifier now))
  | update (method : request.method = .update) (now : Instant) (conditions : List Sql.Condition) :
    WrittenBy schema request (.update request.table
      (Execution.changedRecord (schema.traits request.table) request.firstRecord now) conditions)
  | delete (method : request.method = .delete) (conditions : List Sql.Condition) :
    WrittenBy schema request (.delete request.table conditions)

namespace Execution

variable {sources : Sources} {schema : Schema} {request : Request}

/-- The record that an insert stores: it is filled with the next identifier and the next instant. -/
theorem filled_apply {σ : Type} (sources : Sources) (schema : Schema) (request : Request)
    (record : Fields) (world : World σ) :
    ∃ draws, filled sources schema request record world =
      (.ok (storedRecord (schema.traits request.table) record
        (sources.identifier world.draws.identifiers) (sources.instant world.draws.instants)),
        { world with draws }) := by
  let stored := (schema.traits request.table).toStorage record
  have run : filled sources schema request record world =
      (identify sources stored >>= fun identified => Run.instant sources >>= fun now =>
        pure (stamp (schema.traits request.table) now identified)) world := rfl
  rw [run, Run.bind_apply, identify]
  by_cases present : hasValue stored "id"
  · rw [if_pos present, storedRecord, fill, if_pos present]
    exact ⟨_, rfl⟩
  · rw [if_neg present, storedRecord, fill, if_neg present]
    exact ⟨_, rfl⟩

/-- What is read back after a write makes no difference to the tables. -/
theorem database_of_writeAndRead {present : List Json → Answer} {writing : Sql.Statement}
    {conditions : List Sql.Condition} (schema : Schema)
    (shows : ∀ rows, ∃ data, present rows = .ok data)
    (about : Connection.tableName writing = request.table)
    (matching : writing.ReadBackBy conditions) (world : World Connection) :
    (writeAndRead Connection.engine schema request present writing conditions
      world).2.state.database = (world.state.run writing).2.database := by
  obtain ⟨kept, -⟩ := writeAndRead_spec schema shows about matching world
  rw [kept, (write_apply writing world).2]

theorem exists_writing_insert (method : request.method = .insert)
    (single : request.records.length = 1) (world : World Connection) :
    ∃ writing, request.WrittenBy schema writing ∧
      (insert Connection.engine sources schema request world).2.state.database =
        (world.state.run writing).2.database := by
  obtain ⟨record, records⟩ := List.length_eq_one_iff.mp single
  obtain ⟨draws, made⟩ := filled_apply sources schema request record world
  refine ⟨_, .insert method records (sources.identifier world.draws.identifiers)
    (sources.instant world.draws.instants), ?_⟩
  rw [insert_eq _ _ _ request records, Run.bind_apply, made]
  generalize sources.identifier _ = identifier, sources.instant _ = now
  have named : "id" ∈ Fields.names
      (storedRecord (schema.traits request.table) record identifier now) := by
    rw [names_storedRecord]
    exact id_mem_storedNames _ _
  have shows (rows : List Json) : ∃ data, insertAnswer request (rows.take 1) = .ok data :=
    insertAnswer_ok request (rows.take 1)
  have read : Sql.Statement.ReadBackBy (.insert request.table
      (storedRecord (schema.traits request.table) record identifier now)) _ :=
    readBackBy_insert named
  dsimp only
  rw [database_of_writeAndRead schema shows rfl read]

theorem exists_writing_update (method : request.method = .update) (world : World Connection) :
    (update Connection.engine sources schema request world).2.state.database =
        world.state.database ∨
      ∃ writing, request.WrittenBy schema writing ∧
        (update Connection.engine sources schema request world).2.state.database =
          (world.state.run writing).2.database := by
  obtain ⟨draws, made⟩ := changes_apply sources schema request world
  rw [update_eq, Run.bind_apply, made]
  generalize sources.instant _ = now
  dsimp only
  split
  · exact .inl rfl
  · have shows (rows : List Json) : ∃ data, updateAnswer request rows = .ok data := ⟨_, rfl⟩
    refine .inr ⟨_, .update method now (conditions schema request), ?_⟩
    rw [database_of_writeAndRead schema shows rfl .update]

theorem exists_writing_delete (method : request.method = .delete) (world : World Connection) :
    ∃ writing, request.WrittenBy schema writing ∧
      (delete Connection.engine schema request world).2.state.database =
        (world.state.run writing).2.database := by
  refine ⟨_, .delete method (conditions schema request), ?_⟩
  have run : delete Connection.engine schema request world =
    (Run.write Connection.engine (.delete request.table (conditions schema request)) >>=
      fun _ => pure (.ok .null)) world := rfl
  rw [← (write_apply _ world).2, run, Run.bind_apply]
  rcases Run.write Connection.engine _ world with ⟨_ | _, _⟩ <;> rfl

/-- A request changes the tables by one statement at most. -/
theorem exists_writing (sources : Sources) (schema : Schema) {query : Query}
    (checked : query.check = .ok request)
    (single : request.method = .insert → request.records.length = 1) (world : World Connection) :
    let later := (query.execute Connection.engine sources schema world).2.state.database
    later = world.state.database ∨ ∃ writing, request.WrittenBy schema writing ∧
      later = (world.state.run writing).2.database := by
  intro later
  have done :
      later = (respond Connection.engine sources schema request world).2.state.database := by
    show (query.execute Connection.engine sources schema world).2.state.database = _
    rw [execute_eq Connection.engine sources schema request checked, attend_apply]
    rfl
  rw [done]
  cases method : request.method <;> simp only [respond, method]
  case select => exact .inl (database_of_select request)
  case insert => exact .inr (exists_writing_insert method (single method) world)
  case update => exact exists_writing_update method world
  case delete => exact .inr (exists_writing_delete method world)

/-- **A query keeps a rule exactly if it changes nothing or is such as the rule asks for**, where it
is enough for the statement that changes tables to hand on the rule that the query is such, and that
is needed for the cells that the statement writes to obey the rule. -/
theorem execute_obeys_iff_of {rule : Rule} (emptied : rule.Emptied) {query : Query}
    (checked : query.check = .ok request)
    (single : request.method = .insert → request.records.length = 1) {asked : Prop}
    (enough : asked → ∀ writing, request.WrittenBy schema writing → writing.Preserves rule)
    (needed : ∀ writing, request.WrittenBy schema writing → writing.Fills rule → asked)
    {world : World Connection} (held : world.state.Holds rule) :
    let later := (query.execute Connection.engine sources schema world).2.state.database
    later.Obeys rule ↔ later = world.state.database ∨ asked := by
  intro later
  rcases exists_writing sources schema checked single world with same | ⟨writing, written, same⟩
  · have same : later = world.state.database := same
    rw [same]
    exact iff_of_true held.obeys (.inl rfl)
  · have same : later = (world.state.run writing).2.database := same
    rw [same]
    refine ⟨fun kept => ?_, ?_⟩
    · exact ((Connection.run_obeys_iff emptied held.enforced held.sound held.obeys).mp
        kept).imp_right (needed writing written)
    · rintro (unchanged | asked)
      · rw [unchanged]
        exact held.obeys
      · exact enough asked writing written world.state held

/-- A query keeps a rule that no declaration breaks by itself exactly if it changes nothing or heeds
the rule, where what it writes heeds the rule whatever it has drawn, or breaks it whatever it has
drawn. -/
theorem execute_obeys_iff {rule : Rule} (natural : rule.Natural) {query : Query}
    (checked : query.check = .ok request)
    (single : request.method = .insert → request.records.length = 1) {heeds : Prop}
    (steady : ∀ writing, request.WrittenBy schema writing → (writing.Heeds rule ↔ heeds))
    {world : World Connection} (held : world.state.Holds rule) :
    let later := (query.execute Connection.engine sources schema world).2.state.database
    later.Obeys rule ↔ later = world.state.database ∨ heeds :=
  execute_obeys_iff_of natural.emptied checked single
    (fun heeds writing written => ((steady writing written).mpr heeds).preserves natural)
    (fun writing written fills => (steady writing written).mp fills.heeds) held

end Execution

end RowQuery
