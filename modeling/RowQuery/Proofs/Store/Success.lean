import RowQuery.Store.Connection
import RowQuery.Proofs.Engine.Run

/-!
# How statements end

What has been found right of a statement that succeeds and what it does to the tables, and where a
statement that fails has stopped.

* `Connection.Fit` gathers all that is looked at before a statement is performed;
  `Connection.fit_of_run` and `Connection.Fit.run_eq` — a statement is performed exactly if it is
  fit.
* `Connection.Rejected` and `Connection.Stopped` gather what is wrong with a statement that cannot
  be run at all, and with one that can; `Connection.run_error` — a statement that fails, fails for
  one of them.
* `Connection.database_of_run_error` — it leaves the tables as they are.
* `Table.update_induction` — rows are assigned to one after the other.
* `Database.table?_put` — a table that is changed is found under its name.
* `Database.exists_put_of_insert` and `Database.exists_put_of_update` — an insert and an update
  change one table, and leave its declaration.
* `Execution.write_apply` — a write on the engine ends as its statement does, and does to the tables
  what it does; `Execution.write_cases` splits the two ends.
-/

namespace RowQuery

/-! ### The order in which statements are looked at -/

namespace Connection

variable {connection : Connection} {statement : Sql.Statement}

/-- Whether a statement about a table can be performed: its text, its table and columns, its
parameters and its patterns are right. -/
structure Fit (connection : Connection) (statement : Sql.Statement) (table : Table) : Prop where
  text : textRefusal? statement = none
  found : connection.findTable statement = .ok table
  columns : columnRefusal? table.declaration statement = none
  size : sizeRefusal? table statement = none
  params : Cell.bindFault? 1 statement.params = none
  patterns : patternRefusal? table statement = none

/-- The connection when a statement is about to be performed: a write has begun a transaction. -/
def begun (connection : Connection) (statement : Sql.Statement) : Connection :=
  { connection with
    inTransaction := connection.inTransaction || (connection.implicit && writes statement) }

/-- Why a statement cannot be run, whatever its values are. -/
inductive Rejected (connection : Connection) (statement : Sql.Statement) : StoreFault → Prop where
  | text {f : StoreFault} (refused : textRefusal? statement = some f) :
    Rejected connection statement f
  | table {f : StoreFault} (text : textRefusal? statement = none)
    (missed : connection.findTable statement = .error f) : Rejected connection statement f
  | column {f : StoreFault} {table : Table} (text : textRefusal? statement = none)
    (found : connection.findTable statement = .ok table)
    (refused : columnRefusal? table.declaration statement = some f) :
    Rejected connection statement f
  | size {f : StoreFault} {table : Table} (refused : sizeRefusal? table statement = some f) :
    Rejected connection statement f

/-- Why a statement that can be run fails. -/
inductive Stopped (connection : Connection) (statement : Sql.Statement) : StoreFault → Prop where
  | value {f : StoreFault} (unbound : Cell.bindFault? 1 statement.params = some f) :
    Stopped connection statement f
  | pattern {f : StoreFault} {table : Table} (refused : patternRefusal? table statement = some f) :
    Stopped connection statement f
  | row {f : StoreFault} {table : Table}
    (failed : perform connection.database connection.enforced table statement = .error f) :
    Stopped connection statement f

/-- A fit statement is performed. -/
theorem Fit.run_eq {table : Table} (h : connection.Fit statement table) :
    connection.run statement =
      match perform connection.database connection.enforced table statement with
      | .error fault => (.error fault.fault, connection.begun statement)
      | .ok (reply, database) => (.ok reply, { connection.begun statement with database }) := by
  have prepared : connection.prepare statement = .ok table := by
    rw [prepare, h.text, h.found]
    simp only [h.columns, h.size]
    rfl
  rw [run, prepared]
  simp only [h.params, h.patterns]
  rfl

theorem prepare_ok {table : Table} (h : connection.prepare statement = .ok table) :
    textRefusal? statement = none ∧ connection.findTable statement = .ok table ∧
      columnRefusal? table.declaration statement = none ∧ sizeRefusal? table statement = none := by
  rw [prepare] at h
  cases text : textRefusal? statement with
  | some fault =>
    rw [text] at h
    cases h
  | none =>
    cases found : connection.findTable statement with
    | error fault =>
      simp only [text, found] at h
      cases h
    | ok other =>
      simp only [text, found] at h
      split at h
      · cases h
      · next fine =>
        cases h
        exact ⟨rfl, rfl, by simpa using fine⟩

/-- A statement that succeeds is fit. -/
theorem fit_of_run {reply : Reply} (h : (connection.run statement).1 = .ok reply) :
    ∃ table, connection.Fit statement table := by
  rw [run] at h
  cases prepared : connection.prepare statement with
  | error fault =>
    rw [prepared] at h
    cases h
  | ok table =>
    obtain ⟨text, found, columns, size⟩ := prepare_ok prepared
    simp only [prepared] at h
    cases refused : Cell.bindFault? 1 statement.params <|> patternRefusal? table statement with
    | some fault =>
      simp only [refused] at h
      cases h
    | none =>
      obtain ⟨params, patterns⟩ : Cell.bindFault? 1 statement.params = none ∧
          patternRefusal? table statement = none := by simpa using refused
      exact ⟨table, text, found, columns, size, params, patterns⟩

theorem prepare_error {f : StoreFault} (h : connection.prepare statement = .error f) :
    connection.Rejected statement f := by
  rw [prepare] at h
  split at h
  · next text =>
    cases h
    exact .text text
  · next text =>
    split at h
    · next missed =>
      cases h
      exact .table text missed
    · next table found =>
      split at h
      · next refused =>
        cases h
        simp only [Option.orElse_eq_orElse, Option.orElse_eq_or, Option.or_eq_some_iff] at refused
        rcases refused with column | ⟨-, size⟩
        · exact .column text found column
        · exact .size size
      · cases h

/-- **A statement that fails, fails early or late**: before it has begun, the connection stays as it
is, and after that it has begun. -/
theorem run_error {fault : Fault} {later : Connection}
    (h : connection.run statement = (.error fault, later)) : ∃ f : StoreFault, fault = f.fault ∧
      (connection.Rejected statement f ∧ later = connection ∨
        connection.Stopped statement f ∧ later = connection.begun statement) := by
  rw [run] at h
  split at h
  · next f prepared =>
    cases h
    exact ⟨f, rfl, .inl ⟨prepare_error prepared, rfl⟩⟩
  · next table _ =>
    dsimp only at h
    split at h
    · next f refused =>
      cases h
      simp only [Option.orElse_eq_orElse, Option.orElse_eq_or, Option.or_eq_some_iff] at refused
      refine ⟨f, rfl, .inr ⟨?_, rfl⟩⟩
      rcases refused with unbound | ⟨-, pattern⟩
      · exact .value unbound
      · exact .pattern pattern
    · split at h
      · next f failed =>
        cases h
        exact ⟨f, rfl, .inr ⟨.row failed, rfl⟩⟩
      · cases h

/-- A statement that fails leaves the tables as they are. -/
theorem database_of_run_error {fault : Fault} (h : (connection.run statement).1 = .error fault) :
    (connection.run statement).2.database = connection.database := by
  obtain ⟨f, -, ⟨-, same⟩ | ⟨-, same⟩⟩ := run_error (Prod.ext h rfl)
  · exact congrArg database same
  · exact (congrArg database same).trans rfl

/-- What succeeds has been performed. -/
theorem performed_of_run {reply : Reply} {later : Connection}
    (h : connection.run statement = (.ok reply, later)) :
    ∃ table, connection.Fit statement table ∧
      perform connection.database connection.enforced table statement =
        .ok (reply, later.database) := by
  obtain ⟨table, fit⟩ := fit_of_run (by rw [h])
  refine ⟨table, fit, ?_⟩
  rw [fit.run_eq] at h
  cases performed : perform connection.database connection.enforced table statement with
  | error fault =>
    rw [performed] at h
    cases h
  | ok done =>
    rw [performed] at h
    cases h
    rfl

/-- An insert that is performed has added a row. -/
theorem insert_of_perform {db later : Database} {enforced : Bool} {table : Table} {name : String}
    {values : Fields} {reply : Reply}
    (h : perform db enforced table (.insert name values) = .ok (reply, later)) :
    db.insert enforced table (.ofFields values) = .ok later := by
  rw [perform] at h
  cases inserted : db.insert enforced table (.ofFields values) with
  | error fault =>
    rw [inserted] at h
    cases h
  | ok other =>
    rw [inserted] at h
    cases h
    rfl

/-- An update that is performed has assigned to rows. -/
theorem update_of_perform {db later : Database} {enforced : Bool} {table : Table} {name : String}
    {values : Fields} {conditions : List Sql.Condition} {reply : Reply}
    (h : perform db enforced table (.update name values conditions) = .ok (reply, later)) :
    db.update enforced table (.ofFields values) conditions = .ok later := by
  rw [perform] at h
  cases updated : db.update enforced table (.ofFields values) conditions with
  | error fault =>
    rw [updated] at h
    cases h
  | ok other =>
    rw [updated] at h
    cases h
    rfl

/-- A statement that writes is about a table that is found by its name. -/
theorem table?_of_findTable {table : Table} (write : writes statement = true)
    (h : connection.findTable statement = .ok table) :
    connection.database.table? (tableName statement) = some table := by
  rw [findTable] at h
  cases found : connection.database.table? (tableName statement) with
  | some other =>
    simp only [found] at h
    cases h
    rfl
  | none =>
    simp only [found, if_pos write] at h
    split at h <;> cases h

/-- What selects changes no table. -/
theorem database_of_select {projection : Sql.Projection} {name : String}
    {conditions : List Sql.Condition} {order : List OrderTerm} {limit : Option Int} :
    (connection.run (.select projection name conditions order limit)).2.database =
      connection.database := by
  cases ran : (connection.run (.select projection name conditions order limit)).1 with
  | error fault => exact database_of_run_error ran
  | ok reply =>
    obtain ⟨table, fit⟩ := fit_of_run ran
    rw [fit.run_eq]
    rfl

end Connection

/-! ### Tables that change -/

namespace Table

theorem declaration_replaceRow (table : Table) (number : Int) (row : Row) :
    (table.replaceRow number row).declaration = table.declaration := by
  rw [replaceRow]
  split <;> rfl

/-- A row is assigned to by replacing it with a row that has been checked. -/
theorem updateRow_ok {assignments : Assignments} {table changed : Table} {row : Row}
    (h : updateRow assignments table row = .ok changed) :
    ∃ new, assignRow table.declaration assignments row = .ok new ∧
      (table.eraseRow row.number).checkRow new = .ok () ∧
        changed = table.replaceRow row.number new := by
  rw [updateRow] at h
  cases assigned : assignRow table.declaration assignments row with
  | error fault =>
    rw [assigned] at h
    cases h
  | ok new =>
    rw [assigned] at h
    change ((table.eraseRow row.number).checkRow new >>= _) = _ at h
    cases checked : (table.eraseRow row.number).checkRow new with
    | error fault =>
      rw [checked] at h
      cases h
    | ok u =>
      rw [checked] at h
      cases h
      exact ⟨new, rfl, checked, rfl⟩

/-- Rows are assigned to one after the other. What holds of the rows to come and of the table, and
is handed on by every row that is assigned to, holds in the end, when no row is to come. -/
theorem update_induction {assignments : Assignments} {motive : List Row → Table → Prop}
    {rows : List Row} {table changed : Table} (start : motive rows table)
    (step : ∀ row rest between next, motive (row :: rest) between →
      updateRow assignments between row = .ok next → motive rest next)
    (h : table.update assignments rows = .ok changed) : motive [] changed := by
  rw [update] at h
  induction rows generalizing table with
  | nil =>
    cases h
    exact start
  | cons row rest ih =>
    rw [List.foldlM_cons] at h
    cases first : updateRow assignments table row with
    | error fault =>
      rw [first] at h
      cases h
    | ok between =>
      rw [first] at h
      exact ih (step row rest table between start first) h

/-- The declaration stays. -/
theorem declaration_update {assignments : Assignments} {rows : List Row} {table changed : Table}
    (h : table.update assignments rows = .ok changed) :
    changed.declaration = table.declaration := by
  refine update_induction (motive := fun _ between => between.declaration = table.declaration)
    rfl ?_ h
  intro row rest between next same replaced
  obtain ⟨new, -, -, rfl⟩ := updateRow_ok replaced
  exact (declaration_replaceRow between row.number new).trans same

end Table

namespace Database

variable {db : Database} {table changed : Table} {name : String}

/-- A table that is changed is found under its name. -/
theorem table?_put (found : db.table? name = some table)
    (same : changed.declaration = table.declaration) :
    (db.put changed).table? name = some changed := by
  have names : changed.name = table.name := congrArg Declaration.name same
  have kept : ((fun other : Table => sameName other.name name) ∘
      fun other => if other.name = changed.name then changed else other) =
        fun other => sameName other.name name := by
    funext other
    show sameName (if other.name = changed.name then changed else other).name name = _
    split
    · next here => rw [here]
    · rfl
  show (db.tables.map _).find? _ = _
  rw [List.find?_map, kept]
  have found' : db.tables.find? (fun other => sameName other.name name) = some table := found
  rw [found', Option.map_some, if_pos names.symm]

/-- An insert adds a row to one table. Where references are enforced, those of the row lead
somewhere. -/
theorem exists_put_of_insert {enforced : Bool} {assignments : Assignments} {later : Database}
    (h : db.insert enforced table assignments = .ok later) :
    ∃ row, table.newRow assignments = .ok row ∧
      (enforced = true →
        (db.put (table.insertRow row)).rowSatisfied table.declaration row = true) ∧
      later = db.put (table.insertRow row) := by
  rw [insert] at h
  cases made : table.newRow assignments with
  | error fault =>
    rw [made] at h
    cases h
  | ok row =>
    rw [made] at h
    change (if _ then _ else _) = _ at h
    split at h
    · cases h
    · next leads =>
      cases h
      exact ⟨row, rfl, fun enforced => by simpa [enforced] using leads, rfl⟩

/-- An update assigns to rows of one table. Where references are enforced, all of them lead
somewhere then. -/
theorem exists_put_of_update {enforced : Bool} {assignments : Assignments}
    {conditions : List Sql.Condition} {later : Database}
    (h : db.update enforced table assignments conditions = .ok later) :
    ∃ changed, table.update assignments (table.rows.filter (table.selects conditions)) =
      .ok changed ∧ (enforced = true → (db.put changed).satisfied = true) ∧
        later = db.put changed := by
  rw [update] at h
  cases made : table.update assignments (table.rows.filter (table.selects conditions)) with
  | error fault =>
    simp only [made] at h
    cases h
  | ok changed =>
    simp only [made] at h
    change (if _ then _ else _) = _ at h
    split at h
    · cases h
    · next leads =>
      cases h
      exact ⟨changed, rfl, fun enforced => by simpa [enforced] using leads, rfl⟩

end Database

/-! ### On the engine -/

namespace Execution

variable {world : World Connection}

theorem query_apply (statement : Sql.Statement) :
    Run.query Connection.engine statement world =
      ((world.state.run statement).1, { world with state := (world.state.run statement).2 }) := rfl

/-- A write ends as its statement does, and leaves the tables as its statement does. -/
theorem write_apply (writing : Sql.Statement) (world : World Connection) :
    (Run.write Connection.engine writing world).1 = (world.state.run writing).1.map (fun _ => ()) ∧
      (Run.write Connection.engine writing world).2.state.database =
        (world.state.run writing).2.database := by
  have split : Run.write Connection.engine writing world =
      (Run.query Connection.engine writing >>= fun _ => Run.change fun state =>
        if state.inTransaction then Connection.engine.commit state else state) world := rfl
  rw [split, Run.bind_apply, query_apply]
  rcases world.state.run writing with ⟨fault | reply, between⟩
  · exact ⟨rfl, rfl⟩
  · refine ⟨rfl, ?_⟩
    show (if between.inTransaction then _ else _ : Connection).database = _
    split <;> rfl

/-- A write changes the tables as its statement does, and stops if that fails. -/
theorem write_cases (writing : Sql.Statement) (world : World Connection) :
    (∃ fault later, Run.write Connection.engine writing world = (.error fault, later) ∧
        later.state.database = world.state.database) ∨
      ∃ reply between later, world.state.run writing = (.ok reply, between) ∧
        Run.write Connection.engine writing world = (.ok (), later) ∧
        later.state.database = between.database := by
  obtain ⟨outcome, database⟩ := write_apply writing world
  rcases ran : world.state.run writing with ⟨fault | reply, between⟩
  · rw [ran] at outcome database
    have same := Connection.database_of_run_error (congrArg Prod.fst ran)
    rw [ran] at same
    exact .inl ⟨fault, _, Prod.ext outcome rfl, database.trans same⟩
  · rw [ran] at outcome database
    exact .inr ⟨reply, between, _, rfl, Prod.ext outcome rfl, database⟩

/-- A write stops where its statement does. -/
theorem error_of_write {statement : Sql.Statement} {fault : Fault}
    (h : (Run.write Connection.engine statement world).1 = .error fault) :
    (world.state.run statement).1 = .error fault := by
  rw [(write_apply statement world).1] at h
  cases ran : (world.state.run statement).1 with
  | error found =>
    rw [ran] at h
    cases h
    rfl
  | ok reply =>
    rw [ran] at h
    cases h

end Execution

end RowQuery
