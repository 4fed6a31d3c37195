import RowQuery.Proofs.Execution.Answer
import RowQuery.Proofs.Execution.Session
import RowQuery.Proofs.Store.Begun

/-!
# Transactions that stay open

On a connection whose writes have to be committed, a write that succeeds is committed before its
request goes on. A write that fails late has begun its transaction, and nothing ends it.

* `Connection.Idle` — no transaction is open, and a write will begin one.
* `Run.Settles` says how a computation leaves an idle connection; `Execution.respond_settles` says
  that every request that writes does so, in the middle of a batch as well.
* `Query.exchanges` are the answers to a sequence of queries.
* `Execution.open_iff_failsLate` — a transaction is open after a query exactly if the query is
  answered with a late fault of a write.
-/

namespace RowQuery

variable {α β : Type}

/-- No transaction is open, and a write begins one. -/
structure Connection.Idle (connection : Connection) : Prop where
  implicit : connection.implicit = true
  closed : connection.inTransaction = false

namespace Run

/-- How a computation that began on an idle connection has ended: on an idle one again, or with a
fault. Then a transaction is open exactly if the fault is a late one. -/
def Settled (done : Except Fault α × World Connection) : Prop :=
  done.2.state.implicit = true ∧
    match done.1 with
    | .ok _ => done.2.state.inTransaction = false
    | .error fault => ∃ f : StoreFault, fault = f.fault ∧
      (done.2.state.inTransaction = true ↔ f.Late)

/-- From an idle connection the computation ends as `Settled` says. -/
def Settles (run : Run Connection α) : Prop := ∀ world, world.state.Idle → Settled (run world)

namespace Settles

variable {first : Run Connection α} {next : α → Run Connection β} {yields : α → Prop}

protected theorem pure (a : α) : Settles (pure a) := fun _ idle => ⟨idle.implicit, idle.closed⟩

protected theorem bind (h : Settles first) (h' : ∀ a, Settles (next a)) :
    Settles (first >>= next) := by
  intro world idle
  obtain ⟨implicit, ended⟩ := h world idle
  rw [bind_apply]
  rcases ran : first world with ⟨fault | a, between⟩
  · rw [ran] at implicit ended
    exact ⟨implicit, ended⟩
  · rw [ran] at implicit ended
    exact h' a between ⟨implicit, ended⟩

/-- A computation that leaves the engine alone can come first. -/
theorem after_silent (h : Silent first yields) (h' : ∀ a, yields a → Settles (next a)) :
    Settles (first >>= next) := by
  intro world idle
  obtain ⟨same, a, outcome, yielded⟩ := h world
  rw [bind_apply]
  rcases ran : first world with ⟨found, between⟩
  rw [ran] at same outcome
  cases outcome
  exact h' a yielded between (same ▸ idle)

end Settles

end Run

namespace Execution

open Connection (tableName Idle)
open Run (Settled Settles)
open Sql.Statement (ReadBackBy)

variable {sources : Sources} {schema : Schema} {request : Request} {world : World Connection}
  {writing : Sql.Statement} {conditions : List Sql.Condition}

/-! ### One write -/

/-- A write that succeeds is committed. One that fails leaves a transaction open if it fails
late. -/
theorem write_idle (writes : Connection.writes writing = true) (idle : world.state.Idle) :
    (∃ f : StoreFault, ∃ later,
        Run.write Connection.engine writing world = (.error f.fault, later) ∧
        later.state.implicit = true ∧ (later.state.inTransaction = true ↔ f.Late)) ∨
      ∃ reply between later, world.state.run writing = (.ok reply, between) ∧
        Run.write Connection.engine writing world = (.ok (), later) ∧ later.state.Idle ∧
        later.state.database = between.database := by
  have split : Run.write Connection.engine writing world =
      (Run.query Connection.engine writing >>= fun _ => Run.settle Connection.engine) world := rfl
  have begins : (world.state.begun writing).inTransaction = true := by
    rw [Connection.begun, idle.implicit, writes]
    exact Bool.or_true _
  rw [split, Run.bind_apply, query_apply]
  rcases ran : world.state.run writing with ⟨fault | reply, between⟩
  · obtain ⟨f, rfl, ended⟩ := Connection.run_error_cases ran
    refine .inl ⟨f, _, rfl, ?_⟩
    rcases ended with ⟨early, rfl⟩ | ⟨late, rfl⟩
    · exact ⟨idle.implicit, iff_of_false (by simp [idle.closed]) early⟩
    · exact ⟨idle.implicit, iff_of_true begins late⟩
  · obtain ⟨implicit, opened⟩ := Connection.begun_of_run ran
    have committed : (Run.settle Connection.engine { world with state := between }) =
        (.ok (), { world with state := { between with inTransaction := false } }) := by
      rw [begins] at opened
      simp only [Run.settle, Run.change, Connection.engine, opened, if_true]
    refine .inr ⟨reply, between, _, rfl, committed, ⟨?_, rfl⟩, rfl⟩
    exact implicit.trans idle.implicit

/-- Reading back leaves the connection as it is, and fails early if at all. -/
theorem fetch_after_write {before between : Connection} {reply : Reply} (schema : Schema)
    (name : String) (projection : Sql.Projection) (matching : ReadBackBy writing conditions)
    (ran : before.run writing = (.ok reply, between)) (idle : world.state.Idle)
    (same : world.state.database = between.database) :
    Settled (fetch Connection.engine schema name
      (.select projection (tableName writing) conditions [] none) world) := by
  rw [fetch, Run.bind_apply, query_apply, Connection.unchanged_of_select]
  rcases read : (world.state.run (.select projection (tableName writing) conditions [] none)).1
    with fault | rows
  · obtain ⟨f, rfl, early⟩ := Connection.early_of_readBack matching ran same read
    exact ⟨idle.implicit, f, rfl, iff_of_false (by simp [idle.closed]) early⟩
  · exact ⟨idle.implicit, idle.closed⟩

/-- A write, and what is read back of it. -/
theorem write_then_read (present : List Json → α) {absent : α} {projection : Sql.Projection}
    {name : String} (matching : ReadBackBy writing conditions) (wanted : Bool) :
    Settles (Run.write Connection.engine writing >>= fun _ =>
      if wanted then fetch Connection.engine schema name
        (.select projection (tableName writing) conditions [] none) >>= fun rows =>
          pure (present rows)
      else pure absent) := by
  intro world idle
  rw [Run.bind_apply]
  rcases write_idle (Connection.writes_of_readBackBy matching) idle with
    ⟨f, later, wrote, implicit, ended⟩ | ⟨reply, between, later, ran, wrote, idle', same⟩
  · rw [wrote]
    exact ⟨implicit, f, rfl, ended⟩
  · rw [wrote]
    dsimp only
    split
    · obtain ⟨implicit, ended⟩ := fetch_after_write schema name projection matching ran idle' same
      rw [Run.bind_apply]
      rcases fetched : fetch Connection.engine schema name
        (.select projection (tableName writing) conditions [] none) later with ⟨fault | rows, last⟩
      · rw [fetched] at implicit ended
        exact ⟨implicit, ended⟩
      · rw [fetched] at implicit ended
        exact ⟨implicit, ended⟩
    · exact ⟨idle'.implicit, idle'.closed⟩

/-! ### Requests that write -/

theorem insertRecord_settles (record : Fields) :
    Settles (insertRecord Connection.engine sources schema request record) := by
  refine .after_silent (identify_silent sources _) fun identified made => ?_
  obtain ⟨identifier, rfl⟩ := made
  refine .after_silent (Run.instant_silent sources) fun now _ => ?_
  have stored : "id" ∈ Fields.names
      (storedRecord (schema.traits request.table) record identifier now) := by
    rw [names_storedRecord]
    exact id_mem_storedNames _ _
  exact write_then_read (·.take 1) (readBackBy_insert stored) request.wantsRows

/-- The records are inserted one after the other, each in a transaction of its own. -/
theorem insertRecords_settles (records : List Fields) :
    Settles (insertRecords Connection.engine sources schema request records) := by
  induction records with
  | nil => exact .pure []
  | cons record rest ih =>
    exact (insertRecord_settles record).bind fun rows => ih.bind fun _ => .pure _

theorem update_settles : Settles (update Connection.engine sources schema request) := by
  rw [update_eq]
  refine .after_silent (changes_silent sources schema request) fun values _ => ?_
  dsimp only
  split
  · exact .pure _
  · exact write_then_read _ .update request.wantsRows

theorem delete_settles : Settles (delete Connection.engine schema request) := by
  intro world idle
  rw [delete, Run.bind_apply]
  have writes : Connection.writes (.delete request.table (conditions schema request)) = true := rfl
  rcases write_idle writes idle with
    ⟨f, later, wrote, implicit, ended⟩ | ⟨reply, between, later, ran, wrote, idle', same⟩
  · rw [wrote]
    exact ⟨implicit, f, rfl, ended⟩
  · rw [wrote]
    exact ⟨idle'.implicit, idle'.closed⟩

/-- A request that writes leaves an idle connection idle, unless it stops with a late fault. -/
theorem respond_settles (sources : Sources) (schema : Schema) (writes : request.method ≠ .select) :
    Settles (respond Connection.engine sources schema request) := by
  rw [respond]
  cases method : request.method with
  | select => exact absurd method writes
  | insert => exact (insertRecords_settles _).bind fun _ => .pure _
  | update => exact update_settles
  | delete => exact delete_settles

/-- A select leaves the connection as it is, whether or not it stops. -/
theorem select_leaves (world : World Connection) :
    (select Connection.engine schema request world).2.state = world.state := by
  have kept : (world.state.run (selectStatement schema request)).2 = world.state :=
    Connection.unchanged_of_select
  rw [select, fetch, bind_assoc, Run.bind_apply, query_apply, kept]
  rcases (world.state.run (selectStatement schema request)).1 with _ | _ <;> rfl

end Execution

/-! ### Queries -/

/-- The query is answered with a late fault of a statement that writes. -/
def Query.FailsLate (query : Query) (answer : Answer) : Prop :=
  ∃ request, query.check = .ok request ∧ request.method ≠ .select ∧
    ∃ f : StoreFault, f.Late ∧ answer = .error (.ofFault f.fault)

namespace Execution

open Connection (Idle)

variable {sources : Sources} {schema : Schema} {query : Query} {world : World Connection}

theorem ofFault_ne {fault : Fault} : Failure.ofFault fault ≠ .noRow ∧
    Failure.ofFault fault ≠ .emptyUpdate := by
  unfold Failure.ofFault
  split <;> exact ⟨nofun, nofun⟩

/-- One query on an idle connection: a transaction is open after it exactly if it fails late. -/
theorem execute_open_iff (sources : Sources) (idle : world.state.Idle) (schema : Schema)
    (query : Query) :
    let done := query.execute Connection.engine sources schema world
    done.2.state.implicit = true ∧
      (done.2.state.inTransaction = true ↔ query.FailsLate done.1) := by
  intro done
  cases checked : query.check with
  | error failure =>
    have ended : done = (.error failure, world) := by
      show query.execute _ _ _ _ = _
      rw [Query.execute, checked]
    rw [ended]
    refine ⟨idle.implicit, iff_of_false (by simp [idle.closed]) ?_⟩
    rintro ⟨request, checked', -⟩
    cases checked.symm.trans checked'
  | ok request =>
    have ended : done = _ := execute_eq Connection.engine sources schema request checked world
    have run : attend Connection.engine sources schema request world =
        respond Connection.engine sources schema request world := rfl
    rw [run] at ended
    by_cases writes : request.method = .select
    · have kept : (respond Connection.engine sources schema request world).2.state =
          world.state := by
        rw [respond, writes]
        exact select_leaves world
      rw [ended, kept]
      refine ⟨idle.implicit, iff_of_false (by simp [idle.closed]) ?_⟩
      rintro ⟨other, checked', writes', -⟩
      cases checked.symm.trans checked'
      exact writes' writes
    · obtain ⟨implicit, told⟩ := respond_settles sources schema writes world idle
      have yields : Run.Yields (respond Connection.engine sources schema request) _ :=
        respond_yields
      have yielded := yields world
      rcases responded : respond Connection.engine sources schema request world with
        ⟨fault | answer, later⟩
      · rw [responded] at implicit told ended
        obtain ⟨f, rfl, late⟩ := told
        rw [ended]
        refine ⟨implicit, late.trans ⟨fun h => ?_, ?_⟩⟩
        · exact ⟨request, checked, writes, f, h, rfl⟩
        · rintro ⟨-, -, -, g, late', same⟩
          exact (StoreFault.late_congr (Except.error.inj same)).mpr late'
      · rw [responded] at implicit told ended yielded
        have closed : later.state.inTransaction = false := told
        rw [ended]
        refine ⟨implicit, iff_of_false (by simp [closed]) ?_⟩
        rintro ⟨-, -, -, g, -, same⟩
        rcases yielded answer rfl _ same with none | empty
        · exact ofFault_ne.1 none
        · exact ofFault_ne.2 empty

end Execution

/-! ### Sequences of queries -/

/-- A query that has been answered, and the world after it. -/
structure Exchange (σ : Type) where
  query : Query
  answer : Answer
  after : World σ

/-- The answers to queries one after the other, whether or not they fail. -/
def Query.exchanges {σ : Type} (engine : Engine σ) (sources : Sources) :
    List (Schema × Query) → World σ → List (Exchange σ)
  | [], _ => []
  | (schema, query) :: rest, world =>
    let done := query.execute engine sources schema world
    ⟨query, done.1, done.2⟩ :: exchanges engine sources rest done.2

namespace Execution

/-- **Which transactions span queries.** On a connection whose writes have to be committed and with
no transaction open, a transaction is open after a query if and only if the query is answered with a
late fault of a write. So in a sequence of queries no transaction outlives its query if and only if
no write fails late. -/
theorem open_iff_failsLate (sources : Sources) (world : World Connection)
    (idle : world.state.Idle) :
    (∀ (schema : Schema) (query : Query),
      let done := query.execute Connection.engine sources schema world
      done.2.state.inTransaction = true ↔ query.FailsLate done.1) ∧
      ∀ calls : List (Schema × Query),
        (∀ exchange ∈ Query.exchanges Connection.engine sources calls world,
          exchange.after.state.inTransaction = false) ↔
        ∀ exchange ∈ Query.exchanges Connection.engine sources calls world,
          ¬exchange.query.FailsLate exchange.answer := by
  refine ⟨fun schema query => (execute_open_iff sources idle schema query).2, fun calls => ?_⟩
  induction calls generalizing world with
  | nil => exact iff_of_true (fun _ => nofun) fun _ => nofun
  | cons call rest ih =>
    obtain ⟨schema, query⟩ := call
    obtain ⟨implicit, told⟩ := execute_open_iff sources idle schema query
    rw [Query.exchanges, List.forall_mem_cons, List.forall_mem_cons, ← told,
      Bool.not_eq_true]
    exact and_congr_right fun closed => ih _ ⟨implicit, closed⟩

/-- A new store whose writes have to be committed. -/
def plainStore : World Connection := ⟨.plain Database.empty.create, Draws.none⟩

/-- A person is inserted twice. -/
def insertedTwice : List (Schema × Query) :=
  let person := [("id", .string "p-1"), ("display_name", .string "An")]
  let query := .request (plainRequest .insert "people" [person] [])
  [(Catalog.schema, query), (Catalog.schema, query)]

/-- The second insert is refused, and its transaction stays open. -/
theorem open_after_repetition :
    let exchanges := Query.exchanges Connection.engine (.steady 0 1) insertedTwice plainStore
    plainStore.state.Idle ∧
      exchanges.map (·.after.state.inTransaction) = [false, true] ∧
      exchanges.map (fun exchange => (Answer.document exchange.answer).field? "error") =
        [some .null, some (.object [
          ("message", .string "UNIQUE constraint failed: people.id"), ("code", .string "23505"),
          ("details", .null), ("hint", .null)])] :=
  ⟨⟨rfl, rfl⟩, by decide +kernel, by decide +kernel⟩

/-- One of the two inserts has failed late. -/
theorem open_iff_failsLate_repetition :
    plainStore.state.Idle ∧
      ∃ exchange ∈ Query.exchanges Connection.engine (.steady 0 1) insertedTwice plainStore,
        exchange.query.FailsLate exchange.answer := by
  have idle : plainStore.state.Idle := ⟨rfl, rfl⟩
  refine ⟨idle, ?_⟩
  by_contra none
  push Not at none
  have closed := ((open_iff_failsLate (.steady 0 1) plainStore idle).2 insertedTwice).mpr none
  exact absurd closed (by decide +kernel)

end Execution

end RowQuery
