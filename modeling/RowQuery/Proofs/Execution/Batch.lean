import RowQuery.Proofs.Execution.View
import RowQuery.Catalog.Tables

/-!
# Inserts of several records

An insert of several records is what the inserts of the single records are, one after the other, up
to the first that fails.

* `Query.executeEach` answers queries up to the first that fails.
* `Request.one` is a request with one record only.
* `Execution.insertRecords_spec` compares the inserts, given a view in which no preparation shows.
* `Execution.execute_batch` — the comparison for transcripts and for connections.
-/

namespace RowQuery

variable {σ τ : Type}

/-- Answers queries one after the other, up to the first that fails. -/
def Query.executeEach (engine : Engine σ) (sources : Sources) (schema : Schema) :
    List Query → World σ → Except Failure (List Json) × World σ
  | [], world => (.ok [], world)
  | query :: rest, world =>
    match query.execute engine sources schema world with
    | (.error failure, later) => (.error failure, later)
    | (.ok data, later) =>
      match executeEach engine sources schema rest later with
      | (.error failure, last) => (.error failure, last)
      | (.ok others, last) => (.ok (data :: others), last)

/-- The query like a request, with one record as its body. -/
def Request.one (request : Request) (record : Record) : Query :=
  .request { request with body := .record record }

namespace Execution

variable (engine : Engine σ) (sources : Sources) (schema : Schema) {request : Request}
  {view : σ → τ}

/-! ### The answer of an insert -/

/-- The data of an insert that yields these rows. -/
def inserted (request : Request) (rows : List Json) : Json :=
  if request.wantsRows then .array rows else .null

/-- The answer of an insert, by what becomes of its records. -/
def insertOutcome (request : Request) : Except Fault (List Json) → Answer
  | .ok rows => .ok (inserted request rows)
  | .error fault => .error (.ofFault fault)

theorem execute_insert {query : Query} (checked : query.check = .ok request)
    (inserts : request.method = .insert) (many : request.single = false) (world : World σ) :
    let ran := insertRecords engine sources schema request request.records
      { world with state := engine.prepare world.state }
    query.execute engine sources schema world = (insertOutcome request ran.1, ran.2) := by
  intro ran
  have answered (rows : List Json) : insertAnswer request rows = .ok (inserted request rows) := by
    unfold insertAnswer
    rw [many]
    rfl
  have attended : attend engine sources schema request world =
      (insertRecords engine sources schema request request.records >>= fun rows =>
        pure (insertAnswer request rows)) { world with state := engine.prepare world.state } := by
    rw [attend_apply, respond, inserts]
    rfl
  rw [Run.bind_apply] at attended
  rw [execute_eq engine sources schema request checked, attended]
  have unfolded : ran = insertRecords engine sources schema request request.records
    { world with state := engine.prepare world.state } := rfl
  rw [unfolded]
  rcases insertRecords engine sources schema request request.records
    { world with state := engine.prepare world.state } with ⟨fault | rows, later⟩
  · rfl
  · exact congrArg (·, later) (answered rows)

/-- The insert of a single record. -/
theorem execute_one (inserts : request.method = .insert) (many : request.single = false)
    (record : Record) (world : World σ) :
    let ran := insertRecord engine sources schema request record.fields
      { world with state := engine.prepare world.state }
    (request.one record).execute engine sources schema world =
      (insertOutcome request ran.1, ran.2) := by
  intro ran
  have alone : insertRecords engine sources schema { request with body := .record record }
      [record.fields] = insertRecord engine sources schema request record.fields := by
    simp only [insertRecords, pure_bind, List.append_nil, bind_pure]
    rfl
  have checked : (request.one record).check = .ok { request with body := .record record } := rfl
  have executed := execute_insert engine sources schema checked inserts many world
  have listed : ({ request with body := .record record } : Request).records = [record.fields] := rfl
  rw [listed, alone] at executed
  exact executed

/-! ### Many records -/

/-- How the outcome of a batch stands to that of its single inserts: it is the same failure, or the
rows are those of all the inserts. -/
def Gathers (request : Request) : Except Failure (List Json) → Except Fault (List Json) → Prop
  | .error failure, .error fault => failure = .ofFault fault
  | .ok data, .ok rows => request.wantsRows = true →
    ∃ lists : List (List Json), data = lists.map Json.array ∧ rows = lists.flatten
  | _, _ => False

theorem insertRecords_spec (shown : engine.ShownBy view) (inserts : request.method = .insert)
    (many : request.single = false) (records : List Record) {world other : World σ}
    (same : World.Alike view world other) :
    let batch := insertRecords engine sources schema request (records.map Record.fields) world
    let each := Query.executeEach engine sources schema (records.map request.one) other
    World.Alike view batch.2 each.2 ∧ Gathers request each.1 batch.1 := by
  induction records generalizing world other with
  | nil =>
    refine ⟨same, ?_⟩
    show request.wantsRows = true → ∃ lists : List (List Json),
      [] = lists.map Json.array ∧ [] = lists.flatten
    exact fun _ => ⟨[], rfl, rfl⟩
  | cons record rest ih =>
    intro batch each
    have composed := insertRecord_composed engine sources schema request record.fields
    -- The preparation of the single insert does not show.
    have prepared : World.Alike view world
        { other with state := engine.prepare other.state } :=
      ⟨same.1.trans (shown.prepare _).symm, same.2⟩
    obtain ⟨outcome, between⟩ := composed.respects shown world _ prepared
    have batch_eq : batch = (insertRecord engine sources schema request record.fields >>=
      fun rows => insertRecords engine sources schema request (rest.map Record.fields) >>=
        fun more => pure (rows ++ more)) world := rfl
    have each_eq : each = Query.executeEach engine sources schema
      (request.one record :: rest.map request.one) other := rfl
    rw [Query.executeEach, execute_one engine sources schema inserts many record other] at each_eq
    rw [Run.bind_apply] at batch_eq
    rcases ran : insertRecord engine sources schema request record.fields world with
      ⟨fault | rows, later⟩
    all_goals
      rcases ran' : insertRecord engine sources schema request record.fields
        { other with state := engine.prepare other.state } with ⟨found, later'⟩
      rw [ran, ran'] at outcome between
      cases outcome
      simp only [ran] at batch_eq
      simp only [ran', insertOutcome] at each_eq
    · rw [batch_eq, each_eq]
      exact ⟨between, rfl⟩
    · have after : World.Alike view later later' := between
      obtain ⟨alike, gathered⟩ := ih after
      rw [Run.bind_apply] at batch_eq
      rw [batch_eq, each_eq]
      revert alike gathered
      rcases insertRecords engine sources schema request (rest.map Record.fields) later with
          ⟨fault | others, last⟩ <;>
        rcases Query.executeEach engine sources schema (rest.map request.one) later' with
          ⟨failure | data, last'⟩ <;> intro alike gathered
      · exact ⟨alike, gathered⟩
      · exact gathered.elim
      · exact gathered.elim
      · refine ⟨alike, fun wanted => ?_⟩
        obtain ⟨lists, rfl, rfl⟩ := gathered wanted
        exact ⟨rows :: lists, by rw [inserted, if_pos wanted]; rfl, rfl⟩

/-! ### Queries -/

/-- An answer is what the answers to single queries make together, and leaves a world that looks the
same as theirs. -/
def OneByOne (view : σ → τ) (request : Request) (batch : Answer × World σ)
    (each : Except Failure (List Json) × World σ) : Prop :=
  World.Alike view batch.2 each.2 ∧
    match each.1 with
    | .error failure => batch.1 = .error failure
    | .ok data =>
      if request.wantsRows then
        ∃ lists : List (List Json), data = lists.map Json.array ∧
          batch.1 = .ok (.array lists.flatten)
      else batch.1 = .ok .null

/-- The comparison for an engine whose preparation does not show. -/
theorem execute_oneByOne (shown : engine.ShownBy view) {query : Query} {records : List Record}
    (checked : query.check = .ok request) (inserts : request.method = .insert)
    (many : request.single = false) (brought : request.body = .records records) (world : World σ) :
    OneByOne view request (query.execute engine sources schema world)
      (Query.executeEach engine sources schema (records.map request.one) world) := by
  have listed : request.records = records.map Record.fields := by
    rw [Request.records, brought]
  have prepared : World.Alike view { world with state := engine.prepare world.state } world :=
    ⟨shown.prepare _, rfl⟩
  obtain ⟨last, gathered⟩ := insertRecords_spec engine sources schema shown inserts many
    records prepared
  rw [execute_insert engine sources schema checked inserts many world, listed]
  refine ⟨last, ?_⟩
  revert gathered
  rcases insertRecords engine sources schema request (records.map Record.fields)
      { world with state := engine.prepare world.state } with ⟨fault | rows, later⟩ <;>
    rcases Query.executeEach engine sources schema (records.map request.one) world with
      ⟨failure | data, after⟩ <;> intro gathered
  · exact congrArg Except.error (Eq.symm gathered)
  · exact gathered.elim
  · exact gathered.elim
  · show if request.wantsRows then _ else _
    rw [insertOutcome, inserted]
    split
    · next wanted =>
      obtain ⟨lists, listed', rfl⟩ := gathered wanted
      exact ⟨lists, listed', rfl⟩
    · rfl

/-- **A batch is its single inserts.** An insert of several records is compared with the inserts of
the single records, one after the other and up to the first that fails: on a script of replies, on a
connection, and on a connection with a record of what it is asked. As much is drawn from the clock
and the identifiers, the statements and commits and what they leave are the same, and so is the
failure, if there is one; otherwise the rows are those of the single inserts together. -/
theorem execute_batch (sources : Sources) (schema : Schema) (query : Query) (request : Request)
    (records : List Record) (checked : query.check = .ok request)
    (inserts : request.method = .insert) (many : request.single = false)
    (brought : request.body = .records records) (draws : Draws) :
    (∀ transcript, OneByOne Transcript.unprobed request
        (query.execute Transcript.engine sources schema ⟨transcript, draws⟩)
        (Query.executeEach Transcript.engine sources schema (records.map request.one)
          ⟨transcript, draws⟩)) ∧
      (∀ connection, OneByOne id request
        (query.execute Connection.engine sources schema ⟨connection, draws⟩)
        (Query.executeEach Connection.engine sources schema (records.map request.one)
          ⟨connection, draws⟩)) ∧
      ∀ recorded, OneByOne (Engine.withDeeds id) request
        (query.execute Connection.engine.recorded sources schema ⟨recorded, draws⟩)
        (Query.executeEach Connection.engine.recorded sources schema (records.map request.one)
          ⟨recorded, draws⟩) :=
  ⟨fun _ => execute_oneByOne _ _ _ Transcript.shownBy_unprobed checked inserts many brought _,
    fun _ => execute_oneByOne _ _ _ Connection.shownBy_id checked inserts many brought _,
    fun _ => execute_oneByOne _ _ _ Connection.shownBy_id.recorded checked inserts many brought _⟩

/-- Three people, the second one with the identifier of the first. -/
def repeatedPeople : List Record := [
  .ofPairs [("id", .string "p-1"), ("display_name", .string "An")],
  .ofPairs [("id", .string "p-1"), ("display_name", .string "Binh")],
  .ofPairs [("id", .string "p-2"), ("display_name", .string "Chi")]]

/-- A request to insert them and to read them back. -/
def insertRepeated : Request where
  table := "people"
  method := .insert
  columns := some "id"
  body := .records repeatedPeople
  filters := []
  order := []
  limit := none
  single := false
  maybeSingle := false

/-- The second insert fails, in the batch as by itself. The first person stays. -/
theorem execute_batch_repeatedPeople :
    (Query.request insertRepeated).check = .ok insertRepeated ∧ insertRepeated.method = .insert ∧
      insertRepeated.single = false ∧ insertRepeated.body = .records repeatedPeople ∧
      let store : World (Connection × List Event) :=
        ⟨(.opened Database.empty.create, []), Draws.none⟩
      let batch := (Query.request insertRepeated).execute Connection.engine.recorded
        (.steady 0 1) Catalog.schema store
      let each := Query.executeEach Connection.engine.recorded (.steady 0 1) Catalog.schema
        (repeatedPeople.map insertRepeated.one) store
      OneByOne (Engine.withDeeds id) insertRepeated batch each ∧ batch.1.toOption = none ∧
        (batch.2.state.1.database.table? "people").map (·.rows.length) = some 1 := by
  refine ⟨rfl, rfl, rfl, rfl, ?_⟩
  intro store batch each
  obtain ⟨-, -, compared⟩ := execute_batch (.steady 0 1) Catalog.schema (.request insertRepeated)
    insertRepeated repeatedPeople rfl rfl rfl rfl Draws.none
  exact ⟨compared store.state, by decide +kernel, by decide +kernel⟩

end Execution

end RowQuery
