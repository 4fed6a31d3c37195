import RowQuery.Proofs.Execution.Answer
import RowQuery.Proofs.Execution.Containment
import RowQuery.Proofs.Execution.LateError
import RowQuery.Proofs.Request.NormalForm

/-!
# Engines without faults

An engine that reports no fault leaves few ways for a query to fail. They are looked for in a fixed
order, and most of them before the engine is asked anything.

* `Engine.Faultless` — an engine reports no fault, as long as its state is a sound one.
* `Run.Completes` — a computation does not stop on such an engine; `Run.Composed.completes` says
  that what requests are made of does not.
* `Query.Fails` lists the failures that are left.
* `Query.error_iff_fails` — these are the failures, and how far each of them gets.
-/

namespace RowQuery

variable {σ α β : Type}

/-- An engine that reports no fault: there are states, its sound ones, which no operation leaves
and in which every statement has a reply. -/
structure Engine.Faultless (engine : Engine σ) (sound : σ → Prop) : Prop where
  prepare {state : σ} : sound state → sound (engine.prepare state)
  openCursor {state : σ} : sound state → sound (engine.openCursor state)
  closeCursor {state : σ} : sound state → sound (engine.closeCursor state)
  commit {state : σ} : sound state → sound (engine.commit state)
  run (statement : Sql.Statement) {state : σ} : sound state →
    ∃ reply later, engine.run statement state = (.ok reply, later) ∧ sound later

/-- A scripted engine reports no fault as long as none is left in the script. -/
theorem Transcript.engine_faultless :
    Transcript.engine.Faultless fun transcript => ScriptedReply.Faultless transcript.script where
  prepare {transcript} sound := by
    show ScriptedReply.Faultless (if transcript.registered then _ else _ : Transcript).script
    split <;> exact sound
  openCursor sound := sound
  closeCursor sound := sound
  commit sound := sound
  run statement := by
    rintro ⟨script, registered, inTransaction, openCursors, events⟩ sound
    have rest : ScriptedReply.Faultless script.tail :=
      fun fault there => sound fault (List.mem_of_mem_tail there)
    rcases script with _ | ⟨reply | fault, script⟩
    · exact ⟨_, _, rfl, rest⟩
    · exact ⟨_, _, rfl, rest⟩
    · exact absurd List.mem_cons_self (sound fault)

/-! ### Computations that do not stop -/

namespace Run

variable {engine : Engine σ} {sources : Sources} {sound : σ → Prop}

/-- From a sound state the computation yields something, and the state after it is sound. -/
def Completes (sound : σ → Prop) (run : Run σ α) : Prop :=
  ∀ world, sound world.state → ∃ a later, run world = (.ok a, later) ∧ sound later.state

protected theorem Completes.bind {first : Run σ α} {next : α → Run σ β}
    (front : Completes sound first) (rest : ∀ a, Completes sound (next a)) :
    Completes sound (first >>= next) := by
  intro world begun
  obtain ⟨a, later, ran, kept⟩ := front world begun
  rw [bind_apply, ran]
  exact rest a later kept

theorem query_completes (faultless : engine.Faultless sound) (statement : Sql.Statement) :
    Completes sound (query engine statement) := by
  intro world begun
  obtain ⟨reply, later, ran, kept⟩ := faultless.run statement (faultless.openCursor begun)
  refine ⟨reply, { world with state := engine.closeCursor later }, ?_, faultless.closeCursor kept⟩
  simp only [query, withCursor, onState, ran]

theorem settle_completes (faultless : engine.Faultless sound) :
    Completes sound (settle engine) := by
  intro world begun
  refine ⟨(), _, rfl, ?_⟩
  show sound (if engine.inTransaction world.state then engine.commit world.state else world.state)
  split
  · exact faultless.commit begun
  · exact begun

theorem Composed.completes (faultless : engine.Faultless sound) {run : Run σ α}
    (h : Composed engine sources run) : Completes sound run := by
  induction h with
  | pure a => exact fun world begun => ⟨a, world, rfl, begun⟩
  | bind _ _ ih ih' => exact ih.bind ih'
  | prepare => exact fun _ begun => ⟨(), _, rfl, faultless.prepare begun⟩
  | instant | identifier => exact fun _ begun => ⟨_, _, rfl, begun⟩
  | query statement => exact query_completes faultless statement
  | settle => exact settle_completes faultless

end Run

/-! ### The failures that are left -/

/-- The request is an update that stores nothing, in a table without stamps. -/
def Request.ChangesNothing (schema : Schema) (request : Request) : Prop :=
  request.method = .update ∧ (schema.traits request.table).toStorage request.firstRecord = [] ∧
    (schema.traits request.table).stamped = false

/-- The request is a select of a single row, and the engine has none for it. -/
def Request.MissesRow (engine : Engine σ) (schema : Schema) (request : Request) (state : σ) :
    Prop :=
  request.method = .select ∧ request.single = true ∧
    ∃ reply, (engine.run (Execution.selectStatement schema request)
      (engine.openCursor (engine.prepare state))).1 = .ok reply ∧ reply.rows = []

namespace Execution

variable {engine : Engine σ} {sources : Sources} {schema : Schema} {request : Request}
  {sound : σ → Prop} {world : World σ}

theorem cardinality_eq_error_iff {rows : List Json} {failure : Failure} :
    cardinality request rows = .error failure ↔
      request.single = true ∧ rows = [] ∧ failure = .noRow := by
  unfold cardinality
  split
  · next single =>
    cases rows with
    | nil => exact ⟨fun h => ⟨single, rfl, (Except.error.inj h).symm⟩, fun h => by rw [h.2.2]⟩
    | cons row rest => exact ⟨nofun, nofun⟩
  · next many =>
    refine ⟨fun h => ?_, fun h => absurd h.1 many⟩
    split at h <;> cases h

theorem insert_yields : Run.Yields (insert engine sources schema request) fun answer =>
    ∃ data, answer = .ok data :=
  .bind fun rows => .pure (insertAnswer_ok request rows)

theorem delete_yields : Run.Yields (delete engine schema request) fun answer =>
    ∃ data, answer = .ok data :=
  .bind fun _ => .pure ⟨.null, rfl⟩

/-- An update that stores nothing is refused before a statement is run. -/
theorem update_of_changesNothing (empty : request.ChangesNothing schema) :
    update engine sources schema request = pure (.error .emptyUpdate) := by
  obtain ⟨-, nothing, unstamped⟩ := empty
  have unmarked : ¬(schema.traits request.table).stamped = true := by simp [unstamped]
  rw [update_eq, changes, if_neg unmarked, pure_bind, nothing]
  rfl

theorem changedRecord_eq_nil_iff {traits : Traits} {record : Fields} {now : Instant} :
    changedRecord traits record now = [] ↔
      traits.toStorage record = [] ∧ traits.stamped = false := by
  rw [changedRecord]
  split
  · next stamped =>
    have present : Fields.put (traits.toStorage record) stampColumn (.string now.text) ≠ [] := by
      cases traits.toStorage record with
      | nil => exact List.cons_ne_nil _ _
      | cons field rest =>
        rw [Fields.put]
        split <;> exact List.cons_ne_nil _ _
    exact iff_of_false present fun h => by simp [stamped] at h
  · next unstamped => simp [unstamped]

theorem writeAndRead_yields {present : List Json → Answer} {writing : Sql.Statement}
    {conditions : List Sql.Condition} (shows : ∀ rows, ∃ data, present rows = .ok data) :
    Run.Yields (writeAndRead engine schema request present writing conditions) fun answer =>
      ∃ data, answer = .ok data := by
  refine .bind fun _ => ?_
  unfold readBack
  split
  · exact .bind fun rows => .pure (shows rows)
  · exact .pure ⟨.null, rfl⟩

/-- Any other update is answered with data, where the engine reports no fault. -/
theorem update_yields (method : request.method = .update)
    (changing : ¬request.ChangesNothing schema) :
    Run.Yields (update engine sources schema request) fun answer => ∃ data, answer = .ok data := by
  intro world answer outcome
  obtain ⟨draws, changed⟩ := changes_apply sources schema request world
  rw [update_eq, Run.bind_apply, changed] at outcome
  have present : ¬(changedRecord (schema.traits request.table) request.firstRecord
      (sources.instant world.draws.instants)).isEmpty = true := by
    rw [List.isEmpty_iff, changedRecord_eq_nil_iff]
    exact fun nothing => changing ⟨method, nothing⟩
  simp only [if_neg present] at outcome
  exact writeAndRead_yields (fun _ => ⟨_, rfl⟩) _ answer outcome

/-- A select is answered by what the engine replies. -/
theorem select_apply {reply : Reply} {later : σ}
    (ran : engine.run (selectStatement schema request) (engine.openCursor world.state) =
      (.ok reply, later)) :
    (select engine schema request world).1 = .ok (cardinality request (reply.records.map
      fun record => .object ((schema.traits request.table).toLogical record))) := by
  have replied : Run.query engine (selectStatement schema request) world =
      (.ok reply, { world with state := engine.closeCursor later }) := by
    simp only [Run.query, Run.withCursor, Run.onState, ran]
  rw [select, fetch, bind_assoc, Run.bind_apply, replied]
  rfl

/-- A select whose statement fails stops. -/
theorem select_apply_fault {fault : Fault} {later : σ}
    (ran : engine.run (selectStatement schema request) (engine.openCursor world.state) =
      (.error fault, later)) :
    (select engine schema request world).1 = .error fault := by
  have stopped : Run.query engine (selectStatement schema request) world =
      (.error fault, { world with state := engine.closeCursor later }) := by
    simp only [Run.query, Run.withCursor, Run.onState, ran]
  rw [select, fetch, bind_assoc, Run.bind_apply, stopped]

/-- A query that selects is answered by its select. -/
theorem execute_of_select {query : Query} (checked : query.check = .ok request)
    (method : request.method = .select) (world : World σ) :
    (query.execute engine sources schema world).1 = conclude
      (select engine schema request { world with state := engine.prepare world.state }).1 := by
  rw [execute_eq engine sources schema request checked, attend_apply, respond, method]

/-- Without faults a request fails if it is an update that changes nothing or a select of a single
row that is not there. -/
theorem attend_error_iff (sources : Sources) (schema : Schema) (request : Request)
    (faultless : engine.Faultless sound) (begun : sound world.state) :
    ∃ answer later, attend engine sources schema request world = (.ok answer, later) ∧
      ∀ failure, answer = .error failure ↔
        request.ChangesNothing schema ∧ failure = .emptyUpdate ∨
          request.MissesRow engine schema world.state ∧ failure = .noRow := by
  obtain ⟨answer, later, attended, -⟩ :=
    (attend_composed engine sources schema request).completes faultless world begun
  refine ⟨answer, later, attended, fun failure => ?_⟩
  have yielded : (respond engine sources schema request
      { world with state := engine.prepare world.state }).1 = .ok answer :=
    congrArg Prod.fst attended
  rw [respond] at yielded
  -- Each of the two causes belongs to one method.
  have updates (h : request.ChangesNothing schema) := h.1
  have selects (h : request.MissesRow engine schema world.state) := h.1
  cases method : request.method with
  | select =>
    obtain ⟨reply, after, ran, -⟩ := faultless.run (selectStatement schema request)
      (faultless.openCursor (faultless.prepare begun))
    have replied : (select engine schema request
        { world with state := engine.prepare world.state }).1 = _ := select_apply ran
    simp only [method, replied, Except.ok.injEq] at yielded
    have changing : ¬request.ChangesNothing schema :=
      fun h => by cases method.symm.trans (updates h)
    have missing : request.MissesRow engine schema world.state ↔
        request.single = true ∧ reply.rows = [] := by
      simp [Request.MissesRow, method, ran]
    rw [← yielded, cardinality_eq_error_iff, missing]
    simp [changing, Reply.records, and_assoc]
  | update =>
    simp only [method] at yielded
    have other : ¬request.MissesRow engine schema world.state :=
      fun h => by cases method.symm.trans (selects h)
    by_cases empty : request.ChangesNothing schema
    · rw [update_of_changesNothing empty] at yielded
      cases yielded
      simp [empty, other, eq_comm]
    · obtain ⟨data, rfl⟩ := update_yields method empty _ _ yielded
      simp [empty, other]
  | insert =>
    simp only [method] at yielded
    obtain ⟨data, rfl⟩ := insert_yields _ _ yielded
    refine iff_of_false (fun failed => by cases failed) ?_
    rintro (⟨h, -⟩ | ⟨h, -⟩) <;> cases method.symm.trans h.1
  | delete =>
    simp only [method] at yielded
    obtain ⟨data, rfl⟩ := delete_yields _ _ yielded
    refine iff_of_false (fun failed => by cases failed) ?_
    rintro (⟨h, -⟩ | ⟨h, -⟩) <;> cases method.symm.trans h.1

end Execution

namespace Query

open Execution

/-- The value that a document gives for its method. -/
def givenMethod (fields : Fields) : Json := (Fields.get? fields "method").getD .null

/-- The failures of a document, where the engine reports no fault. Each cause stands for itself:
whatever comes before it has been ruled out. -/
inductive Fails (engine : Engine σ) (schema : Schema) (fields : Fields) (state : σ) :
    Failure → Prop where
  | unknownMethod (unknown : Method.ofJson? (givenMethod fields) = none) :
    Fails engine schema fields state (.unknownMethod (givenMethod fields))
  | invalidRequest {method : Method} {issues : List Issue}
    (known : Method.ofJson? (givenMethod fields) = some method)
    (refused : Request.read (.object fields) = .failed issues) :
    Fails engine schema fields state (.invalidRequest ⟨Request.model, issues⟩)
  | emptyUpdate {request : Request} (read : Request.read (.object fields) = .ok request)
    (empty : request.ChangesNothing schema) : Fails engine schema fields state .emptyUpdate
  | noRow {request : Request} (read : Request.read (.object fields) = .ok request)
    (missing : request.MissesRow engine schema state) : Fails engine schema fields state .noRow

variable {engine : Engine σ} {sources : Sources} {schema : Schema} {fields : Fields}
  {sound : σ → Prop} {world : World σ}

/-- A document whose method is unknown is not looked at any further. -/
theorem check_of_unknown (unknown : Method.ofJson? (givenMethod fields) = none) :
    check (.document (.object fields)) = .error (.unknownMethod (givenMethod fields)) := by
  show check.withMethod (givenMethod fields) _ = _
  rw [check.withMethod, unknown]
  rfl

theorem check_of_refused {method : Method} {issues : List Issue}
    (known : Method.ofJson? (givenMethod fields) = some method)
    (refused : Request.read (.object fields) = .failed issues) :
    check (.document (.object fields)) = .error (.invalidRequest ⟨Request.model, issues⟩) := by
  show check.withMethod (givenMethod fields) (Request.read (.object fields)) = _
  rw [check.withMethod, known, refused]
  rfl

/-- A document that is read as a request has a known method. -/
theorem known_of_read {request : Request} (read : Request.read (.object fields) = .ok request) :
    ∃ method, Method.ofJson? (givenMethod fields) = some method := by
  have checked := check_of_read read
  cases known : Method.ofJson? (givenMethod fields) with
  | none =>
    rw [check_of_unknown known] at checked
    cases checked
  | some method => exact ⟨method, rfl⟩

theorem fails_iff_of_unknown {state : σ} (unknown : Method.ofJson? (givenMethod fields) = none)
    (failure : Failure) : Fails engine schema fields state failure ↔
      failure = .unknownMethod (givenMethod fields) := by
  refine ⟨fun h => ?_, fun same => same ▸ .unknownMethod unknown⟩
  cases h with
  | unknownMethod => rfl
  | invalidRequest known => cases unknown.symm.trans known
  | emptyUpdate read | noRow read =>
    obtain ⟨method, known⟩ := known_of_read read
    cases unknown.symm.trans known

theorem fails_iff_of_refused {state : σ} {method : Method} {issues : List Issue}
    (known : Method.ofJson? (givenMethod fields) = some method)
    (refused : Request.read (.object fields) = .failed issues) (failure : Failure) :
    Fails engine schema fields state failure ↔
      failure = .invalidRequest ⟨Request.model, issues⟩ := by
  refine ⟨fun h => ?_, fun same => same ▸ .invalidRequest known refused⟩
  cases h with
  | unknownMethod unknown => cases known.symm.trans unknown
  | invalidRequest _ refused' =>
    cases refused.symm.trans refused'
    rfl
  | emptyUpdate read | noRow read => cases refused.symm.trans read

theorem fails_iff_of_read {state : σ} {request : Request}
    (read : Request.read (.object fields) = .ok request) (failure : Failure) :
    Fails engine schema fields state failure ↔
      request.ChangesNothing schema ∧ failure = .emptyUpdate ∨
        request.MissesRow engine schema state ∧ failure = .noRow := by
  constructor
  · intro h
    cases h with
    | unknownMethod unknown =>
      obtain ⟨method, known⟩ := known_of_read read
      cases known.symm.trans unknown
    | invalidRequest _ refused => cases read.symm.trans refused
    | emptyUpdate read' empty =>
      cases read.symm.trans read'
      exact .inl ⟨empty, rfl⟩
    | noRow read' missing =>
      cases read.symm.trans read'
      exact .inr ⟨missing, rfl⟩
  · rintro (⟨empty, rfl⟩ | ⟨missing, rfl⟩)
    · exact .emptyUpdate read empty
    · exact .noRow read missing

/-- A query that is refused leaves the world alone. -/
theorem execute_of_check_error {query : Query} {failure : Failure}
    (refused : query.check = .error failure) :
    query.execute engine sources schema world = (.error failure, world) := by
  rw [execute, refused]

/-- **What can fail on an engine without faults.** A query fails if its method is unknown, if it is
no request, if it is an update that changes nothing, or if it is a select of a single row and the
engine has none: in this order, and in no other case. In the first two cases nothing happens, and in
the third one the engine is prepared and nothing else. There is no data in any of them. -/
theorem error_iff_fails (faultless : engine.Faultless sound) (sources : Sources) (schema : Schema)
    (fields : Fields) (world : World σ) (begun : sound world.state) :
    let ran := execute engine sources schema (.document (.object fields)) world
    (∀ failure, ran.1 = .error failure ↔ Fails engine schema fields world.state failure) ∧
      ((∀ request, Request.read (.object fields) ≠ .ok request) → ran.2 = world) ∧
      (∀ request, Request.read (.object fields) = .ok request →
        request.ChangesNothing schema →
          ran.2 = { world with state := engine.prepare world.state }) ∧
      ∀ failure, ran.1 = .error failure →
        Answer.document ran.1 = .object [("data", .null), ("error", failure.document)] ∧
          match failure with
          | .unknownMethod method =>
            failure.message = "Unknown method: " ++ method.display ∧ failure.code = none
          | .noRow => failure.code = some "PGRST116"
          | _ => failure.code = some "22023" := by
  intro ran
  have causes : ∀ failure, ran.1 = .error failure ↔
      Fails engine schema fields world.state failure := by
    intro failure
    cases known : Method.ofJson? (givenMethod fields) with
    | none =>
      have ended : ran = _ := execute_of_check_error (check_of_unknown known)
      rw [ended, fails_iff_of_unknown known, Except.error.injEq, eq_comm]
    | some method =>
      cases read : Request.read (.object fields) with
      | failed issues =>
        have ended : ran = _ := execute_of_check_error (check_of_refused known read)
        rw [ended, fails_iff_of_refused known read, Except.error.injEq, eq_comm]
      | ok request =>
        obtain ⟨answer, later, attended, fails⟩ := attend_error_iff sources schema request
          faultless begun
        have ended : ran = _ := execute_eq engine sources schema request (check_of_read read) world
        rw [ended, attended, fails_iff_of_read read]
        exact fails failure
  refine ⟨causes, fun unread => ?_, fun request read empty => ?_, fun failure failed => ?_⟩
  · cases known : Method.ofJson? (givenMethod fields) with
    | none => exact congrArg Prod.snd (execute_of_check_error (check_of_unknown known))
    | some method =>
      cases read : Request.read (.object fields) with
      | failed issues =>
        exact congrArg Prod.snd (execute_of_check_error (check_of_refused known read))
      | ok request => exact absurd read (unread request)
  · have ended : ran = _ := execute_eq engine sources schema request (check_of_read read) world
    rw [ended, attend_apply, respond, empty.1]
    simp only [update_of_changesNothing empty]
    rfl
  · rw [failed]
    refine ⟨rfl, ?_⟩
    cases (causes failure).mp failed with
    | unknownMethod => exact ⟨rfl, rfl⟩
    | invalidRequest | emptyUpdate | noRow => rfl

/-- A person who is looked for as a single row, on a script that has none. -/
theorem error_iff_fails_noRow :
    let fields : Fields := [("table", .string "people"), ("method", .string "select"),
      ("single", .string "yes")]
    let script : List ScriptedReply := [.rows ⟨["id"], []⟩ none]
    ScriptedReply.Faultless script ∧
      (execute Transcript.engine (.steady 0 1) ⟨[]⟩ (.document (.object fields))
        ⟨Transcript.start script false, Draws.none⟩).1 = .error .noRow := by
  intro fields script
  have faultless : ScriptedReply.Faultless script := by simp [ScriptedReply.Faultless, script]
  refine ⟨faultless, ?_⟩
  have causes := (error_iff_fails Transcript.engine_faultless (.steady 0 1) ⟨[]⟩ fields
    ⟨Transcript.start script false, Draws.none⟩ faultless).1
  exact (causes .noRow).mpr (.noRow rfl ⟨rfl, rfl, _, rfl, rfl⟩)

end Query

end RowQuery
