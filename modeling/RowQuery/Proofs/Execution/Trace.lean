import Mathlib.Data.List.Forall2
import RowQuery.Engine.Transcript
import RowQuery.Proofs.Execution.Answer
import RowQuery.Proofs.Execution.Stored

/-!
# The statements of a request

Which statements a request has run, whatever the engine replies. On a scripted engine they can be
read off the transcript; a fault cuts them short, and nothing else changes them.

* `Run.Follows` says that a computation runs the statements of an agenda, or the first ones of them
  and then stops. Agendas are put together as computations are (`Run.Follows.bind`).
* `Execution.Agenda` are the statements that a request asks for.
* `Execution.respond_follows` — the answer to a request follows its agenda.

## Design notes

An agenda is a relation, since what an insert stores depends on the clock and on the identifiers
that are drawn.
-/

namespace RowQuery

/-- What an engine is given for a statement. -/
def Sql.Statement.given (statement : Sql.Statement) : String × List Json :=
  (statement.text, statement.params)

/-- What is given for a statement, if an event is one. -/
def Event.given? : Event → Option (String × List Json)
  | statement text params => some (text, params)
  | _ => none

namespace Run

variable {α β : Type}

/-- Whether the statements given to an engine are on the agenda: all of it for an outcome, and the
beginning of it for a fault. -/
def Keeps (agenda : α → List Sql.Statement → Prop) (outcome : Except Fault α)
    (given : List (String × List Json)) : Prop :=
  match outcome with
  | .ok a => ∃ statements, agenda a statements ∧ given = statements.map (·.given)
  | .error _ => ∃ a statements, agenda a statements ∧ given <+: statements.map (·.given)

namespace Keeps

variable {agenda larger : α → List Sql.Statement → Prop} {outcome : Except Fault α}
  {given : List (String × List Json)}

/-- In both cases what was given is the beginning of an agenda. -/
theorem exists_agenda (h : Keeps agenda outcome given) :
    ∃ a statements, agenda a statements ∧ given <+: statements.map (·.given) := by
  cases outcome with
  | ok a =>
    obtain ⟨statements, listed, rfl⟩ := h
    exact ⟨a, statements, listed, List.prefix_rfl⟩
  | error fault => exact h

theorem mono (h : Keeps agenda outcome given)
    (weaken : ∀ a statements, agenda a statements → larger a statements) :
    Keeps larger outcome given := by
  cases outcome with
  | ok a =>
    obtain ⟨statements, listed, rfl⟩ := h
    exact ⟨statements, weaken a statements listed, rfl⟩
  | error fault =>
    obtain ⟨a, statements, listed, front⟩ := h
    exact ⟨a, statements, weaken a statements listed, front⟩

/-- What is given after the whole of an agenda keeps to a longer one. -/
theorem after (h : Keeps agenda outcome given) (before : List Sql.Statement) :
    Keeps (fun a statements => ∃ rest, agenda a rest ∧ statements = before ++ rest) outcome
      (before.map (·.given) ++ given) := by
  cases outcome with
  | ok a =>
    obtain ⟨rest, listed, rfl⟩ := h
    exact ⟨before ++ rest, ⟨rest, listed, rfl⟩, List.map_append.symm⟩
  | error fault =>
    obtain ⟨a, rest, listed, front⟩ := h
    refine ⟨a, before ++ rest, ⟨rest, listed, rfl⟩, ?_⟩
    rw [List.map_append]
    exact (List.prefix_append_right_inj _).mpr front

end Keeps

/-- A computation adds to the transcript what keeps to the agenda. -/
def Follows (run : Run Transcript α) (agenda : α → List Sql.Statement → Prop) : Prop :=
  ∀ world, ∃ events, (run world).2.state.events = world.state.events ++ events ∧
    Keeps agenda (run world).1 (events.filterMap Event.given?)

namespace Follows

variable {first : Run Transcript α} {next : α → Run Transcript β}
  {agenda larger : α → List Sql.Statement → Prop} {later : α → β → List Sql.Statement → Prop}

theorem mono (h : Follows first agenda)
    (weaken : ∀ a statements, agenda a statements → larger a statements) :
    Follows first larger := by
  intro world
  obtain ⟨events, appended, keeps⟩ := h world
  exact ⟨events, appended, keeps.mono weaken⟩

/-- What can be followed is not empty: some run of the computation shows it. -/
theorem nonempty (h : Follows first agenda) : ∃ a statements, agenda a statements := by
  obtain ⟨events, -, keeps⟩ := h ⟨Transcript.start [] true, Draws.none⟩
  obtain ⟨a, statements, listed, -⟩ := keeps.exists_agenda
  exact ⟨a, statements, listed⟩

protected theorem pure (a : α) :
    Follows (pure a) fun found statements => found = a ∧ statements = [] :=
  fun _ => ⟨[], (List.append_nil _).symm, [], ⟨rfl, rfl⟩, rfl⟩

/-- One computation after the other follows one agenda after the other. -/
protected theorem bind (h : Follows first agenda) (h' : ∀ a, Follows (next a) (later a)) :
    Follows (first >>= next) fun b statements =>
      ∃ a before after, agenda a before ∧ later a b after ∧ statements = before ++ after := by
  intro world
  obtain ⟨events, appended, keeps⟩ := h world
  rw [bind_apply]
  rcases ran : first world with ⟨outcome, between⟩
  rw [ran] at appended keeps
  cases outcome with
  | error fault =>
    -- The second computation is not reached; its agenda is completed by one of its own runs.
    obtain ⟨a, before, listed, given⟩ := keeps
    obtain ⟨b, after, rest⟩ := (h' a).nonempty
    refine ⟨events, appended, b, before ++ after, ⟨a, before, after, listed, rest, rfl⟩, ?_⟩
    rw [List.map_append]
    exact given.trans (List.prefix_append _ _)
  | ok a =>
    obtain ⟨before, listed, given⟩ := keeps
    obtain ⟨more, appended', keeps'⟩ := h' a between
    refine ⟨events ++ more, ?_, ?_⟩
    · show (next a between).2.state.events = _
      rw [appended', appended, List.append_assoc]
    · show Keeps _ (next a between).1 _
      rw [List.filterMap_append, given]
      -- What the second computation runs comes after the whole of the first agenda.
      refine (keeps'.after before).mono ?_
      rintro b _ ⟨after, listed', rfl⟩
      exact ⟨a, before, after, listed, listed', rfl⟩

/-- A computation that leaves the engine alone. -/
theorem of_silent {yields : α → Prop} (h : Silent first yields) :
    Follows first fun a statements => yields a ∧ statements = [] := by
  intro world
  obtain ⟨same, a, outcome, yielded⟩ := h world
  refine ⟨[], by rw [same, List.append_nil], ?_⟩
  rw [outcome]
  exact ⟨[], ⟨yielded, rfl⟩, rfl⟩

end Follows

/-! ### The operations of an engine -/

section Operations

variable (statement : Sql.Statement)

/-- Whatever the script replies, the transcript shows the statement. -/
theorem query_events (world : World Transcript) :
    (query Transcript.engine statement world).2.state.events =
      world.state.events ++ [.statement statement.text statement.params] := by
  rcases script : world.state.script with _ | ⟨_ | _, _⟩ <;>
    simp [query, withCursor, onState, Transcript.engine, Transcript.run, Transcript.log, script]

theorem query_follows :
    Follows (query Transcript.engine statement) fun _ statements => statements = [statement] := by
  intro world
  refine ⟨_, query_events statement world, ?_⟩
  cases (query Transcript.engine statement world).1 with
  | ok reply => exact ⟨[statement], rfl, rfl⟩
  | error fault => exact ⟨⟨[], []⟩, [statement], rfl, List.prefix_rfl⟩

/-- A commit is no statement. -/
theorem change_follows :
    Follows (change fun state : Transcript =>
        if state.inTransaction then Transcript.engine.commit state else state)
      fun _ statements => statements = [] := by
  intro world
  by_cases open? : world.state.inTransaction
  · exact ⟨[.commit], by simp [change, open?, Transcript.engine, Transcript.log], [], rfl, rfl⟩
  · exact ⟨[], by simp [change, open?], [], rfl, rfl⟩

theorem write_follows :
    Follows (write Transcript.engine statement) fun _ statements => statements = [statement] := by
  refine ((query_follows statement).bind fun _ => change_follows).mono ?_
  rintro _ _ ⟨_, _, _, rfl, rfl, rfl⟩
  rfl

end Operations

end Run

namespace Execution

/-- The statements for a record of an insert. -/
def recordStatements (request : Request) (stored : Fields) : List Sql.Statement :=
  .insert request.table stored ::
    if request.wantsRows then
      [rereadStatement request ((Fields.get? stored "id").getD .null)]
    else []

/-- The statements of an update. Without anything to write there are none. -/
def updateStatements (schema : Schema) (request : Request) (stored : Fields) :
    List Sql.Statement :=
  if stored.isEmpty then []
  else .update request.table stored (conditions schema request) ::
    if request.wantsRows then
      [.select (projection request) request.table (conditions schema request) [] none]
    else []

/-- The statements that a request asks for. Identifiers and instants may be any. -/
def Agenda (schema : Schema) (request : Request) (statements : List Sql.Statement) : Prop :=
  let traits := schema.traits request.table
  match request.method with
  | .select => statements = [selectStatement schema request]
  | .insert => ∃ stored : List Fields,
      List.Forall₂ (fun record fields => ∃ identifier now,
        fields = storedRecord traits record identifier now) request.records stored ∧
      statements = stored.flatMap (recordStatements request)
  | .update => ∃ now,
      statements = updateStatements schema request (changedRecord traits request.firstRecord now)
  | .delete => statements = [.delete request.table (conditions schema request)]

open Run (Follows)

variable (sources : Sources) (schema : Schema) (request : Request)

theorem fetch_follows (table : String) (statement : Sql.Statement) :
    Follows (fetch Transcript.engine schema table statement)
      fun _ statements => statements = [statement] := by
  refine ((Run.query_follows statement).bind fun reply => Follows.pure _).mono ?_
  rintro _ _ ⟨_, _, _, rfl, ⟨_, rfl⟩, rfl⟩
  rfl

theorem insertRecord_follows (record : Fields) :
    Follows (insertRecord Transcript.engine sources schema request record) fun _ statements =>
      ∃ identifier now, statements = recordStatements request
        (storedRecord (schema.traits request.table) record identifier now) := by
  -- The draws come before the first statement and are none themselves; of the agenda for the
  -- record the write is the head, and what is read back is the tail.
  refine ((Follows.of_silent (identify_silent sources _)).bind fun identified =>
    (Follows.of_silent (Run.instant_silent sources)).bind fun now =>
      (Run.write_follows (.insert request.table
        (stamp (schema.traits request.table) now identified))).bind fun _ =>
          (?_ : Follows _ fun _ statements => statements =
            (recordStatements request
              (stamp (schema.traits request.table) now identified)).tail)).mono ?_
  · by_cases wanted : request.wantsRows
    · rw [if_pos wanted]
      refine ((fetch_follows schema request.table _).bind fun rows => Follows.pure _).mono ?_
      rintro _ _ ⟨_, _, _, rfl, ⟨_, rfl⟩, rfl⟩
      rw [recordStatements, if_pos wanted]
      rfl
    · rw [if_neg wanted]
      refine (Follows.pure _).mono ?_
      rintro _ _ ⟨_, rfl⟩
      rw [recordStatements, if_neg wanted]
      rfl
  · rintro _ _ ⟨_, _, _, ⟨⟨identifier, rfl⟩, rfl⟩,
      ⟨now, _, _, ⟨-, rfl⟩, ⟨_, _, _, rfl, rfl, rfl⟩, rfl⟩, rfl⟩
    exact ⟨identifier, now, rfl⟩

/-- The records of an insert are written one after the other, each with statements of its own. -/
theorem insertRecords_follows (records : List Fields) :
    Follows (insertRecords Transcript.engine sources schema request records) fun _ statements =>
      ∃ stored : List Fields,
        List.Forall₂ (fun record fields => ∃ identifier now,
          fields = storedRecord (schema.traits request.table) record identifier now)
          records stored ∧
        statements = stored.flatMap (recordStatements request) := by
  induction records with
  | nil =>
    refine (Follows.pure _).mono ?_
    rintro _ _ ⟨_, rfl⟩
    exact ⟨[], .nil, rfl⟩
  | cons record rest ih =>
    refine ((insertRecord_follows sources schema request record).bind fun rows =>
      ih.bind fun more => Follows.pure _).mono ?_
    rintro _ _ ⟨_, _, _, ⟨identifier, now, rfl⟩,
      ⟨_, _, _, ⟨stored, others, rfl⟩, ⟨_, rfl⟩, rfl⟩, rfl⟩
    refine ⟨_ :: stored, .cons ⟨identifier, now, rfl⟩ others, ?_⟩
    rw [List.append_nil, List.flatMap_cons]

theorem update_follows :
    Follows (update Transcript.engine sources schema request) fun _ statements =>
      ∃ now, statements = updateStatements schema request
        (changedRecord (schema.traits request.table) request.firstRecord now) := by
  refine ((Follows.of_silent (changes_silent sources schema request)).bind fun values =>
    (?_ : Follows _ fun _ statements =>
      statements = updateStatements schema request values)).mono ?_
  · by_cases nothing : values.isEmpty
    · rw [if_pos nothing]
      refine (Follows.pure _).mono ?_
      rintro _ _ ⟨_, rfl⟩
      rw [updateStatements, if_pos nothing]
    · rw [if_neg nothing]
      refine ((Run.write_follows _).bind fun _ => (?_ : Follows _ fun _ statements =>
        statements = (updateStatements schema request values).tail)).mono ?_
      · rw [updateStatements, if_neg nothing, List.tail_cons]
        by_cases wanted : request.wantsRows
        · rw [if_pos wanted, if_pos wanted]
          refine ((fetch_follows schema request.table _).bind fun rows => Follows.pure _).mono ?_
          rintro _ _ ⟨_, _, _, rfl, ⟨_, rfl⟩, rfl⟩
          rfl
        · rw [if_neg wanted, if_neg wanted]
          refine (Follows.pure _).mono ?_
          rintro _ _ ⟨_, rfl⟩
          rfl
      · rintro _ _ ⟨_, _, _, rfl, rfl, rfl⟩
        rw [updateStatements, if_neg nothing]
        rfl
  · rintro _ _ ⟨_, _, _, ⟨⟨now, rfl⟩, rfl⟩, rfl, rfl⟩
    exact ⟨now, rfl⟩

/-- **The answer to a request runs the statements that the request asks for**, up to a fault. -/
theorem respond_follows :
    Follows (respond Transcript.engine sources schema request) fun _ statements =>
      Agenda schema request statements := by
  rw [respond]
  unfold Agenda
  cases request.method with
  | select =>
    refine ((fetch_follows schema request.table _).bind fun rows => Follows.pure _).mono ?_
    rintro _ _ ⟨_, _, _, rfl, ⟨_, rfl⟩, rfl⟩
    rfl
  | insert =>
    refine ((insertRecords_follows sources schema request request.records).bind fun rows =>
      Follows.pure _).mono ?_
    rintro _ _ ⟨_, _, _, ⟨stored, each, rfl⟩, ⟨_, rfl⟩, rfl⟩
    exact ⟨stored, each, List.append_nil _⟩
  | update => exact update_follows sources schema request
  | delete =>
    refine ((Run.write_follows _).bind fun _ => Follows.pure _).mono ?_
    rintro _ _ ⟨_, _, _, rfl, ⟨_, rfl⟩, rfl⟩
    rfl

/-- The transcript of a query: its events, when nothing happened before. -/
def transcript (schema : Schema) (query : Query) (script : List ScriptedReply) (registered : Bool)
    (draws : Draws) : List Event :=
  (query.execute Transcript.engine sources schema
    ⟨Transcript.start script registered, draws⟩).2.state.events

variable {query : Query} (checked : query.check = .ok request) (script : List ScriptedReply)
  (registered : Bool) (draws : Draws)

include checked

theorem transcript_eq : transcript sources schema query script registered draws =
    (respond Transcript.engine sources schema request
      ⟨Transcript.engine.prepare (Transcript.start script registered), draws⟩).2.state.events := by
  rw [transcript, Query.execute, checked]
  show (answer Transcript.engine sources schema request _).2.state.events = _
  rw [answer_world]

/-- The statements in the transcript of a query are the first ones on the agenda of its request. -/
theorem transcript_given :
    ∃ statements, Agenda schema request statements ∧
      (transcript sources schema query script registered draws).filterMap Event.given? <+:
        statements.map (·.given) := by
  obtain ⟨events, appended, keeps⟩ := respond_follows sources schema request
    ⟨Transcript.engine.prepare (Transcript.start script registered), draws⟩
  have prepared : (Transcript.engine.prepare (Transcript.start script registered)).events.filterMap
      Event.given? = [] := by
    cases registered <;> rfl
  rw [transcript_eq sources schema request checked, appended, List.filterMap_append, prepared,
    List.nil_append]
  obtain ⟨_, statements, listed, front⟩ := keeps.exists_agenda
  exact ⟨statements, listed, front⟩

end Execution

end RowQuery
