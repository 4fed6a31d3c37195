import Mathlib.Data.List.Basic
import RowQuery.Proofs.Execution.Composition
import RowQuery.Proofs.Execution.Trace
import RowQuery.Proofs.Store.FaultCode

/-!
# A fault in the middle of a request

What becomes of a request one of whose statements fails, compared with the same request when none
does. The transcript ends with the statement that fails, the answer tells the fault, and every
cursor is closed. A fault that is not reached changes nothing.

* `ScriptedReply.faultAfter` is a script with a fault put in.
* `Event.CutAfter` says that a transcript is the beginning of another one, up to a statement.
* `Run.Contained` compares a computation with and without the fault; `Run.Composed.contained` says
  that what requests are made of is contained.
* `Execution.execute_contained` — the same for queries.

## Design notes

The statements are counted from zero. What a computation has run is taken off the count before the
next one, so of two computations one after the other either the first has the fault, or the second
has it so many statements earlier.
-/

namespace RowQuery

namespace ScriptedReply

/-- The reply of a script that is used up. -/
def nothing : ScriptedReply := .rows ⟨[], []⟩ none

/-- A script in which the reply after the first `n` is a fault. -/
def faultAfter (n : Nat) (fault : Fault) (script : List ScriptedReply) : List ScriptedReply :=
  script.takeD n nothing ++ .fault fault :: script.drop (n + 1)

/-- Whether a script has no fault. -/
def Faultless (script : List ScriptedReply) : Prop := ∀ fault, ScriptedReply.fault fault ∉ script

end ScriptedReply

namespace Event

/-- Of a list of events, what engines are given for the statements. -/
def given (events : List Event) : List (String × List Json) := events.filterMap given?

/-- Whether a list of events is the beginning of another one, up to and with the statement after the
first `n`. -/
def CutAfter (n : Nat) (whole cut : List Event) : Prop :=
  ∃ before statement after, whole = before ++ statement :: after ∧ cut = before ++ [statement] ∧
    statement.given?.isSome ∧ (given before).length = n

theorem given_append (events later : List Event) : given (events ++ later) =
    given events ++ given later := List.filterMap_append

namespace CutAfter

variable {n : Nat} {whole cut : List Event}

theorem append_right (h : CutAfter n whole cut) (later : List Event) :
    CutAfter n (whole ++ later) cut := by
  obtain ⟨before, statement, after, rfl, rfl, given, count⟩ := h
  exact ⟨before, statement, after ++ later, by simp, rfl, given, count⟩

/-- What comes before counts. -/
theorem append_left (earlier : List Event) (reached : (given earlier).length ≤ n)
    (h : CutAfter (n - (given earlier).length) whole cut) :
    CutAfter n (earlier ++ whole) (earlier ++ cut) := by
  obtain ⟨before, statement, after, rfl, rfl, given, count⟩ := h
  refine ⟨earlier ++ before, statement, after, by simp, by simp, given, ?_⟩
  rw [given_append, List.length_append, count]
  omega

/-- There are more than `n` statements where one comes after the first `n`. -/
theorem lt_length (h : CutAfter n whole cut) : n < (given whole).length := by
  obtain ⟨before, statement, after, rfl, -, isStatement, count⟩ := h
  obtain ⟨pair, paired⟩ := Option.isSome_iff_exists.mp isStatement
  have one : given (statement :: after) = pair :: given after := List.filterMap_cons_some paired
  rw [given_append, one, List.length_append, List.length_cons, count]
  omega

end CutAfter

end Event

open Event (given CutAfter)
open ScriptedReply (faultAfter Faultless)

/-- A world whose engine reports a fault after the first `n` statements. -/
def World.failing (n : Nat) (fault : Fault) (world : World Transcript) : World Transcript :=
  { world with state := { world.state with script := faultAfter n fault world.state.script } }

namespace Run

variable {α β : Type} {sources : Sources}

/-! ### Cursors -/

/-- A computation closes the cursors that it opens, whether or not it stops. -/
def Balanced (run : Run Transcript α) : Prop :=
  ∀ world, (run world).2.state.openCursors = world.state.openCursors

theorem query_balanced (statement : Sql.Statement) :
    Balanced (query Transcript.engine statement) := by
  rintro ⟨⟨script, registered, inTransaction, openCursors, events⟩, draws⟩
  rcases script with _ | ⟨_ | _, _⟩ <;> rfl

theorem settle_balanced : Balanced (settle Transcript.engine) := by
  rintro ⟨⟨script, registered, inTransaction, openCursors, events⟩, draws⟩
  cases inTransaction <;> rfl

theorem prepare_balanced : Balanced (change Transcript.engine.prepare) := by
  rintro ⟨⟨script, registered, inTransaction, openCursors, events⟩, draws⟩
  cases registered <;> rfl

theorem Composed.balanced {run : Run Transcript α}
    (h : Composed Transcript.engine sources run) : Balanced run := by
  induction h with
  | prepare => exact prepare_balanced
  | pure a => exact fun _ => rfl
  | instant => exact fun _ => rfl
  | identifier => exact fun _ => rfl
  | query statement => exact query_balanced statement
  | settle => exact settle_balanced
  | @bind _ _ first next _ _ ih ih' =>
    intro world
    have front := ih world
    rw [bind_apply]
    rcases ran : first world with ⟨_ | a, later⟩
    · rw [ran] at front
      exact front
    · rw [ran] at front
      exact (ih' a later).trans front

/-! ### Faults -/

/-- How a computation goes when the statement after the first `n` fails, compared with how it goes
without a fault. Either it does not get there, and the fault is still to come. Or it stops there,
its events being cut after that statement. -/
def Contained (run : Run Transcript α) : Prop :=
  ∀ world n fault, Faultless world.state.script →
    ∃ events, (run world).2.state.events = world.state.events ++ events ∧
      Faultless (run world).2.state.script ∧
      ((given events).length ≤ n ∧ run (world.failing n fault) =
          ((run world).1, (run world).2.failing (n - (given events).length) fault) ∨
        ∃ cut, CutAfter n events cut ∧ (run (world.failing n fault)).1 = .error fault ∧
          (run (world.failing n fault)).2.state.events = world.state.events ++ cut)

namespace Contained

protected theorem pure (a : α) : Contained (pure a) := fun _ n _ sound =>
  ⟨[], (List.append_nil _).symm, sound, .inl ⟨Nat.zero_le n, rfl⟩⟩

protected theorem bind {first : Run Transcript α} {next : α → Run Transcript β}
    (front : Contained first) (rest : ∀ a, Contained (next a)) : Contained (first >>= next) := by
  intro world n fault sound
  obtain ⟨events, appended, sound', outcome⟩ := front world n fault sound
  rw [bind_apply, bind_apply]
  rcases outcome with ⟨few, failing⟩ | ⟨cut, cutAfter, stopped, shown⟩
  · rw [failing]
    rcases ran : first world with ⟨found | a, later⟩
    · rw [ran] at appended sound'
      exact ⟨events, appended, sound', .inl ⟨few, rfl⟩⟩
    · rw [ran] at appended sound'
      -- The fault is still to come, so many statements earlier.
      obtain ⟨more, appended', sound'', outcome'⟩ :=
        rest a later (n - (given events).length) fault sound'
      refine ⟨events ++ more, by rw [appended', appended, List.append_assoc], sound'', ?_⟩
      rw [Event.given_append, List.length_append]
      rcases outcome' with ⟨few', failing'⟩ | ⟨cut, cutAfter, stopped, shown⟩
      · rw [Nat.sub_add_eq]
        exact .inl ⟨by omega, failing'⟩
      · refine .inr ⟨events ++ cut, cutAfter.append_left events few, stopped, ?_⟩
        rw [shown, ← List.append_assoc, ← appended]
  · rcases failed : first (world.failing n fault) with ⟨found | a, after⟩
    · rw [failed] at stopped shown
      cases stopped
      rcases ran : first world with ⟨found' | a, later⟩
      · rw [ran] at appended sound'
        exact ⟨events, appended, sound', .inr ⟨cut, cutAfter, rfl, shown⟩⟩
      · rw [ran] at appended sound'
        -- Without the fault there is more to come, which the cut leaves out.
        obtain ⟨more, appended', sound'', -⟩ := rest a later n fault sound'
        exact ⟨events ++ more, by rw [appended', appended, List.append_assoc], sound'',
          .inr ⟨cut, cutAfter.append_right more, rfl, shown⟩⟩
    · rw [failed] at stopped
      cases stopped

end Contained

theorem query_contained (statement : Sql.Statement) :
    Contained (query Transcript.engine statement) := by
  rintro ⟨⟨script, registered, inTransaction, openCursors, events⟩, draws⟩ n fault sound
  refine ⟨[.statement statement.text statement.params], query_events statement _, ?_⟩
  have rest : Faultless script.tail := fun f mem => sound f (List.mem_of_mem_tail mem)
  rcases script with _ | ⟨reply | found, script⟩
  · cases n with
    | zero => exact ⟨rest, .inr ⟨_, ⟨[], _, [], rfl, rfl, rfl, rfl⟩, rfl, rfl⟩⟩
    | succ n => exact ⟨rest, .inl ⟨Nat.le_add_left 1 n, rfl⟩⟩
  · cases n with
    | zero => exact ⟨rest, .inr ⟨_, ⟨[], _, [], rfl, rfl, rfl, rfl⟩, rfl, rfl⟩⟩
    | succ n => exact ⟨rest, .inl ⟨Nat.le_add_left 1 n, rfl⟩⟩
  · exact absurd (List.mem_cons_self ..) (sound found)

theorem settle_contained : Contained (settle Transcript.engine) := by
  rintro ⟨⟨script, registered, inTransaction, openCursors, events⟩, draws⟩ n fault sound
  cases inTransaction with
  | false => exact ⟨[], (List.append_nil _).symm, sound, .inl ⟨Nat.zero_le n, rfl⟩⟩
  | true => exact ⟨[.commit], rfl, sound, .inl ⟨Nat.zero_le n, rfl⟩⟩

theorem prepare_contained : Contained (change Transcript.engine.prepare) := by
  rintro ⟨⟨script, registered, inTransaction, openCursors, events⟩, draws⟩ n fault sound
  cases registered with
  | false =>
    have appended : events ++ [.probe] ++ [.register] = events ++ [Event.probe, .register] :=
      List.append_assoc ..
    exact ⟨[.probe, .register], appended, sound, .inl ⟨Nat.zero_le n, rfl⟩⟩
  | true => exact ⟨[.probe], rfl, sound, .inl ⟨Nat.zero_le n, rfl⟩⟩

theorem Composed.contained {run : Run Transcript α}
    (h : Composed Transcript.engine sources run) : Contained run := by
  induction h with
  | pure a => exact .pure a
  | bind _ _ ih ih' => exact ih.bind ih'
  | query statement => exact query_contained statement
  | settle => exact settle_contained
  | prepare => exact prepare_contained
  | instant | identifier =>
    exact fun _ n _ sound =>
      ⟨[], (List.append_nil _).symm, sound, .inl ⟨Nat.zero_le n, rfl⟩⟩

end Run

/-! ### Queries -/

namespace Execution

/-- The answer to a query and the world after it, when replies come from a script and nothing
happened before. -/
def scripted (sources : Sources) (schema : Schema) (query : Query) (registered : Bool)
    (draws : Draws) (script : List ScriptedReply) : Answer × World Transcript :=
  query.execute Transcript.engine sources schema ⟨Transcript.start script registered, draws⟩

/-- **A fault is contained.** Two runs of a query are compared, one on a script without faults and
one on the same script with a fault after the first `n` replies. All cursors are closed in both. If
the first run has a statement after its first `n`, the transcript of the second one ends with that
statement, and the answer is the failure of the fault, whichever way it is found. Otherwise the
second run is the first one over again. -/
theorem execute_contained (sources : Sources) (schema : Schema) (query : Query) (request : Request)
    (script : List ScriptedReply) (registered : Bool) (draws : Draws) (n : Nat) (fault : Fault)
    (checked : query.check = .ok request) (faultless : Faultless script) :
    let whole := scripted sources schema query registered draws script
    let failing := scripted sources schema query registered draws (faultAfter n fault script)
    whole.2.state.openCursors = 0 ∧ failing.2.state.openCursors = 0 ∧
      (n < (given whole.2.state.events).length →
        CutAfter n whole.2.state.events failing.2.state.events ∧
          Answer.document failing.1 =
            .object [("data", .null), ("error", (Failure.engine fault).document)]) ∧
      ((given whole.2.state.events).length ≤ n →
        failing.1 = whole.1 ∧ failing.2.state.events = whole.2.state.events ∧
          failing.2.draws = whole.2.draws) := by
  intro whole failing
  let attended := attend Transcript.engine sources schema request
  have composed : Run.Composed Transcript.engine sources attended :=
    attend_composed Transcript.engine sources schema request
  let start : World Transcript := ⟨Transcript.start script registered, draws⟩
  have whole_eq : whole = (conclude (attended start).1, (attended start).2) :=
    execute_eq Transcript.engine sources schema request checked _
  have failing_eq : failing = (conclude (attended (start.failing n fault)).1,
      (attended (start.failing n fault)).2) :=
    execute_eq Transcript.engine sources schema request checked _
  have closed (world : World Transcript) (h : world.state.openCursors = 0) :
      (attended world).2.state.openCursors = 0 := (composed.balanced world).trans h
  obtain ⟨events, shown, -, outcome⟩ := composed.contained start n fault faultless
  have shown : (attended start).2.state.events = events := shown
  rw [whole_eq, failing_eq, shown]
  refine ⟨closed _ rfl, closed _ rfl, ?_⟩
  rcases outcome with ⟨few, same⟩ | ⟨cut, cutAfter, stopped, shown'⟩
  · refine ⟨fun many => absurd many (Nat.not_lt.mpr few), fun _ => ?_⟩
    rw [same]
    exact ⟨rfl, shown, rfl⟩
  · refine ⟨fun _ => ?_, fun few => absurd cutAfter.lt_length (Nat.not_lt.mpr few)⟩
    rw [stopped, shown']
    refine ⟨cutAfter, ?_⟩
    show Json.object [("data", .null), ("error", (Failure.ofFault fault).document)] = _
    rw [Failure.document_ofFault]

/-- A request to insert two members and to read them back. -/
def twoMembers : Request where
  table := "members"
  method := .insert
  columns := some "*"
  body := .records [.ofPairs [("id", .string "m-1")],
    .ofPairs [("id", .string "m-1"), ("name", .string "An")]]
  filters := []
  order := []
  limit := none
  single := false
  maybeSingle := false

/-- Replies to the two writes and to what is read back between them. Each write begins a
transaction. -/
def twoReplies : List ScriptedReply := [
  .rows ⟨[], []⟩ (some true),
  .rows ⟨["id"], [[.string "m-1"]]⟩ none,
  .rows ⟨[], []⟩ (some true)]

/-- What the store says of a second member with the identifier of the first. -/
def repeatedMember : Fault := ⟨"IntegrityError", "UNIQUE constraint failed: members.id"⟩

/-- The second write fails: the first one stays committed, and nothing comes after the failure. -/
theorem execute_contained_twoMembers :
    Faultless twoReplies ∧
      let run := scripted (.steady 0 1) ⟨[]⟩ (.request twoMembers) true Draws.none
      let whole := run twoReplies
      let failing := run (faultAfter 2 repeatedMember twoReplies)
      (given whole.2.state.events).length = 4 ∧ failing.2.state.openCursors = 0 ∧
        CutAfter 2 whole.2.state.events failing.2.state.events ∧
        Answer.document failing.1 =
          .object [("data", .null), ("error", (Failure.engine repeatedMember).document)] := by
  have faultless : Faultless twoReplies := by simp [Faultless, twoReplies]
  have four : (given (scripted (.steady 0 1) ⟨[]⟩ (.request twoMembers) true Draws.none
      twoReplies).2.state.events).length = 4 := by
    decide +kernel
  obtain ⟨-, closed, reached, -⟩ := execute_contained (.steady 0 1) ⟨[]⟩ (.request twoMembers)
    twoMembers twoReplies true Draws.none 2 repeatedMember rfl faultless
  exact ⟨faultless, four, closed, reached (by rw [four]; decide)⟩

end Execution

end RowQuery
