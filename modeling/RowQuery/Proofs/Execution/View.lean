import RowQuery.Proofs.Execution.Composition
import RowQuery.Engine.Transcript
import RowQuery.Store.Connection

/-!
# Views of an engine

Requests make sure, each for itself, that the functions are there which statements use. Apart from
that two worlds that look the same stay the same, whatever is run on both.

* `Engine.ShownBy` says that a view of the states of an engine has all that statements depend on,
  and leaves out the preparation.
* `Run.Composed.respects` — what requests are made of takes worlds that look the same to worlds that
  look the same, with the same outcome.
* `Transcript.shownBy_unprobed` and `Engine.ShownBy.recorded` — such a view of transcripts, and one
  of an engine that keeps a record of what it is asked.
-/

namespace RowQuery

variable {σ τ : Type}

/-- What an engine does to its states shows in a view of them, and the preparation does not. -/
structure Engine.ShownBy (engine : Engine σ) (view : σ → τ) : Prop where
  prepare : ∀ state, view (engine.prepare state) = view state
  openCursor : ∀ {state other}, view state = view other →
    view (engine.openCursor state) = view (engine.openCursor other)
  closeCursor : ∀ {state other}, view state = view other →
    view (engine.closeCursor state) = view (engine.closeCursor other)
  outcome : ∀ {state other}, view state = view other → ∀ statement,
    (engine.run statement state).1 = (engine.run statement other).1
  run : ∀ {state other}, view state = view other → ∀ statement,
    view (engine.run statement state).2 = view (engine.run statement other).2
  inTransaction : ∀ {state other}, view state = view other →
    engine.inTransaction state = engine.inTransaction other
  commit : ∀ {state other}, view state = view other →
    view (engine.commit state) = view (engine.commit other)

/-- Two worlds look the same: their engines do, and as much has been drawn. -/
def World.Alike (view : σ → τ) (world other : World σ) : Prop :=
  view world.state = view other.state ∧ world.draws = other.draws

namespace Run

variable {engine : Engine σ} {sources : Sources} {view : σ → τ} {α : Type}

/-- A computation takes worlds that look the same to worlds that look the same, with the same
outcome. -/
def Respects (view : σ → τ) (run : Run σ α) : Prop :=
  ∀ world other, World.Alike view world other →
    (run world).1 = (run other).1 ∧ World.Alike view (run world).2 (run other).2

theorem Composed.respects {run : Run σ α} (shown : engine.ShownBy view)
    (h : Composed engine sources run) : Respects view run := by
  induction h with
  | pure a => exact fun world other same => ⟨rfl, same⟩
  | @bind _ _ first next _ _ ih ih' =>
    intro world other same
    obtain ⟨outcome, between⟩ := ih world other same
    rw [bind_apply, bind_apply]
    rcases ran : first world with ⟨found, later⟩
    rcases ran' : first other with ⟨found', later'⟩
    rw [ran, ran'] at outcome between
    cases outcome
    cases found with
    | error fault => exact ⟨rfl, between⟩
    | ok a => exact ih' a later later' between
  | prepare =>
    exact fun world other same =>
      ⟨rfl, ((shown.prepare _).trans same.1).trans (shown.prepare _).symm, same.2⟩
  | instant =>
    rintro ⟨state, draws⟩ ⟨state', _⟩ ⟨same, rfl⟩
    exact ⟨rfl, same, rfl⟩
  | identifier =>
    rintro ⟨state, draws⟩ ⟨state', _⟩ ⟨same, rfl⟩
    exact ⟨rfl, same, rfl⟩
  | query statement =>
    intro world other same
    have opened := shown.openCursor same.1
    exact ⟨shown.outcome opened statement,
      shown.closeCursor (shown.run opened statement), same.2⟩
  | settle =>
    intro world other same
    refine ⟨rfl, ?_, same.2⟩
    show view (if engine.inTransaction world.state then _ else _) =
      view (if engine.inTransaction other.state then _ else _)
    rw [shown.inTransaction same.1]
    split
    · exact shown.commit same.1
    · exact same.1

end Run

/-! ### Transcripts -/

/-- Whether an event is about the functions that statements use. -/
def Event.isProbe : Event → Bool
  | probe | register => true
  | statement _ _ | commit => false

/-- The statements and commits among events. -/
def Event.deeds (events : List Event) : List Event := events.filter (!·.isProbe)

theorem Event.deeds_append (events later : List Event) :
    deeds (events ++ later) = deeds events ++ deeds later := List.filter_append ..

theorem Event.deeds_congr {events other : List Event} (same : deeds events = deeds other)
    (later : List Event) : deeds (events ++ later) = deeds (other ++ later) := by
  rw [deeds_append, deeds_append, same]

/-- A transcript without all that is about the functions that statements use. -/
def Transcript.unprobed (transcript : Transcript) : Transcript :=
  { transcript with registered := true, events := Event.deeds transcript.events }

theorem Transcript.unprobed_eq_iff {transcript other : Transcript} :
    transcript.unprobed = other.unprobed ↔ transcript.script = other.script ∧
      transcript.inTransaction = other.inTransaction ∧
      transcript.openCursors = other.openCursors ∧
      Event.deeds transcript.events = Event.deeds other.events := by
  rw [unprobed, unprobed, mk.injEq, eq_self_iff_true, true_and]

theorem Transcript.shownBy_unprobed : Transcript.engine.ShownBy Transcript.unprobed where
  prepare := by
    rintro ⟨script, registered, inTransaction, openCursors, events⟩
    rw [unprobed_eq_iff]
    cases registered
    · exact ⟨rfl, rfl, rfl, by simp [engine, log, Event.deeds, Event.isProbe]⟩
    · exact ⟨rfl, rfl, rfl, by simp [engine, log, Event.deeds, Event.isProbe]⟩
  openCursor same := by
    rw [unprobed_eq_iff] at same ⊢
    exact ⟨same.1, same.2.1, congrArg (· + 1) same.2.2.1, same.2.2.2⟩
  closeCursor same := by
    rw [unprobed_eq_iff] at same ⊢
    exact ⟨same.1, same.2.1, congrArg (· - 1) same.2.2.1, same.2.2.2⟩
  outcome := by
    rintro ⟨script, _, _, _, _⟩ ⟨_, _, _, _, _⟩ same statement
    obtain ⟨rfl, -⟩ := unprobed_eq_iff.mp same
    rcases script with _ | ⟨_ | _, _⟩ <;> rfl
  run := by
    rintro ⟨script, _, inTransaction, openCursors, events⟩ ⟨_, _, _, _, events'⟩ same statement
    obtain ⟨rfl, rfl, rfl, listed⟩ := unprobed_eq_iff.mp same
    rcases script with _ | ⟨_ | _, _⟩ <;>
      exact unprobed_eq_iff.mpr ⟨rfl, rfl, rfl, Event.deeds_congr listed _⟩
  inTransaction same := (unprobed_eq_iff.mp same).2.1
  commit same := by
    rw [unprobed_eq_iff] at same ⊢
    obtain ⟨script, -, cursors, listed⟩ := same
    exact ⟨script, rfl, cursors, Event.deeds_congr listed [.commit]⟩

/-! ### Records of what an engine was asked -/

/-- An engine together with a record of what it was asked. -/
def Engine.recorded (engine : Engine σ) : Engine (σ × List Event) where
  prepare := fun (state, events) => (engine.prepare state, events ++ [.probe])
  openCursor := fun (state, events) => (engine.openCursor state, events)
  closeCursor := fun (state, events) => (engine.closeCursor state, events)
  run statement := fun (state, events) =>
    let (outcome, later) := engine.run statement state
    (outcome, later, events ++ [.statement statement.text statement.params])
  inTransaction := fun (state, _) => engine.inTransaction state
  commit := fun (state, events) => (engine.commit state, events ++ [.commit])

/-- An engine and the record of its statements and commits. -/
def Engine.withDeeds (view : σ → τ) (recorded : σ × List Event) : τ × List Event :=
  (view recorded.1, Event.deeds recorded.2)

theorem Engine.ShownBy.recorded {engine : Engine σ} {view : σ → τ} (shown : engine.ShownBy view) :
    engine.recorded.ShownBy (Engine.withDeeds view) where
  prepare := fun (state, events) => by
    refine Prod.ext (shown.prepare state) ?_
    show Event.deeds (events ++ [.probe]) = Event.deeds events
    rw [Event.deeds_append]
    exact List.append_nil _
  openCursor same := Prod.ext (shown.openCursor (Prod.mk.inj same).1) (Prod.mk.inj same).2
  closeCursor same := Prod.ext (shown.closeCursor (Prod.mk.inj same).1) (Prod.mk.inj same).2
  outcome same := shown.outcome (Prod.mk.inj same).1
  run same statement := Prod.ext (shown.run (Prod.mk.inj same).1 statement)
    (Event.deeds_congr (Prod.mk.inj same).2 _)
  inTransaction same := shown.inTransaction (Prod.mk.inj same).1
  commit same := Prod.ext (shown.commit (Prod.mk.inj same).1)
    (Event.deeds_congr (Prod.mk.inj same).2 _)

/-- The preparation of a connection leaves it as it is. -/
theorem Connection.shownBy_id : Connection.engine.ShownBy id where
  prepare _ := rfl
  openCursor := congrArg _
  closeCursor := congrArg _
  outcome same statement := congrArg (fun state => (Connection.run statement state).1) same
  run same statement := congrArg (fun state => (Connection.run statement state).2) same
  inTransaction := congrArg Connection.inTransaction
  commit same := congrArg Connection.engine.commit same

end RowQuery
