import RowQuery.Execution
import RowQuery.Proofs.Engine.Run

/-!
# What requests are made of

Every request is answered by a computation that prepares the engine, draws from the clock and the
identifiers, runs statements on a cursor each, and commits. What holds of these steps and is handed
on from one computation to the next holds of every request.

* `Run.Composed` are the computations made of such steps.
* `Execution.attend` is the computation behind an answer; `Execution.attend_composed` says that it
  is one of them.
-/

namespace RowQuery

variable {σ : Type}

namespace Run

/-- Commits the transaction that is open, if one is. -/
def settle (engine : Engine σ) : Run σ Unit :=
  change fun state => if engine.inTransaction state then engine.commit state else state

/-- A computation made of preparations, draws, statements on a cursor each, and commits. -/
inductive Composed (engine : Engine σ) (sources : Sources) : {α : Type} → Run σ α → Prop where
  | pure {α : Type} (a : α) : Composed engine sources (pure a)
  | bind {α β : Type} {first : Run σ α} {next : α → Run σ β} (front : Composed engine sources first)
    (rest : ∀ a, Composed engine sources (next a)) : Composed engine sources (first >>= next)
  | prepare : Composed engine sources (change engine.prepare)
  | instant : Composed engine sources (Run.instant sources)
  | identifier : Composed engine sources (Run.identifier sources)
  | query (statement : Sql.Statement) : Composed engine sources (Run.query engine statement)
  | settle : Composed engine sources (Run.settle engine)

theorem Composed.write {engine : Engine σ} {sources : Sources} (statement : Sql.Statement) :
    Composed engine sources (Run.write engine statement) :=
  .bind (.query statement) fun _ => .settle

end Run

namespace Execution

open Run (Composed)

variable (engine : Engine σ) (sources : Sources) (schema : Schema) (request : Request)

theorem fetch_composed (table : String) (statement : Sql.Statement) :
    Composed engine sources (fetch engine schema table statement) :=
  .bind (.query statement) fun _ => .pure _

theorem identify_composed (fields : Fields) :
    Composed engine sources (identify sources fields) := by
  rw [identify]
  split
  · exact .pure _
  · exact .bind .identifier fun _ => .pure _

theorem insertRecord_composed (record : Fields) :
    Composed engine sources (insertRecord engine sources schema request record) := by
  refine .bind (identify_composed engine sources _) fun identified =>
    .bind .instant fun now => .bind (.write _) fun _ => ?_
  split
  · exact .bind (fetch_composed engine sources schema _ _) fun _ => .pure _
  · exact .pure _

theorem insertRecords_composed (records : List Fields) :
    Composed engine sources (insertRecords engine sources schema request records) := by
  induction records with
  | nil => exact .pure _
  | cons record rest ih =>
    exact .bind (insertRecord_composed engine sources schema request record) fun rows =>
      .bind ih fun _ => .pure _

theorem changes_composed : Composed engine sources (changes sources schema request) := by
  unfold changes
  dsimp only
  split
  · exact .bind .instant fun _ => .pure _
  · exact .pure _

theorem update_composed : Composed engine sources (update engine sources schema request) := by
  refine .bind (changes_composed engine sources schema request) fun values => ?_
  split
  · exact .pure _
  · refine .bind (.write _) fun _ => ?_
    split
    · exact .bind (fetch_composed engine sources schema _ _) fun _ => .pure _
    · exact .pure _

theorem respond_composed : Composed engine sources (respond engine sources schema request) := by
  rw [respond]
  cases request.method with
  | select => exact .bind (fetch_composed engine sources schema _ _) fun _ => .pure _
  | insert =>
    exact .bind (insertRecords_composed engine sources schema request _) fun _ => .pure _
  | update => exact update_composed engine sources schema request
  | delete => exact .bind (.write _) fun _ => .pure _

/-- The computation behind an answer: the engine is prepared, and the request is run. -/
def attend : Run σ Answer :=
  Run.change engine.prepare >>= fun _ => respond engine sources schema request

theorem attend_composed : Composed engine sources (attend engine sources schema request) :=
  .bind .prepare fun _ => respond_composed engine sources schema request

/-- The answer that an outcome amounts to. -/
def conclude : Except Fault Answer → Answer
  | .ok answer => answer
  | .error fault => .error (.ofFault fault)

theorem attend_apply (world : World σ) : attend engine sources schema request world =
    respond engine sources schema request
      { world with state := engine.prepare world.state } := rfl

theorem answer_eq (world : World σ) : answer engine sources schema request world =
    (conclude (attend engine sources schema request world).1,
      (attend engine sources schema request world).2) := by
  rw [attend_apply, answer]
  rcases respond engine sources schema request
    { world with state := engine.prepare world.state } with ⟨_ | _, _⟩ <;> rfl

/-- A query whose request is known is answered by the computation behind it. -/
theorem execute_eq {query : Query} (checked : query.check = .ok request) (world : World σ) :
    query.execute engine sources schema world =
      (conclude (attend engine sources schema request world).1,
        (attend engine sources schema request world).2) := by
  rw [Query.execute, checked]
  exact answer_eq engine sources schema request world

end Execution

end RowQuery
