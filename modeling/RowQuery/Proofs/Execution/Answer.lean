import RowQuery.Proofs.Execution.Composition

/-!
# Answers

How the answer to a request comes about: from the run of the request, or from the fault that stops
it.

* `Execution.answer_world` — an answer leaves the world as the run does.
* `Execution.respond_yields` — of itself a run fails in two ways only.
* `Execution.error_of_answer` tells where a failure comes from.
-/

namespace RowQuery.Execution

variable {σ : Type} {engine : Engine σ} {sources : Sources} {schema : Schema} {request : Request}

/-- An answer leaves the world as the run of the request does. -/
theorem answer_world (world : World σ) :
    (answer engine sources schema request world).2 =
      (respond engine sources schema request
        { world with state := engine.prepare world.state }).2 := by
  rw [answer_eq, attend_apply]

/-- Where the engine reports no fault, there are two failures. -/
theorem respond_yields : Run.Yields (respond engine sources schema request) fun answer =>
    ∀ failure, answer = .error failure → failure = .noRow ∨ failure = .emptyUpdate := by
  rw [respond]
  cases request.method with
  | select =>
    refine .bind fun rows => .pure fun failure h => .inl ?_
    -- Only a single row that is asked for can be missing.
    unfold cardinality at h
    split at h
    · split at h
      · cases h
        rfl
      · cases h
    · split at h <;> cases h
  | insert =>
    refine .bind fun rows => .pure fun failure h => ?_
    unfold insertAnswer at h
    split at h <;> cases h
  | update =>
    refine .bind fun values => ?_
    split
    · refine .pure fun failure h => .inr ?_
      cases h
      rfl
    · refine .bind fun _ => ?_
      split
      · refine .bind fun rows => .pure fun failure h => ?_
        cases h
      · exact .pure fun failure h => by cases h
  | delete => exact .bind fun _ => .pure fun failure h => by cases h

/-- A failure is one of the two, or that of a fault of the engine. -/
theorem error_of_answer {world : World σ} {failure : Failure}
    (h : (answer engine sources schema request world).1 = .error failure) :
    failure = .noRow ∨ failure = .emptyUpdate ∨
      ∃ fault, (respond engine sources schema request
        { world with state := engine.prepare world.state }).1 = .error fault ∧
        failure = .ofFault fault := by
  rw [answer_eq, attend_apply] at h
  rcases outcome : (respond engine sources schema request
    { world with state := engine.prepare world.state }).1 with fault | answered
  · rw [outcome] at h
    cases h
    exact .inr (.inr ⟨fault, rfl, rfl⟩)
  · rw [outcome] at h
    have yielded := respond_yields { world with state := engine.prepare world.state } answered
      outcome
    rcases yielded failure h with none | empty
    · exact .inl none
    · exact .inr (.inl empty)

/-- A fault of the engine is answered with its failure. -/
theorem answer_of_fault {world : World σ} {fault : Fault}
    (h : (respond engine sources schema request
      { world with state := engine.prepare world.state }).1 = .error fault) :
    (answer engine sources schema request world).1 = .error (.ofFault fault) := by
  rw [answer_eq, attend_apply, h]
  rfl

end RowQuery.Execution
