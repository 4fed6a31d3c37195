import RowQuery.Engine.Basic

/-!
# Runs

How a computation on an engine goes, step by step.

* `Run.bind_apply` is the step from one computation to the next.
* `Run.Silent` says that a computation draws at most: it neither uses the engine nor stops.
* `Run.Yields` says what a computation yields if it does not stop.
-/

namespace RowQuery.Run

variable {σ α β : Type}

/-- Of two computations the second one goes on where the first one ends, unless it stops. -/
theorem bind_apply (first : Run σ α) (next : α → Run σ β) (world : World σ) :
    (first >>= next) world =
      match first world with
      | (.ok a, later) => next a later
      | (.error fault, later) => (.error fault, later) := by
  show ExceptT.bindCont next (first world).1 (first world).2 = _
  rcases first world with ⟨_ | _, later⟩ <;> rfl

/-- Of two computations one stops: the first one, or the second one after it. -/
theorem error_of_bind {first : Run σ α} {next : α → Run σ β} {world : World σ} {fault : Fault}
    (h : ((first >>= next) world).1 = .error fault) :
    (first world).1 = .error fault ∨
      ∃ a, (first world).1 = .ok a ∧ (next a (first world).2).1 = .error fault := by
  rw [bind_apply] at h
  rcases ran : first world with ⟨_ | a, later⟩
  · rw [ran] at h
    cases h
    exact .inl rfl
  · rw [ran] at h
    exact .inr ⟨a, rfl, h⟩

/-- A computation that leaves the engine alone and yields what the predicate says. -/
def Silent (run : Run σ α) (yields : α → Prop) : Prop :=
  ∀ world, (run world).2.state = world.state ∧ ∃ a, (run world).1 = .ok a ∧ yields a

namespace Silent

variable {first : Run σ α} {next : α → Run σ β} {yields : α → Prop} {later : β → Prop}

protected theorem pure {a : α} (h : yields a) : Silent (pure a : Run σ α) yields :=
  fun _ => ⟨rfl, a, rfl, h⟩

protected theorem bind (h : Silent first yields) (h' : ∀ a, yields a → Silent (next a) later) :
    Silent (first >>= next) later := by
  intro world
  obtain ⟨same, a, outcome, yielded⟩ := h world
  rw [bind_apply]
  rcases ran : first world with ⟨found, between⟩
  rw [ran] at same outcome
  cases outcome
  obtain ⟨same', rest⟩ := h' a yielded between
  exact ⟨same'.trans same, rest⟩

end Silent

theorem instant_silent (sources : Sources) :
    Silent (instant sources : Run σ Instant) fun _ => True :=
  fun _ => ⟨rfl, _, rfl, trivial⟩

theorem identifier_silent (sources : Sources) :
    Silent (identifier sources : Run σ String) fun _ => True :=
  fun _ => ⟨rfl, _, rfl, trivial⟩

/-- What the computation yields, where it does not stop, is as the predicate says. -/
def Yields (run : Run σ α) (result : α → Prop) : Prop :=
  ∀ world a, (run world).1 = .ok a → result a

namespace Yields

variable {first : Run σ α} {next : α → Run σ β} {result : β → Prop}

protected theorem pure {b : β} (h : result b) : Yields (pure b : Run σ β) result := by
  rintro _ _ ⟨⟩
  exact h

/-- The last computation decides. -/
protected theorem bind (h : ∀ a, Yields (next a) result) : Yields (first >>= next) result := by
  intro world b outcome
  rw [bind_apply] at outcome
  rcases ran : first world with ⟨_ | a, later⟩
  · rw [ran] at outcome
    cases outcome
  · rw [ran] at outcome
    exact h a later b outcome

end Yields

end RowQuery.Run
