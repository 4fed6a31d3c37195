import RowQuery.Proofs.Store.ReadBack

/-!
# Faults before and after the beginning

A write begins its transaction when its text, its table and its columns have been found right. What
is wrong with the text is reported before, what is wrong with the values after that. The wording of
a fault tells which of the two it is.

* `StoreFault.Late` — a fault that is reported after the beginning; `StoreFault.late_congr` says
  that failures with the same wording agree in this.
* `Connection.run_error_cases` — a statement that fails early leaves the connection as it is, one
  that fails late leaves a transaction open.
* `Connection.early_of_readBack` — what is read back after a write fails early, if at all.
-/

namespace RowQuery

/-- Faults that lead to the same failure have the same wording. -/
theorem Failure.message_congr {fault other : Fault} (same : ofFault fault = ofFault other) :
    fault.message = other.message := by
  unfold ofFault at same
  split at same <;> split at same <;>
    simp only [uniqueViolation.injEq, engine.injEq, reduceCtorEq] at same
  · exact same
  · rw [same]

namespace StoreFault

/-- Whether a fault is reported after a write has begun: a value is not accepted, a pattern is too
long, or rows would break a constraint. -/
def Late : StoreFault → Prop
  | unsupported _ _ | hugeInteger | patternTooComplex => True
  | f => f.BreaksConstraint

/-! ### The wording -/

/-- How the wordings of late faults begin. -/
def lateOpenings : List (List Char) :=
  ["Er", "Py", "LI", "da", "NO", "UN", "FO"].map String.toList

/-- A wording begins as its first part does. -/
theorem take_message {f : StoreFault} {front rest : String} (spelt : f.message = front ++ rest)
    (long : 2 ≤ front.toList.length) : f.message.toList.take 2 = front.toList.take 2 := by
  rw [spelt, String.toList_append, List.take_append_of_le_length long]

/-- Two letters of the wording tell whether a fault is late. -/
theorem late_iff_opening (f : StoreFault) : f.Late ↔ f.message.toList.take 2 ∈ lateOpenings := by
  cases f with
  | nullCharacter | noColumns | tooManyParams | tooManyAssigned | notDatabase | tooManyColumns
  | tooManyTerms =>
    exact iff_of_false id (by decide)
  | tooDeep limit =>
    have spelt : (tooDeep limit).message =
        "Expression tree is too large (maximum depth " ++ (toString limit ++ ")") :=
      String.append_assoc ..
    rw [take_message spelt (by decide)]
    exact iff_of_false id (by decide)
  | noTable name =>
    rw [take_message (f := noTable name) rfl (by decide)]
    exact iff_of_false id (by decide)
  | readOnly name =>
    have spelt : (readOnly name).message = "table " ++ (name ++ " may not be modified") :=
      String.append_assoc ..
    rw [take_message spelt (by decide)]
    exact iff_of_false id (by decide)
  | noColumn name =>
    rw [take_message (f := noColumn name) rfl (by decide)]
    exact iff_of_false id (by decide)
  | noInsertColumn table column =>
    have spelt : (noInsertColumn table column).message =
        "table " ++ (table ++ " has no column named " ++ column) := by
      show "table " ++ table ++ " has no column named " ++ column = _
      rw [String.append_assoc, String.append_assoc, String.append_assoc]
    rw [take_message spelt (by decide)]
    exact iff_of_false id (by decide)
  | unsupported position kind =>
    have spelt : (unsupported position kind).message = "Error binding parameter " ++
        (toString position ++ ": type '" ++ kind ++ "' is not supported") := by
      show "Error binding parameter " ++ toString position ++ ": type '" ++ kind ++
        "' is not supported" = _
      rw [String.append_assoc, String.append_assoc, String.append_assoc, String.append_assoc,
        String.append_assoc]
    rw [take_message spelt (by decide)]
    exact iff_of_true trivial (by decide)
  | hugeInteger | patternTooComplex | mismatch | dangling => exact iff_of_true trivial (by decide)
  | notNull table column =>
    rw [take_message (f := notNull table column) rfl (by decide)]
    exact iff_of_true trivial (by decide)
  | notUnique table columns =>
    rw [take_message (f := notUnique table columns) rfl (by decide)]
    exact iff_of_true trivial (by decide)

/-- Of faults that lead to the same failure, both are late or none is. -/
theorem late_congr {f g : StoreFault} (same : Failure.ofFault f.fault = Failure.ofFault g.fault) :
    f.Late ↔ g.Late := by
  have spelt : f.message = g.message := Failure.message_congr same
  rw [late_iff_opening, late_iff_opening, spelt]

end StoreFault

namespace Connection

open Sql.Statement (ReadBackBy)

variable {connection : Connection} {statement : Sql.Statement}

/-! ### Why statements fail -/

/-- What is looked at before the beginning is reported early. -/
theorem Rejected.not_late {f : StoreFault} (h : connection.Rejected statement f) : ¬f.Late := by
  cases h with
  | text refused =>
    have early : ∀ f ∈ textFaults, ¬f.Late := by
      simp [textFaults, Sql.Measure.faults, StoreFault.Late, StoreFault.BreaksConstraint]
    exact early f (textRefusal?_fault refused)
  | table text missed =>
    obtain ⟨-, rfl⟩ | ⟨-, -, name, rfl⟩ := findTable_fault missed <;> exact id
  | column text found refused =>
    obtain ⟨-, ⟨name, rfl⟩ | ⟨table, name, rfl⟩⟩ := columnRefusal?_fault refused <;> exact id
  | size refused =>
    obtain rfl | rfl := sizeRefusal?_fault refused <;> exact id

/-- What is looked at after it is reported late. -/
theorem Stopped.late {f : StoreFault} (h : connection.Stopped statement f) : f.Late := by
  cases h with
  | value unbound =>
    obtain rfl | ⟨n, kind, -, rfl⟩ := Cell.bindFault?_fault unbound <;> trivial
  | pattern refused =>
    rw [patternRefusal?_fault refused]
    trivial
  | row failed =>
    have breaks := constrained_perform _ _ _ _ f failed
    cases f <;> first | exact breaks | trivial

/-- A statement that fails early leaves the connection as it is, and one that fails late has
begun. -/
theorem run_error_cases {fault : Fault} {later : Connection}
    (h : connection.run statement = (.error fault, later)) :
    ∃ f : StoreFault, fault = f.fault ∧
      (¬f.Late ∧ later = connection ∨ f.Late ∧ later = connection.begun statement) := by
  obtain ⟨f, rfl, ⟨rejected, same⟩ | ⟨stopped, begun⟩⟩ := run_error h
  · exact ⟨f, rfl, .inl ⟨rejected.not_late, same⟩⟩
  · exact ⟨f, rfl, .inr ⟨stopped.late, begun⟩⟩

/-- A statement that succeeds has begun. -/
theorem begun_of_run {reply : Reply} {later : Connection}
    (h : connection.run statement = (.ok reply, later)) :
    later.implicit = connection.implicit ∧
      later.inTransaction = (connection.begun statement).inTransaction := by
  obtain ⟨table, fit⟩ := fit_of_run (congrArg Prod.fst h)
  rw [fit.run_eq] at h
  split at h <;> cases h
  exact ⟨rfl, rfl⟩

/-! ### Statements that read -/

/-- A statement that reads begins nothing. -/
theorem begun_of_reads (reads : writes statement = false) :
    connection.begun statement = connection := by
  rw [begun, reads, Bool.and_false, Bool.or_false]

/-- A select leaves the connection as it is. -/
theorem unchanged_of_select {projection : Sql.Projection} {name : String}
    {conditions : List Sql.Condition} {order : List OrderTerm} {limit : Option Int} :
    (connection.run (.select projection name conditions order limit)).2 = connection := by
  have begins : connection.begun (.select projection name conditions order limit) = connection :=
    begun_of_reads rfl
  rcases ran : connection.run (.select projection name conditions order limit) with
    ⟨fault | reply, later⟩
  · obtain ⟨_, -, ⟨-, same⟩ | ⟨-, same⟩⟩ := run_error_cases ran
    · exact same
    · exact same.trans begins
  · obtain ⟨table, fit⟩ := fit_of_run (congrArg Prod.fst ran)
    rw [fit.run_eq, begins] at ran
    cases ran
    rfl

/-- What is read back after a write fails early, if at all: its values are those of the write. -/
theorem early_of_readBack {writing : Sql.Statement} {conditions : List Sql.Condition}
    {reply : Reply} {later after : Connection} {projection : Sql.Projection} {fault : Fault}
    (h : ReadBackBy writing conditions) (ran : connection.run writing = (.ok reply, later))
    (same : after.database = later.database)
    (failed : (after.run (.select projection (tableName writing) conditions [] none)).1 =
      .error fault) : ∃ f : StoreFault, fault = f.fault ∧ ¬f.Late := by
  obtain ⟨table, fit, performed⟩ := performed_of_run ran
  obtain ⟨changed, found, -, patterns⟩ := exists_table?_of_performed projection h fit performed
  cases prepared : after.prepare (.select projection (tableName writing) conditions [] none) with
  | error f =>
    rw [run, prepared] at failed
    cases failed
    exact ⟨f, rfl, (prepare_error prepared).not_late⟩
  | ok other =>
    obtain ⟨text, found', columns, size⟩ := prepare_ok prepared
    have found : after.findTable (.select projection (tableName writing) conditions [] none) =
        .ok changed := findTable_eq (same ▸ found)
    obtain rfl : changed = other := Except.ok.inj (found.symm.trans found')
    have fit' : after.Fit (.select projection (tableName writing) conditions [] none) changed :=
      ⟨text, found, columns, size, params_readBack h fit.params, patterns⟩
    rw [fit'.run_eq] at failed
    cases failed

end Connection

end RowQuery
