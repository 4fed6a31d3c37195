import RowQuery.Proofs.Store.FaultCode
import RowQuery.Proofs.Store.Limit
import RowQuery.Proofs.Store.Success

/-!
# Why statements are refused

A statement is looked at step by step before it is run, and each step has faults of its own.

* `StoreFault.Constrained` — what is computed fails only because rows would break a constraint;
  `Connection.constrained_perform` says so of statements that are fit.
* `Connection.textRefusal?_fault`, `Connection.findTable_fault`, `Connection.columnRefusal?_fault`,
  `Connection.sizeRefusal?_fault`, `Cell.bindFault?_fault` and `Connection.patternRefusal?_fault` —
  the faults of each step before that.
* `Connection.columnRefusal?_of_run` — a statement is refused for an unknown column only where it
  writes one.
* `Connection.run_of_columnRefusal?` — then it is refused, and the connection stays as it is.

## Design notes

What the fault of a refused statement is like is asked in several ways: whether it quotes a name,
whether it is reported after a write has begun, whether it tells of a missing table. Each of these
is answered from the faults of the steps.
-/

namespace RowQuery

namespace StoreFault

/-- Whether a fault tells that rows would break a constraint. -/
def BreaksConstraint : StoreFault → Prop
  | mismatch | notNull _ _ | notUnique _ _ | dangling => True
  | _ => False

/-- What is computed fails, if at all, because rows would break a constraint. -/
def Constrained {α : Type} (outcome : Except StoreFault α) : Prop :=
  ∀ f, outcome = .error f → f.BreaksConstraint

namespace Constrained

variable {α β : Type}

theorem ok (a : α) : Constrained (.ok a) := by
  rintro f ⟨⟩

theorem error {f : StoreFault} (h : f.BreaksConstraint) :
    Constrained (.error f : Except StoreFault α) := by
  rintro _ ⟨⟩
  exact h

/-- Of two computations the first fault is that of the whole. -/
theorem bind {first : Except StoreFault α} {next : α → Except StoreFault β}
    (h : Constrained first) (h' : ∀ a, Constrained (next a)) : Constrained (first >>= next) := by
  cases first with
  | error f => exact error (h f rfl)
  | ok a => exact h' a

end Constrained

end StoreFault

namespace Table

open StoreFault (Constrained)

theorem constrained_checkRow (table : Table) (row : Row) : Constrained (table.checkRow row) := by
  rw [checkRow]
  split
  · exact .error trivial
  · split
    · exact .error trivial
    · split
      · exact .error trivial
      · exact .ok ()

theorem constrained_rowNumber (cell : Cell) : Constrained (rowNumber cell) := by
  rw [rowNumber]
  split
  · exact .ok _
  · exact .error trivial

theorem constrained_newRow (table : Table) (assignments : Assignments) :
    Constrained (table.newRow assignments) := by
  have numbered : Constrained (table.newNumber assignments) := by
    rw [newNumber]
    split
    · exact .ok _
    · exact .ok _
    · exact constrained_rowNumber _
  rw [newRow]
  exact numbered.bind fun number => (constrained_checkRow _ _).bind fun _ => .ok _

theorem constrained_assignRow (declaration : Declaration) (assignments : Assignments) (row : Row) :
    Constrained (assignRow declaration assignments row) := by
  rw [assignRow]
  split
  · exact (constrained_rowNumber _).bind fun _ => .ok _
  · exact .ok _

theorem constrained_updateRow (assignments : Assignments) (table : Table) (row : Row) :
    Constrained (updateRow assignments table row) := by
  rw [updateRow]
  refine (constrained_assignRow _ _ _).bind fun changed => ?_
  exact (constrained_checkRow _ _).bind fun _ => .ok _

/-- The rows are assigned to one after the other. -/
theorem constrained_update (assignments : Assignments) (rows : List Row) (table : Table) :
    Constrained (table.update assignments rows) := by
  rw [update]
  induction rows generalizing table with
  | nil => exact .ok table
  | cons row rest ih =>
    rw [List.foldlM_cons]
    exact (constrained_updateRow assignments table row).bind fun changed => ih changed

end Table

namespace Database

open StoreFault (Constrained)

theorem constrained_insert (db : Database) (enforced : Bool) (table : Table)
    (assignments : Assignments) : Constrained (db.insert enforced table assignments) := by
  rw [insert]
  refine (table.constrained_newRow assignments).bind fun row => ?_
  dsimp only
  split
  · exact .error trivial
  · exact .ok _

theorem constrained_update (db : Database) (enforced : Bool) (table : Table)
    (assignments : Assignments) (conditions : List Sql.Condition) :
    Constrained (db.update enforced table assignments conditions) := by
  rw [update]
  refine (table.constrained_update assignments _).bind fun changed => ?_
  dsimp only
  split
  · exact .error trivial
  · exact .ok _

end Database

namespace Connection

open StoreFault (Constrained)

variable {connection : Connection} {statement : Sql.Statement}

/-- A fit statement can only fail because rows would break a constraint. -/
theorem constrained_perform (enforced : Bool) (database : Database) (table : Table)
    (statement : Sql.Statement) : Constrained (perform database enforced table statement) := by
  cases statement with
  | select => exact .ok _
  | delete => exact .ok _
  | insert name values => exact (database.constrained_insert enforced table _).bind fun _ => .ok _
  | update name values conditions =>
    exact (database.constrained_update enforced table _ conditions).bind fun _ => .ok _

end Connection

/-! ### The faults of each step -/

/-- Only a list and an object cannot be bound for their kind. -/
theorem Cell.bindFault?_fault {values : List Json} {position : Nat} {f : StoreFault}
    (h : bindFault? position values = some f) : f = .hugeInteger ∨
      ∃ n kind, (kind = "list" ∨ kind = "dict") ∧ f = .unsupported n kind := by
  induction values generalizing position with
  | nil => cases h
  | cons value rest ih =>
    rw [bindFault?] at h
    split at h
    · exact ih h
    · cases h
      exact .inl rfl
    · next kind unbound =>
      cases h
      refine .inr ⟨position, kind, ?_, rfl⟩
      cases value with
      | array items =>
        cases unbound
        exact .inl rfl
      | object fields =>
        cases unbound
        exact .inr rfl
      | null => cases unbound
      | bool b => cases unbound
      | integer n =>
        rw [ofJson] at unbound
        split at unbound <;> cases unbound
      | float x => cases x <;> cases unbound
      | string s => cases unbound

namespace Connection

open Fault (undefinedColumn)

variable {connection : Connection} {statement : Sql.Statement} {table : Table} {f : StoreFault}

/-- The faults of texts. -/
def textFaults : List StoreFault := .nullCharacter :: .noColumns :: Sql.Measure.faults

theorem textRefusal?_fault (h : textRefusal? statement = some f) : f ∈ textFaults := by
  unfold textRefusal? at h
  split at h
  · cases h
    exact List.mem_cons_self
  · split at h
    · cases h
      exact List.mem_cons_of_mem _ List.mem_cons_self
    · exact List.mem_cons_of_mem _ (List.mem_cons_of_mem _ (Sql.Statement.mem_of_overrun? h))

/-- Whether a name is that of no table, not even of one that can only be read. -/
def Lacks (connection : Connection) (name : String) : Prop :=
  connection.database.table? name = none ∧
    connection.database.readOnly? connection.enforced name = none
deriving Decidable

theorem findTable_eq (found : connection.database.table? (tableName statement) = some table) :
    connection.findTable statement = .ok table := by
  rw [findTable]
  simp only [found]

/-- A table is missed, unless the statement writes to one that can only be read. -/
theorem findTable_fault (h : connection.findTable statement = .error f) :
    connection.Lacks (tableName statement) ∧ f = .noTable (tableName statement) ∨
      writes statement = true ∧ connection.database.table? (tableName statement) = none ∧
        ∃ name, f = .readOnly name := by
  cases unknown : connection.database.table? (tableName statement) with
  | some table =>
    rw [findTable_eq unknown] at h
    cases h
  | none =>
    simp only [findTable, unknown] at h
    split at h
    · split at h <;> cases h
      next written => exact .inr ⟨written, rfl, _, rfl⟩
    · next unread =>
      cases h
      exact .inl ⟨⟨unknown, unread⟩, rfl⟩

/-- Columns are refused where they are written. -/
theorem columnRefusal?_fault {declaration : Declaration}
    (h : columnRefusal? declaration statement = some f) : writes statement = true ∧
      ((∃ name, f = .noColumn name) ∨ ∃ table name, f = .noInsertColumn table name) := by
  cases statement with
  | select | delete => cases h
  | insert table values =>
    obtain ⟨name, -, rfl⟩ := Option.map_eq_some_iff.mp h
    exact ⟨rfl, .inr ⟨table, name, rfl⟩⟩
  | update table values conditions =>
    obtain ⟨name, -, rfl⟩ := Option.map_eq_some_iff.mp h
    exact ⟨rfl, .inl ⟨name, rfl⟩⟩

theorem sizeRefusal?_fault (h : sizeRefusal? table statement = some f) :
    f = .tooManyColumns ∨ f = .tooManyTerms := by
  cases statement with
  | select =>
    rw [sizeRefusal?] at h
    split at h
    · cases h
      exact .inl rfl
    · split at h <;> cases h
      exact .inr rfl
  | insert | update | delete => cases h

theorem patternRefusal?_fault (h : patternRefusal? table statement = some f) :
    f = .patternTooComplex := by
  simp only [patternRefusal?] at h
  split at h <;> cases h
  rfl

/-- A statement that cannot be run fails, and leaves the connection as it is. -/
theorem run_of_prepare_error (h : connection.prepare statement = .error f) :
    connection.run statement = (.error f.fault, connection) := by
  rw [run, h]

/-! ### Names in faults -/

/-- What stops a statement quotes no name. -/
theorem Stopped.not_quotesName (h : connection.Stopped statement f) : ¬f.QuotesName := by
  cases h with
  | value unbound =>
    obtain rfl | ⟨n, kind, known, rfl⟩ := Cell.bindFault?_fault unbound
    · exact id
    · exact fun quotes => known.elim quotes.1 quotes.2
  | pattern refused =>
    rw [patternRefusal?_fault refused]
    exact id
  | row failed =>
    have breaks := constrained_perform _ _ _ _ f failed
    cases f with
    | mismatch | notNull | notUnique | dangling => exact id
    | _ => exact absurd breaks id

/-- Why a statement cannot be run: not for a name, unless it writes a column that its table does not
have. -/
theorem Rejected.column_or_not_quotesName (h : connection.Rejected statement f)
    (known : writes statement → (connection.database.table? (tableName statement)).isSome) :
    (textRefusal? statement = none ∧ ∃ table, connection.findTable statement = .ok table ∧
      columnRefusal? table.declaration statement = some f) ∨ ¬f.QuotesName := by
  cases h with
  | text refused =>
    have unquoted : ∀ f ∈ textFaults, ¬f.QuotesName := by
      simp [textFaults, Sql.Measure.faults, StoreFault.QuotesName]
    exact .inr (unquoted f (textRefusal?_fault refused))
  | table text missed =>
    refine .inr ?_
    obtain ⟨-, rfl⟩ | ⟨written, unknown, -⟩ := findTable_fault missed
    · exact id
    · exact absurd (known written) (by simp [unknown])
  | column text found refused => exact .inl ⟨text, _, found, refused⟩
  | size refused =>
    refine .inr ?_
    obtain rfl | rfl := sizeRefusal?_fault refused <;> exact id

/-- A statement is refused for an unknown column only where it writes one. -/
theorem columnRefusal?_of_run {fault : Fault}
    (known : writes statement → (connection.database.table? (tableName statement)).isSome)
    (h : (connection.run statement).1 = .error fault)
    (code : fault.code? = some undefinedColumn) :
    textRefusal? statement = none ∧ ∃ table f, connection.findTable statement = .ok table ∧
      columnRefusal? table.declaration statement = some f ∧ fault = f.fault := by
  obtain ⟨f, rfl, ⟨rejected, -⟩ | ⟨stopped, -⟩⟩ := run_error (Prod.ext h rfl)
  · obtain ⟨text, table, found, column⟩ | unquoted := rejected.column_or_not_quotesName known
    · exact ⟨text, table, f, found, column, rfl⟩
    · exact absurd code (StoreFault.code?_ne_undefined unquoted)
  · exact absurd code (StoreFault.code?_ne_undefined stopped.not_quotesName)

/-- A statement refused for its columns leaves the connection as it is. -/
theorem run_of_columnRefusal? (text : textRefusal? statement = none)
    (found : connection.findTable statement = .ok table)
    (column : columnRefusal? table.declaration statement = some f) :
    connection.run statement = (.error f.fault, connection) := by
  refine run_of_prepare_error ?_
  rw [prepare]
  simp only [text, found, column]
  rfl

end Connection

end RowQuery
