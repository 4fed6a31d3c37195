import RowQuery.Proofs.Store.Refusal

/-!
# Reading back what was written

A write is followed by a select on the same table, whose conditions are those of the write or ask
for the identifier that it stored. Nothing but the columns that are asked for can be wrong with it.

* `Table.Unreadable` tells what is wrong with columns.
* `Sql.Statement.ReadBackBy` tells with which conditions a write is read back.
* `Connection.run_readBack_iff` — the select succeeds exactly if the columns can be read.
-/

namespace RowQuery

theorem Cell.bindFault?_eq_none_iff {values : List Json} {position : Nat} :
    bindFault? position values = none ↔ ∀ value ∈ values, ∃ cell, ofJson value = .ok cell := by
  induction values generalizing position with
  | nil => simp [bindFault?]
  | cons value rest ih =>
    rw [bindFault?, List.forall_mem_cons]
    cases bound : ofJson value with
    | ok cell => exact ih.trans (iff_and_self.mpr fun _ => ⟨cell, rfl⟩)
    | error fault =>
      cases fault <;> simp

namespace Table

/-- A row that is selected has been compared with every pattern. -/
theorem meetsTooComplex_of_selects {table : Table} {row : Row} {conditions : List Sql.Condition}
    (selected : table.selects conditions row = true)
    (complex : conditions.any tooComplex = true) : table.meetsTooComplex row conditions = true := by
  induction conditions with
  | nil => cases complex
  | cons condition rest ih =>
    rw [selects, List.all_cons, Bool.and_eq_true] at selected
    rw [List.any_cons, Bool.or_eq_true] at complex
    rw [meetsTooComplex, selected.1, Bool.true_and, Bool.or_eq_true]
    exact complex.imp_right (ih selected.2)

/-- Whether something is wrong with the columns that are asked for: there are none, a name has a
null character, or they are too many. -/
def Unreadable (table : Table) (projection : Sql.Projection) : Prop :=
  projection = [] ∨ '\x00' ∈ projection.chars ∨
    Connection.maxColumns < (table.projectionNames projection).length

theorem unreadable_congr {table changed : Table} (projection : Sql.Projection)
    (same : changed.declaration = table.declaration) :
    changed.Unreadable projection ↔ table.Unreadable projection := by
  rw [Unreadable, Unreadable, projectionNames, projectionNames, same]

end Table

/-- With which conditions a write is read back: an insert by the identifier that it stores, and an
update by its own conditions. -/
inductive Sql.Statement.ReadBackBy : Sql.Statement → List Sql.Condition → Prop where
  | insert {table : String} {values : Fields} {id : Json} (stored : id ∈ values.map (·.2)) :
    ReadBackBy (.insert table values) [.compare ⟨"id", .eq, id⟩]
  | update {table : String} {values : Fields} {conditions : List Sql.Condition} :
    ReadBackBy (.update table values conditions) conditions

namespace Connection

open Sql.Statement (ReadBackBy)

variable {connection later after : Connection} {writing : Sql.Statement}
  {conditions : List Sql.Condition} {projection : Sql.Projection} {name : String}

theorem writes_of_readBackBy (h : ReadBackBy writing conditions) : writes writing = true := by
  cases h <;> rfl

/-! ### The text -/

/-- A select without an order and a limit has the characters of the words, of the columns, of the
table and of the restriction. -/
theorem mem_select_chars_iff {c : Char} (projection : Sql.Projection)
    (words : c ∉ "SELECT ".toList ++ " FROM ".toList)
    (table : c ∉ Sql.nameChars name) (restriction : c ∉ Sql.clause (Sql.whereChars conditions)) :
    c ∈ (Sql.Statement.select projection name conditions [] none).chars ↔
      c ∈ projection.chars := by
  have chars : (Sql.Statement.select projection name conditions [] none).chars =
      "SELECT ".toList ++ projection.chars ++ " FROM ".toList ++ Sql.nameChars name ++
        Sql.clause (Sql.whereChars conditions) ++ [] ++ [] := rfl
  rw [chars]
  generalize "SELECT ".toList = front at words
  generalize " FROM ".toList = middle at words
  rw [List.mem_append, not_or] at words
  simp [words, table, restriction]

/-- Of the text of a select without an order and a limit, all but the columns is known to be
right. -/
theorem textRefusal?_select_iff (table : '\x00' ∉ Sql.nameChars name)
    (restriction : '\x00' ∉ Sql.clause (Sql.whereChars conditions))
    (low : Sql.tooHigh conditions = false)
    (few : (Sql.whereParams conditions).length ≤ Sql.maxParams) :
    textRefusal? (.select projection name conditions [] none) = none ↔
      projection ≠ [] ∧ '\x00' ∉ projection.chars := by
  have chars := mem_select_chars_iff projection (by decide) table restriction
  have bounded : (Sql.Statement.select projection name conditions [] none).Bounded :=
    ⟨low, by simpa [Sql.Statement.params] using few, Nat.zero_le _⟩
  rw [textRefusal?_select_eq_none_iff, chars, and_iff_left bounded]

/-- The text of what is read back is as right as the text of the write. -/
theorem textRefusal?_readBack_iff (projection : Sql.Projection) (h : ReadBackBy writing conditions)
    (text : textRefusal? writing = none) :
    textRefusal? (.select projection (tableName writing) conditions [] none) = none ↔
      projection ≠ [] ∧ '\x00' ∉ projection.chars := by
  obtain ⟨absent, bounded⟩ := bounded_of_textRefusal? text
  cases h with
  | insert stored =>
    -- The text of the condition is the same for all identifiers.
    have restriction : '\x00' ∉ Sql.clause (Sql.whereChars [.compare ⟨"id", .eq, .null⟩]) := by
      decide
    have one : 1 ≤ Sql.maxParams := by decide
    refine textRefusal?_select_iff (fun mem => absent ?_) restriction rfl one
    exact List.mem_append_left _ (List.mem_append_left _ (List.mem_append_left _
      (List.mem_append_left _ (List.mem_append_left _ (List.mem_append_right _ mem)))))
  | update =>
    refine textRefusal?_select_iff (fun mem => absent ?_)
      (fun mem => absent (List.mem_append_right _ mem)) bounded.low ?_
    · exact List.mem_append_left _ (List.mem_append_left _ (List.mem_append_left _
        (List.mem_append_right _ mem)))
    · -- Its values come after those that are assigned.
      have few := bounded.few
      rw [Sql.Statement.params, List.length_append] at few
      omega

/-! ### The table -/

theorem patternRefusal?_eq_none_iff {table : Table} {statement : Sql.Statement} :
    patternRefusal? table statement = none ↔
      ((conditionsOf statement).any Table.tooComplex && table.rows.any
        (table.meetsTooComplex · (conditionsOf statement))) = false := by
  unfold patternRefusal?
  dsimp only
  generalize (_ && _) = refused
  cases refused <;> simp

/-- An update that could be done without regard to a pattern has left no row that is compared with
it. -/
theorem patternRefusal?_of_update {table changed : Table} {assignments : Assignments}
    (fine : (conditions.any Table.tooComplex && table.rows.any
      (table.meetsTooComplex · conditions)) = false)
    (updated : table.update assignments (table.rows.filter (table.selects conditions)) =
      .ok changed) :
    (conditions.any Table.tooComplex && changed.rows.any
      (changed.meetsTooComplex · conditions)) = false := by
  cases complex : conditions.any Table.tooComplex with
  | false => rfl
  | true =>
    rw [complex, Bool.true_and, List.any_eq_false] at fine
    have none : table.rows.filter (table.selects conditions) = [] :=
      List.filter_eq_nil_iff.mpr fun row mem selected =>
        fine row mem (Table.meetsTooComplex_of_selects selected complex)
    rw [none] at updated
    cases updated
    rw [Bool.true_and, List.any_eq_false]
    exact fine

/-- After a write its table is there, with the same declaration, and no pattern is in the way. -/
theorem exists_table?_of_performed {table : Table} {reply : Reply} {database : Database}
    (projection : Sql.Projection) (h : ReadBackBy writing conditions)
    (fit : connection.Fit writing table)
    (performed : perform connection.database connection.enforced table writing =
      .ok (reply, database)) :
    ∃ changed, database.table? (tableName writing) = some changed ∧
      changed.declaration = table.declaration ∧
      patternRefusal? changed (.select projection (tableName writing) conditions [] none) =
        none := by
  have found := table?_of_findTable (writes_of_readBackBy h) fit.found
  cases h with
  | @insert name values id stored =>
    obtain ⟨row, -, -, rfl⟩ := Database.exists_put_of_insert (insert_of_perform performed)
    exact ⟨table.insertRow row, Database.table?_put found rfl, rfl, rfl⟩
  | @update name values =>
    obtain ⟨changed, assigned, -, rfl⟩ :=
      Database.exists_put_of_update (update_of_perform performed)
    have same := Table.declaration_update assigned
    refine ⟨changed, Database.table?_put found same, same, ?_⟩
    rw [patternRefusal?_eq_none_iff]
    exact patternRefusal?_of_update (patternRefusal?_eq_none_iff.mp fit.patterns) assigned

/-! ### The select -/

theorem params_readBack (h : ReadBackBy writing conditions)
    (params : Cell.bindFault? 1 writing.params = none) :
    Cell.bindFault? 1 (Sql.Statement.select projection name conditions [] none).params = none := by
  rw [Cell.bindFault?_eq_none_iff] at params ⊢
  intro value mem
  refine params value ?_
  cases h with
  | insert stored =>
    obtain rfl : value = _ := by simpa [Sql.Statement.params, Sql.whereParams,
      Sql.Condition.params] using mem
    exact stored
  | update => exact List.mem_append_right _ (by simpa [Sql.Statement.params] using mem)

/-- **What was written is read back, if the columns can be read.** A select after a write, with the
conditions that belong to it, succeeds unless something is wrong with the columns. -/
theorem run_readBack_iff {reply : Reply} (h : ReadBackBy writing conditions)
    (ran : connection.run writing = (.ok reply, later)) (after : Connection)
    (same : after.database = later.database) (projection : Sql.Projection) :
    ∃ table, connection.database.table? (tableName writing) = some table ∧
      ((∃ rows, (after.run (.select projection (tableName writing) conditions [] none)).1 =
        .ok rows) ↔ ¬table.Unreadable projection) := by
  obtain ⟨table, fit, performed⟩ := performed_of_run ran
  obtain ⟨changed, found, declared, patterns⟩ :=
    exists_table?_of_performed projection h fit performed
  have found' : after.findTable (.select projection (tableName writing) conditions [] none) =
      .ok changed := by
    refine findTable_eq ?_
    rw [same]
    exact found
  refine ⟨table, table?_of_findTable (writes_of_readBackBy h) fit.found, ?_⟩
  rw [← Table.unreadable_congr projection declared]
  have text := textRefusal?_readBack_iff projection h fit.text
  constructor
  · rintro ⟨rows, succeeded⟩ (empty | null | many)
    all_goals obtain ⟨other, fit'⟩ := fit_of_run succeeded
    · exact (text.mp fit'.text).1 empty
    · exact (text.mp fit'.text).2 null
    · obtain rfl : changed = other := Except.ok.inj (found'.symm.trans fit'.found)
      have size := fit'.size
      rw [sizeRefusal?, if_pos many] at size
      cases size
  · intro readable
    rw [Table.Unreadable, not_or, not_or, Nat.not_lt] at readable
    have fit' : after.Fit (.select projection (tableName writing) conditions [] none) changed :=
      { text := text.mpr ⟨readable.1, readable.2.1⟩
        found := found'
        columns := rfl
        size := by
          rw [sizeRefusal?, if_neg (Nat.not_lt.mpr readable.2.2)]
          rfl
        params := params_readBack h fit.params
        patterns }
    exact ⟨_, congrArg Prod.fst fit'.run_eq⟩

end Connection

end RowQuery
