import RowQuery.Proofs.Execution.Reading
import RowQuery.Proofs.Execution.TruthValues

/-!
# Filters on truth values

A truth value is stored as a number, compared as a number and read as a truth value. Where requests
spell names as they are declared, the three agree.

* `Request.Spelt` are the requests that do; they are truthful.
* `Table.flag_of_flagged` — a row has a truth value in a column of such values, and
  `Table.field?_logical_flag` says that this is what is read.
* `filter_by_truth_value` — a filter on a column of truth values picks the rows that it says, by
  what is read of them.
-/

namespace RowQuery

/-! ### Spelling -/

/-- Table names and the names of fields are spelt as they are declared; a name that is like no
declared one does not matter. -/
def Request.Spelt (request : Request) : Prop :=
  ∀ declaration ∈ Catalog.tables, sameName declaration.name request.table →
    request.table = declaration.name ∧ ∀ column ∈ declaration.columns,
      ∀ record ∈ request.records, ∀ field ∈ record,
        sameName field.1 column.name → field.1 = column.name

instance (request : Request) : Decidable request.Spelt :=
  inferInstanceAs (Decidable (∀ declaration ∈ Catalog.tables, _ → _))

theorem Request.Spelt.truthful {request : Request} (spelt : request.Spelt) : request.Truthful := by
  have exact_names {counts : Fields → Option (String × Json)}
      (picks : ∀ {l : Fields} {field}, counts l = some field → field ∈ l) {record : Fields}
      (mem : record ∈ request.records) : record.Truthful request.table counts := by
    intro declaration declared about column member boolean field counted
    obtain ⟨named, fields⟩ := spelt declaration declared about
    obtain ⟨inside, like⟩ := Fields.mem_like.mp (picks counted)
    exact .inl ⟨named, fields column member record mem field inside like⟩
  rw [Request.Truthful]
  cases request.method with
  | select => exact trivial
  | delete => exact trivial
  | insert => exact fun record mem => exact_names List.mem_of_head? mem
  | update =>
    cases records : request.records with
    | nil =>
      rw [Request.firstRecord, records]
      rintro _ _ _ _ _ _ _ ⟨⟩
    | cons record rest =>
      have first : request.firstRecord ∈ request.records := by
        rw [Request.firstRecord, records]
        exact List.mem_cons_self
      exact exact_names List.mem_of_getLast? first

/-! ### Truth values in rows -/

namespace Table

variable {table : Table} {row : Row} {column : Column} {index : Nat}

/-- What a column of truth values holds is a truth value. -/
theorem flag_of_flagged (obeys : row.Obeys Column.Flagged table.declaration)
    (here : table.declaration.columns[index]? = some column) (boolean : column.type = .boolean) :
    ∃ b : Bool, row.cell index = .integer (if b then 1 else 0) := by
  rcases obeys.cell here boolean with zero | one
  · exact ⟨false, zero⟩
  · exact ⟨true, one⟩

/-- What is read of a column of truth values. -/
theorem field?_logical_flag (declared : table.declaration ∈ Catalog.tables)
    (shaped : row.cells.length = table.declaration.columns.length)
    (here : table.declaration.columns[index]? = some column) (boolean : column.type = .boolean)
    {b : Bool} (flag : row.cell index = .integer (if b then 1 else 0)) :
    (table.logical Catalog.schema row).field? column.name = some (.bool b) := by
  have mem : column ∈ table.declaration.columns := List.mem_of_getElem? here
  rw [field?_logical declared shaped here, flag]
  show some ((Catalog.schema.traits table.declaration.name).logicalValue _ _) = _
  rw [Catalog.traits_eq _ declared, Declaration.logicalValue_of_boolean mem boolean]
  cases b <;> rfl

/-- How a column of truth values stands to a truth value. -/
theorem compareWith_flag (declared : table.declaration ∈ Catalog.tables)
    (here : table.declaration.columns[index]? = some column) (boolean : column.type = .boolean)
    {b : Bool} (flag : row.cell index = .integer (if b then 1 else 0)) (other : Bool) :
    table.compareWith row column.name (.integer (if other then 1 else 0)) =
      some (compare (if b then 1 else 0 : Int) (if other then 1 else 0)) := by
  rw [compareWith_column declared here, flag, boolean]
  cases b <;> cases other <;> rfl

/-- Every row has a truth value under a name, which is what is compared and what is read. -/
def Flags (table : Table) (name : String) : Prop :=
  ∀ row ∈ table.rows, ∃ v : Bool,
    (∀ b : Bool, table.compareWith row name (.integer (if b then 1 else 0)) =
      some (compare (if v then 1 else 0 : Int) (if b then 1 else 0))) ∧
    (table.logical Catalog.schema row).field? name = some (.bool v)

theorem flags_of_flagged (declared : table.declaration ∈ Catalog.tables)
    (obeys : table.Obeys Column.Flagged) (mem : column ∈ table.declaration.columns)
    (boolean : column.type = .boolean) : table.Flags column.name := by
  intro row inside
  obtain ⟨index, here⟩ := List.mem_iff_getElem?.mp mem
  obtain ⟨v, flag⟩ := flag_of_flagged (obeys row inside) here boolean
  exact ⟨v, compareWith_flag declared here boolean flag,
    field?_logical_flag declared (obeys row inside).length_eq here boolean flag⟩

namespace Flags

variable {name : String} (flags : table.Flags name) (inside : row ∈ table.rows) (b : Bool)

include flags inside

theorem truth_eq : table.truth row (.compare ⟨name, .eq, .integer (if b then 1 else 0)⟩) =
    some (decide ((table.logical Catalog.schema row).field? name = some (.bool b))) := by
  obtain ⟨v, compared, read⟩ := flags row inside
  show Option.map _ (table.compareWith row name _) = _
  rw [compared b, read]
  cases v <;> cases b <;> rfl

theorem truth_ne : table.truth row (.compare ⟨name, .ne, .integer (if b then 1 else 0)⟩) =
    some (!decide ((table.logical Catalog.schema row).field? name = some (.bool b))) := by
  obtain ⟨v, compared, read⟩ := flags row inside
  show Option.map _ (table.compareWith row name _) = _
  rw [compared b, read]
  cases v <;> cases b <;> rfl

/-- A truth value is one of the two. -/
theorem truth_oneOf : table.truth row (.oneOf name [.integer 1, .integer 0]) = some true := by
  obtain ⟨v, compared, -⟩ := flags row inside
  have one : table.compareWith row name (.integer 1) = _ := compared true
  have zero : table.compareWith row name (.integer 0) = _ := compared false
  show Truth.any [Option.map _ (table.compareWith row name (.integer 1)),
    Option.map _ (table.compareWith row name (.integer 0))] = _
  rw [one, zero]
  cases v <;> rfl

end Flags

end Table

/-- A truth value that a column of such values is compared with. -/
theorem Catalog.filterValue_flag {declaration : Declaration} {column : Column}
    (declared : declaration ∈ tables) (mem : column ∈ declaration.columns)
    (boolean : column.type = .boolean) (b : Bool) :
    schema.filterValue declaration.name column.name (.bool b) = .integer (if b then 1 else 0) := by
  have known : schema.isBoolean declaration.name column.name = true := by
    rw [Schema.isBoolean, traits_eq _ declared]
    exact Declaration.booleans_contains mem boolean
  rw [Schema.filterValue, known]
  rfl

/-- The number that stands for a truth value is no obstacle. -/
theorem Cell.ofJson_flag (b : Bool) :
    ofJson (.integer (if b then 1 else 0)) = .ok (integer (if b then 1 else 0)) := by
  cases b <;> rfl

/-- Nor are both truth values together an obstacle. -/
theorem Connection.harmless_flags {name : String} (named : '\x00' ∉ Sql.nameChars name) :
    Harmless [.oneOf name [.integer 1, .integer 0]] := by
  have low : 2 ≤ Sql.maxHeight := by decide
  have two : 2 ≤ Sql.maxParams := by decide
  refine harmless_singleton ?_ low two (fun value mem => ?_) rfl
  · have list : '\x00' ∉ " IN (?, ?)".toList := by decide
    have chars : (Sql.Condition.oneOf name [.integer 1, .integer 0]).chars =
        Sql.nameChars name ++ " IN (?, ?)".toList := by
      simp [Sql.Condition.chars, Text.joinWith]
    rw [chars, List.mem_append, not_or]
    exact ⟨named, list⟩
  · have values : value = .integer 1 ∨ value = .integer 0 := by
      simpa [Sql.Condition.params] using mem
    rcases values with rfl | rfl
    · exact ⟨_, Cell.ofJson_flag true⟩
    · exact ⟨_, Cell.ofJson_flag false⟩

/-! ### Answers that list rows -/

/-- The answer is the list of some rows, in any order. -/
def Answer.Lists (answer : Answer) (rows : List Json) : Prop :=
  ∃ found, answer = .ok (.array found) ∧ found.Perm rows

/-- A request whose answer is a list: it does not ask for a single row. -/
def Request.Many (request : Request) : Prop := request.single = false ∧ request.maybeSingle = false

namespace Execution

open Connection (Harmless)

variable {sources : Sources} {schema : Schema} {request : Request} {rule : Rule} {table : Table}
  {world : World Connection}

theorem cardinality_of_many (many : request.Many) (rows : List Json) :
    cardinality request rows = .ok (.array rows) := by
  obtain ⟨single, maybe⟩ := many
  unfold cardinality
  rw [single, maybe]
  rfl

/-- A select of all columns without a filter answers with all rows. -/
theorem answer_of_all (held : world.state.Holds rule) (mem : table ∈ world.state.database.tables)
    (reads : request.ReadsAll table.name) (many : request.Many) :
    ∃ rows, ((Query.request { request with filters := [] }).execute Connection.engine sources schema
        world).1 = .ok (.array rows) ∧ rows.Perm (table.rows.map (table.logical schema)) := by
  have reads' : Request.ReadsAll { request with filters := [] } table.name :=
    ⟨reads.method, reads.table, reads.columns, reads.order, reads.limit⟩
  have checked : (Query.request { request with filters := [] }).check = .ok _ := rfl
  obtain ⟨rows, answered, listed⟩ :=
    execute_select held mem checked reads' Connection.harmless_nil
  have whole : table.rows.filter (table.selects []) = table.rows :=
    List.filter_eq_self.mpr fun _ _ => rfl
  refine ⟨rows, ?_, whole ▸ listed⟩
  rw [answered]
  exact cardinality_of_many many rows

/-- A select of all columns with one condition lists the rows of which it holds. -/
theorem lists_of_condition (held : world.state.Holds rule)
    (mem : table ∈ world.state.database.tables) (reads : request.ReadsAll table.name)
    (many : request.Many) {rows : List Json}
    (all : rows.Perm (table.rows.map (table.logical schema))) {filters : List Filter}
    {condition : Sql.Condition}
    (means : Filter.conditions schema table.name filters = [condition])
    (harmless : Harmless [condition]) {keep : Json → Bool}
    (same : ∀ row ∈ table.rows,
      table.truth row condition = some (keep (table.logical schema row))) :
    ((Query.request { request with filters }).execute Connection.engine sources schema
      world).1.Lists (rows.filter keep) := by
  have reads' : Request.ReadsAll { request with filters } table.name :=
    ⟨reads.method, reads.table, reads.columns, reads.order, reads.limit⟩
  have conds : conditions schema { request with filters } = [condition] := by
    show Filter.conditions schema request.table filters = _
    rw [reads.table, means]
  have checked : (Query.request { request with filters }).check = .ok _ := rfl
  obtain ⟨found, answered, listed⟩ := execute_select held mem checked reads' (conds ▸ harmless)
  refine ⟨found, ?_, ?_⟩
  · rw [answered]
    exact cardinality_of_many many found
  · have picked : table.rows.filter (table.selects [condition]) =
        table.rows.filter (keep ∘ table.logical schema) :=
      List.filter_congr fun row inside => by
        rw [Table.selects, List.all_cons, List.all_nil, Bool.and_true, same row inside]
        show decide (some (keep (table.logical schema row)) = some true) = keep _
        cases keep (table.logical schema row) <;> rfl
    rw [conds, picked, ← List.filter_map] at listed
    exact listed.trans (all.filter keep).symm

end Execution

/-! ### Filters -/

/-- **Filters on truth values agree with what is read.** After any requests that spell names as they
are declared, a select of all columns lists the rows of the table without a filter, and with a
filter on a column of truth values those of them of which the filter holds as they are read. -/
theorem filter_by_truth_value (sources : Sources) (world : World Connection)
    (reached :
      Reached sources (fun schema request => schema = Catalog.schema ∧ request.Spelt) world)
    (declaration : Declaration) (declared : declaration ∈ Catalog.tables) (column : Column)
    (mem : column ∈ declaration.columns) (boolean : column.type = .boolean) (request : Request)
    (reads : request.ReadsAll declaration.name) (many : request.Many) (b : Bool) :
    let answer (filters : List Filter) : Answer :=
      ((Query.request { request with filters }).execute Connection.engine sources Catalog.schema
        world).1
    let meant (row : Json) : Bool := row.field? column.name = some (.bool b)
    ∃ table rows, world.state.database.table? declaration.name = some table ∧
      answer [] = .ok (.array rows) ∧
      rows.Perm (table.rows.map (table.logical Catalog.schema)) ∧
      (answer [.equals column.name (.bool b)]).Lists (rows.filter meant) ∧
      (∀ word, (answer [.differs column.name word (.bool b)]).Lists (rows.filter (!meant ·))) ∧
      (answer [.oneOf column.name [.bool true, .bool false]]).Lists rows ∧
      (answer [.oneOf column.name []]).Lists [] := by
  intro answer meant
  have held : world.state.Holds Column.Flagged := by
    refine reached.holds Rule.natural_flagged ?_
    rintro _ request ⟨rfl, spelt⟩
    exact spelt.truthful.heeds
  obtain ⟨table, member, rfl⟩ := held.sound.exists_table declared
  have flags := Table.flags_of_flagged declared (held.obeys table member) mem boolean
  have named : '\x00' ∉ Sql.nameChars column.name := (Catalog.readable _ declared).2.2 column mem
  have value (b : Bool) : Catalog.schema.filterValue table.name column.name (.bool b) =
      .integer (if b then 1 else 0) := Catalog.filterValue_flag declared mem boolean b
  obtain ⟨rows, answered, all⟩ := Execution.answer_of_all held member reads many
  have lists {filters : List Filter} {condition : Sql.Condition} {keep : Json → Bool}
      (means : Filter.conditions Catalog.schema table.name filters = [condition])
      (harmless : Connection.Harmless [condition])
      (same : ∀ row ∈ table.rows,
        table.truth row condition = some (keep (table.logical Catalog.schema row))) :
      (answer filters).Lists (rows.filter keep) :=
    Execution.lists_of_condition held member reads many all means harmless same
  have compares (comparison : Comparison) : [Sql.Condition.compare ⟨column.name, comparison,
      Catalog.schema.filterValue table.name column.name (.bool b)⟩] =
        [.compare ⟨column.name, comparison, .integer (if b then 1 else 0)⟩] := by
    rw [value b]
  have harmless (comparison : Comparison) :=
    Connection.harmless_compare named comparison (Cell.ofJson_flag b)
  refine ⟨table, rows, held.sound.table?_eq member, answered, all, ?_, fun word => ?_, ?_, ?_⟩
  · exact lists (compares .eq) (harmless .eq)
      fun row inside => flags.truth_eq inside b
  · exact lists (compares .ne) (harmless .ne)
      fun row inside => flags.truth_ne inside b
  · have means : Filter.conditions Catalog.schema table.name
        [.oneOf column.name [.bool true, .bool false]] =
        [.oneOf column.name [.integer 1, .integer 0]] := by
      show [Sql.Condition.oneOf _ [Catalog.schema.filterValue table.name _ _,
        Catalog.schema.filterValue table.name _ _]] = _
      rw [value true, value false]
      rfl
    have every : (answer [.oneOf column.name [.bool true, .bool false]]).Lists
        (rows.filter fun _ => true) :=
      lists means (Connection.harmless_flags named) fun row inside => flags.truth_oneOf inside
    rw [List.filter_true] at every
    exact every
  · have harmless : Connection.Harmless [.never] :=
      Connection.harmless_singleton (by decide) (by decide) (by decide) (fun _ mem => nomatch mem)
        rfl
    have none : (answer [.oneOf column.name []]).Lists (rows.filter fun _ => false) :=
      lists rfl harmless fun _ _ => rfl
    rw [List.filter_false] at none
    exact none

/-- A request for all events. -/
def allEvents : Request :=
  { plainRequest .select "events" [] [] with columns := some "*" }

/-- The world after two events have been recorded, of which one recurs. -/
def eventsWorld : World Connection :=
  Query.executeAll Connection.engine (.steady 0 1) Catalog.schema
    [.request (plainRequest .insert "events" [
      [("id", .string "e-1"), ("title", .string "Anniversary"), ("recurring", .string "yes")],
      [("id", .string "e-2"), ("title", .string "Wedding")]] [])] Execution.newStore

/-- One event recurs and one does not, and a filter tells them apart as they are read. -/
theorem filter_by_truth_value_events :
    Reached (.steady 0 1) (fun schema request => schema = Catalog.schema ∧ request.Spelt)
        eventsWorld ∧
      allEvents.ReadsAll "events" ∧ allEvents.Many ∧
      (eventsWorld.state.database.table? "events").map (fun table =>
        table.rows.map fun row => table.cell row "recurring") = some [.integer 1, .integer 0] ∧
      ∃ table rows, eventsWorld.state.database.table? "events" = some table ∧
        ((Query.request { allEvents with filters := [] }).execute Connection.engine (.steady 0 1)
          Catalog.schema eventsWorld).1 = .ok (.array rows) ∧
        rows.Perm (table.rows.map (table.logical Catalog.schema)) ∧
        ((Query.request { allEvents with filters := [.equals "recurring" (.bool true)] }).execute
          Connection.engine (.steady 0 1) Catalog.schema eventsWorld).1.Lists
          (rows.filter fun row => row.field? "recurring" = some (.bool true)) := by
  have reached : Reached (.steady 0 1)
      (fun schema request => schema = Catalog.schema ∧ request.Spelt) eventsWorld := by
    refine Reached.new.queries Catalog.schema _ fun query mem request checked => ⟨rfl, ?_⟩
    obtain rfl := List.mem_singleton.mp mem
    obtain rfl := Except.ok.inj checked
    decide +kernel
  have reads : allEvents.ReadsAll "events" := ⟨rfl, rfl, by decide, rfl, rfl⟩
  have many : allEvents.Many := ⟨rfl, rfl⟩
  obtain ⟨table, rows, stored, answered, all, equal, -⟩ := filter_by_truth_value (.steady 0 1)
    eventsWorld reached Catalog.events (by decide) (Catalog.flag "recurring" false) (by decide) rfl allEvents reads many
    true
  exact ⟨reached, reads, many, by decide +kernel, table, rows, stored, answered, all, equal⟩

end RowQuery
