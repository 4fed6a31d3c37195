import RowQuery.Proofs.Sql.Expression
import RowQuery.Filter.Compile

/-!
# What filters mean

A filter holds of a row or does not; nothing is left unknown. The restriction that is written for a
list of filters selects a row if all of them hold.

* `Filter.Holds` says what it is for a filter to hold.
* `Filter.selected?` reads the restriction of filters, as the store does, for a row.
* `Filter.truth_condition?` — the condition of a filter is true where the filter holds.
* `Filter.selected?_iff` — a row is selected if and only if every filter holds of it.

## Design notes

A condition may be unknown on a row, and then neither it nor its negation selects the row. That is
why `Table.Compares` asks for a cell and a value that are not null, whatever the comparison.
-/

namespace RowQuery

namespace Table

/-- How the values of a column are kept. -/
def storage? (table : Table) (column : String) : Option Storage :=
  (table.declaration.columnIndex? column).bind fun index =>
    table.declaration.columns[index]?.map (·.type.storage)

/-- Whether the cell in a column compares with a value in a given way, the value taken in the form
in which the column would keep it. With null nothing compares. -/
def Compares (table : Table) (row : Row) (column : String) (comparison : Comparison)
    (value : Json) : Prop :=
  ∃ storage, table.storage? column = some storage ∧
    table.cell row column ≠ .null ∧ Cell.bound value ≠ .null ∧
    comparison.holds
      (((table.cell row column).keep storage).order ((Cell.bound value).keep storage))

end Table

namespace Filter

/-- The columns that a filter looks at. -/
def columns : Filter → List String
  | equals column _ | oneOf column _ | isNull column | matchesPattern column _ | notNull column
  | differs column _ _ => [column]
  | anyOf text => (Alternatives.parse text).map (·.column)

/-- Whether a filter holds of a row. The name is that of the table, under which the schema tells
the columns with truth values. -/
def Holds (schema : Schema) (name : String) (table : Table) (row : Row) : Filter → Prop
  | equals column value => table.Compares row column .eq (schema.filterValue name column value)
  | oneOf column values =>
    ∃ value ∈ values, table.Compares row column .eq (schema.filterValue name column value)
  | isNull column => table.cell row column = .null
  | matchesPattern column pattern =>
    ∃ text, Table.loweredText? (table.cell row column) = some text ∧
      Pattern.matchesText (Text.lowerChars pattern.toList) text
  | notNull column => table.cell row column ≠ .null
  | differs column _ value => table.Compares row column .ne (schema.filterValue name column value)
  | anyOf text =>
    (∀ segment ∈ Text.splitOn ',' text.toList, Text.trim segment = []) ∨
      ∃ alternative ∈ Alternatives.parse text,
        table.Compares row alternative.column alternative.comparison (.string alternative.value)

/-- Whether a row is selected by the restriction that is written for filters, with its
parameters. -/
def selected? (schema : Schema) (name : String) (filters : List Filter) (table : Table)
    (row : Row) : Option Bool :=
  Sql.selected? table row (Sql.whereChars (conditions schema name filters))
    (Sql.whereParams (conditions schema name filters))

/-! ### One condition -/

section OneCondition

variable {table : Table} (row : Row) {column : String}

/-- The name of a column refers to it. -/
theorem source_eq (present : (table.declaration.columnIndex? column).isSome) :
    ∃ storage, table.storage? column = some storage ∧
      table.declaration.source column = .column (table.index column) storage := by
  obtain ⟨index, found⟩ := Option.isSome_iff_exists.mp present
  obtain ⟨bound, -⟩ := List.findIdx?_eq_some_iff_getElem.mp found
  refine ⟨table.declaration.columns[index].type.storage, ?_, ?_⟩
  · rw [Table.storage?, found, Option.bind_some, List.getElem?_eq_getElem bound]
    rfl
  · rw [Declaration.source, Table.index, found]
    show Source.column index (table.declaration.columns[index]?.elim .text _) = _
    rw [List.getElem?_eq_getElem bound]
    rfl

theorem read_source row (present : (table.declaration.columnIndex? column).isSome) :
    row.read (table.declaration.source column) = table.cell row column := by
  obtain ⟨storage, -, source⟩ := source_eq present
  rw [source]
  rfl

/-- A comparison with a column is true where the cell compares; it is unknown with null. -/
theorem compareWith_eq_true_iff (present : (table.declaration.columnIndex? column).isSome)
    (comparison : Comparison) (value : Json) :
    (table.compareWith row column value).map comparison.holds = some true ↔
      table.Compares row column comparison value := by
  obtain ⟨storage, kept, source⟩ := source_eq present
  have compared : table.compareWith row column value =
      Cell.compareIn (some storage) (table.cell row column) (.bound value) := by
    rw [Table.compareWith, read_source row present, source]
    rfl
  rw [compared, Cell.compareIn, Table.Compares, kept]
  by_cases unknown : table.cell row column = .null ∨ Cell.bound value = .null
  · -- Nothing compares with null, and neither is the comparison true.
    have nulls : ((table.cell row column).isNull || (Cell.bound value).isNull) = true := by
      simpa [Cell.isNull] using unknown
    rw [if_pos nulls]
    refine ⟨fun h => absurd h (by simp), ?_⟩
    rintro ⟨_, _, cell, other, _⟩
    exact absurd unknown (by simp [cell, other])
  · obtain ⟨cell, other⟩ := not_or.mp unknown
    have known : ¬((table.cell row column).isNull || (Cell.bound value).isNull) = true := by
      simp [Cell.isNull, cell, other]
    rw [if_neg known]
    simp [cell, other, Cell.comparable]

theorem any_eq_true_iff (truths : List Truth) :
    Truth.any truths = some true ↔ some true ∈ truths := by
  induction truths with
  | nil => simp [Truth.any]
  | cons truth truths ih =>
    rw [Sql.any_cons, List.mem_cons, ← ih]
    generalize Truth.any truths = others
    rcases truth with _ | _ | _ <;> rcases others with _ | _ | _ <;> decide

/-- Alternatives are missing where every segment is blank. -/
theorem parse_eq_nil_iff (text : String) :
    Alternatives.parse text = [] ↔
      ∀ segment ∈ Text.splitOn ',' text.toList, Text.trim segment = [] := by
  rw [Alternatives.parse, Alternatives.parseChars, List.map_eq_nil_iff, List.filter_eq_nil_iff]
  simp

end OneCondition

section Meaning

variable {schema : Schema} {name : String} {table : Table} {row : Row}

/-- The condition of a filter is true where the filter holds; a filter without a condition holds of
every row. -/
theorem truth_condition? (filter : Filter)
    (present : ∀ column ∈ filter.columns, (table.declaration.columnIndex? column).isSome) :
    (∀ condition, filter.condition? schema name = some condition →
      table.truth row condition = some true) ↔ filter.Holds schema name table row := by
  have written (condition : Sql.Condition) :
      (∀ other, some condition = some other → table.truth row other = some true) ↔
        table.truth row condition = some true := by simp
  cases filter with
  | equals column value =>
    rw [condition?, written]
    exact compareWith_eq_true_iff row (present column (List.mem_singleton_self _)) .eq _
  | oneOf column values =>
    have one := compareWith_eq_true_iff row (present column (List.mem_singleton_self _)) .eq
    cases values with
    | nil =>
      rw [condition?, if_pos List.isEmpty_nil, written]
      simp [Table.truth, Holds]
    | cons value values =>
      rw [condition?, if_neg (by simp), written, Table.truth, any_eq_true_iff, List.map_map,
        List.mem_map]
      exact exists_congr fun v => and_congr_right fun _ => one _
  | isNull column =>
    rw [condition?, written, Table.truth,
      read_source row (present column (List.mem_singleton_self _))]
    simp [Holds, Cell.isNull]
  | matchesPattern column pattern =>
    rw [condition?, written, Table.truth,
      read_source row (present column (List.mem_singleton_self _)), Option.map_eq_some_iff]
    rfl
  | notNull column =>
    rw [condition?, written, Table.truth,
      read_source row (present column (List.mem_singleton_self _))]
    simp [Holds, Cell.isNull]
  | differs column word value =>
    rw [condition?, written]
    exact compareWith_eq_true_iff row (present column (List.mem_singleton_self _)) .ne _
  | anyOf text =>
    rw [condition?, Holds, ← parse_eq_nil_iff]
    have one (alternative : Alternative) (mem : alternative ∈ Alternatives.parse text) :=
      compareWith_eq_true_iff row (present _ (List.mem_map_of_mem mem))
        alternative.comparison (.string alternative.value)
    generalize Alternatives.parse text = alternatives at one
    -- Without alternatives there is no condition, and the filter holds of every row.
    cases alternatives with
    | nil => simp
    | cons first rest =>
      rw [written, Table.truth, any_eq_true_iff, List.map_map, List.mem_map]
      have missing : ¬first :: rest = [] := List.cons_ne_nil _ _
      rw [or_iff_right missing]
      exact exists_congr fun other => and_congr_right fun mem => one other mem

/-- The condition of a filter has a text: a list without values and a text without alternatives are
not written as such. -/
theorem writable_of_condition? {filter : Filter} {condition : Sql.Condition}
    (h : filter.condition? schema name = some condition) : condition.Writable := by
  cases filter with
  | oneOf column values =>
    rw [condition?] at h
    split at h
    · cases h
      trivial
    · next listed =>
      cases h
      exact fun none => listed (by simpa using none)
  | anyOf text =>
    rw [condition?] at h
    split at h
    · cases h
    · next missing =>
      cases h
      exact fun none => missing (List.map_eq_nil_iff.mp none)
  | _ =>
    cases h
    trivial

/-! ### All conditions -/

/-- The store reads the restriction of filters as their conditions. -/
theorem selected?_eq (filters : List Filter) :
    selected? schema name filters table row =
      some (table.selects (conditions schema name filters) row) := by
  refine Sql.selected?_where table row _ fun condition mem => ?_
  obtain ⟨filter, -, written⟩ := List.mem_filterMap.mp mem
  exact writable_of_condition? written

/-- The conditions of filters select a row where each of them is true. -/
theorem selects_conditions_iff (filters : List Filter) :
    table.selects (conditions schema name filters) row = true ↔
      ∀ filter ∈ filters, ∀ condition, filter.condition? schema name = some condition →
        table.truth row condition = some true := by
  rw [Table.selects, List.all_eq_true]
  constructor
  · intro h filter mem condition written
    exact of_decide_eq_true (h condition (List.mem_filterMap.mpr ⟨filter, mem, written⟩))
  · intro h condition mem
    obtain ⟨filter, member, written⟩ := List.mem_filterMap.mp mem
    exact decide_eq_true (h filter member condition written)

/-- Where all columns of filters exist, their conditions select the rows of which the filters
hold. -/
theorem selects_iff_holds {filters : List Filter} (present : ∀ filter ∈ filters,
      ∀ column ∈ filter.columns, (table.declaration.columnIndex? column).isSome) :
    table.selects (conditions schema name filters) row = true ↔
      ∀ filter ∈ filters, filter.Holds schema name table row := by
  rw [selects_conditions_iff]
  exact forall_congr' fun filter => forall_congr' fun mem =>
    truth_condition? filter (present filter mem)

/-- Whether a filter holds of a row depends on the cells that it looks at only. -/
theorem holds_congr {filter : Filter} {other : Table} {new : Row}
    (same : other.declaration = table.declaration)
    (cells : ∀ column ∈ filter.columns, other.cell new column = table.cell row column) :
    filter.Holds schema name other new ↔ filter.Holds schema name table row := by
  have compares {column : String} (mem : column ∈ filter.columns) (comparison : Comparison)
      (value : Json) :
      other.Compares new column comparison value ↔ table.Compares row column comparison value := by
    rw [Table.Compares, Table.Compares, Table.storage?, Table.storage?, same, cells column mem]
  cases filter with
  | equals column value => exact compares (List.mem_singleton_self _) .eq _
  | oneOf column values =>
    exact exists_congr fun value => and_congr_right fun _ =>
      compares (List.mem_singleton_self _) .eq _
  | isNull column => rw [Holds, Holds, cells column (List.mem_singleton_self _)]
  | matchesPattern column pattern => rw [Holds, Holds, cells column (List.mem_singleton_self _)]
  | notNull column => rw [Holds, Holds, cells column (List.mem_singleton_self _)]
  | differs column word value => exact compares (List.mem_singleton_self _) .ne _
  | anyOf text =>
    refine or_congr_right (exists_congr fun alternative => and_congr_right fun mem => ?_)
    exact compares (List.mem_map_of_mem mem) alternative.comparison _

/-- Of two lists of filters, the one with all filters of the other selects no more rows. -/
theorem selects_of_subset {filters more : List Filter} (subset : filters ⊆ more)
    (h : table.selects (conditions schema name more) row = true) :
    table.selects (conditions schema name filters) row = true := by
  rw [selects_conditions_iff] at h ⊢
  exact fun filter mem => h filter (subset mem)

/-- **A row is selected if and only if every filter holds of it**, where the filters look at columns
of the table only. So neither the order of the filters matters, nor does a further filter select
further rows. A value that cannot be a parameter counts as null here; a statement with one is
refused before any row is looked at. -/
theorem selected?_iff (schema : Schema) (name : String) (filters : List Filter) (table : Table)
    (row : Row)
    (present : ∀ filter ∈ filters, ∀ column ∈ filter.columns,
      (table.declaration.columnIndex? column).isSome) :
    ∃ selected, selected? schema name filters table row = some selected ∧
      (selected = true ↔ ∀ filter ∈ filters, filter.Holds schema name table row) ∧
      (∀ reordered, reordered.Perm filters →
        selected? schema name reordered table row = some selected) ∧
      (∀ more, filters ⊆ more → selected? schema name more table row = some true →
        selected = true) := by
  refine ⟨table.selects (conditions schema name filters) row, selected?_eq filters, ?_, ?_, ?_⟩
  · rw [selects_conditions_iff]
    exact forall_congr' fun filter => forall_congr' fun mem =>
      truth_condition? filter (present filter mem)
  · intro reordered permuted
    rw [selected?_eq, Option.some_inj, Bool.eq_iff_iff]
    -- Each of the two lists has all filters of the other.
    exact ⟨selects_of_subset permuted.symm.subset, selects_of_subset permuted.subset⟩
  · intro more subset selected
    rw [selected?_eq, Option.some_inj] at selected
    exact selects_of_subset subset selected

end Meaning

/-- A table of members with a column of truth values, and a member in it. -/
def members : Table :=
  ⟨⟨"members", [⟨"id", .text, true, false, false, none, none⟩,
      ⟨"name", .text, false, false, false, none, none⟩,
      ⟨"is_living", .boolean, false, false, false, none, none⟩,
      ⟨"birth_year", .integer, false, false, false, none, none⟩], []⟩,
    [⟨1, [.text "P1", .text "Nguyễn An", .integer 1, .null]⟩]⟩

/-- Filters of every kind that hold of the member. -/
def memberFilters : List Filter :=
  [.equals "is_living" (.bool true), .oneOf "id" [.null, .string "P1"], .isNull "birth_year",
    .matchesPattern "name" "%AN", .notNull "name", .differs "name" .eq (.string "?"), .anyOf " , ",
    .anyOf "birth_year.gt.1900, id.eq.P1"]

theorem selected?_iff_members :
    (∀ filter ∈ memberFilters, ∀ column ∈ filter.columns,
      (members.declaration.columnIndex? column).isSome) ∧
    ∀ row ∈ members.rows, ∀ filter ∈ memberFilters,
      filter.Holds ⟨[("members", members.declaration.traits)]⟩ "members" members row := by
  have present : ∀ filter ∈ memberFilters, ∀ column ∈ filter.columns,
      (members.declaration.columnIndex? column).isSome := by decide +kernel
  refine ⟨present, fun row mem => ?_⟩
  obtain ⟨selected, read, holds, -⟩ := selected?_iff
    ⟨[("members", members.declaration.traits)]⟩ "members" memberFilters members row present
  have chosen : ∀ row ∈ members.rows, selected? ⟨[("members", members.declaration.traits)]⟩
      "members" memberFilters members row = some true := by decide +kernel
  exact holds.mp (Option.some_inj.mp (read.symm.trans (chosen row mem)))

end Filter

end RowQuery
