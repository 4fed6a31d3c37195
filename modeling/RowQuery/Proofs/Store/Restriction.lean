import RowQuery.Proofs.Filter.Meaning
import RowQuery.Proofs.Store.Breach
import RowQuery.Proofs.Store.Selection

/-!
# Restrictions that a store can read

A restriction to columns that exist is read by the store, whatever its values are. What may be wrong
with it are its values, its height and its patterns.

* `Sql.Condition.columns` are the columns that a condition names.
* `Filter.readable_restriction` — the text of a restriction to columns that exist has no null
  character.
* `Table.Obstructs` — all that can be wrong with such a restriction.
* `Connection.fit_delete_iff` — a delete can be performed unless its restriction is obstructed.
-/

namespace RowQuery

/-! ### Null characters -/

theorem Text.mem_of_mem_joinWith {c : Char} {separator : List Char} {pieces : List (List Char)}
    (h : c ∈ joinWith separator pieces) : c ∈ separator ∨ ∃ piece ∈ pieces, c ∈ piece := by
  induction pieces with
  | nil => cases h
  | cons piece rest ih =>
    cases rest with
    | nil => exact .inr ⟨piece, List.mem_singleton_self _, h⟩
    | cons next rest =>
      rw [joinWith, List.mem_append, List.mem_append] at h
      rcases h with (here | between) | later
      · exact .inr ⟨piece, List.mem_cons_self, here⟩
      · exact .inl between
      · refine (ih later).imp_right ?_
        rintro ⟨other, mem, there⟩
        exact ⟨other, List.mem_cons_of_mem _ mem, there⟩
      · exact List.cons_ne_nil _ _

/-- A name is quoted without a null character if it has none. -/
theorem Sql.null_mem_nameChars_iff {name : String} :
    '\x00' ∈ nameChars name ↔ '\x00' ∈ name.toList := by
  have quoted (c : Char) : '\x00' ∈ (if c = '"' then ['"', '"'] else [c]) ↔ '\x00' = c := by
    split
    · next same => simp [same]
    · simp
  simp [nameChars, escapeName, quoted]

theorem eq_null_of_toLower {c : Char} (lower : c.toLower = '\x00') : c = '\x00' := by
  delta Char.toLower at lower
  split at lower
  · next capital =>
    -- The small letter of a capital is no null character.
    have low : 65 ≤ c.val.toNat := UInt32.le_iff_toNat_le.mp capital.1
    have high : c.val.toNat ≤ 90 := UInt32.le_iff_toNat_le.mp capital.2
    have zero : (c.val + 32).toNat = 0 := congrArg (fun d : Char => d.val.toNat) lower
    rw [UInt32.toNat_add] at zero
    have step : (32 : UInt32).toNat = 32 := rfl
    omega
  · exact lower

/-- Letter case aside, a name has no null character if another one has none. -/
theorem null_not_mem_of_sameName {a b : String} (same : sameName a b = true)
    (h : '\x00' ∉ a.toList) : '\x00' ∉ b.toList := by
  intro mem
  have lowered : Char.toLower '\x00' ∈ a.toList.map Char.toLower := by
    rw [sameName_iff.mp same]
    exact List.mem_map_of_mem mem
  obtain ⟨c, here, lower⟩ := List.mem_map.mp lowered
  exact h (eq_null_of_toLower lower ▸ here)

/-! ### The text of a restriction -/

namespace Sql

/-- The columns that a condition names. -/
def Condition.columns : Condition → List String
  | compare term => [term.column]
  | oneOf column _ | isNull column | notNull column | like column _ => [column]
  | never => []
  | anyOf terms => terms.map (·.column)

theorem Term.readable {term : Term} (named : '\x00' ∉ nameChars term.column) :
    '\x00' ∉ term.chars := by
  have signs : '\x00' ∉ ' ' :: term.comparison.sign.toList ++ [' ', '?'] := by
    cases term.comparison <;> decide
  have chars : term.chars =
      nameChars term.column ++ (' ' :: term.comparison.sign.toList ++ [' ', '?']) :=
    List.append_assoc _ _ _
  rw [chars, List.mem_append, not_or]
  exact ⟨named, signs⟩

/-- The text of a condition has a null character only if the name of a column has one. -/
theorem Condition.readable {condition : Condition}
    (named : ∀ column ∈ condition.columns, '\x00' ∉ nameChars column) :
    '\x00' ∉ condition.chars := by
  cases condition with
  | compare term => exact Term.readable (named _ (List.mem_singleton_self _))
  | never => decide
  | oneOf column values =>
    have own := named column (List.mem_singleton_self _)
    have marks : '\x00' ∉ Text.joinWith [',', ' '] (values.map fun _ => ['?']) := by
      intro mem
      rcases Text.mem_of_mem_joinWith mem with between | ⟨piece, listed, here⟩
      · exact absurd between (by decide)
      · obtain ⟨-, -, rfl⟩ := List.mem_map.mp listed
        exact absurd here (by decide)
    have word : '\x00' ∉ " IN (".toList := by decide
    have bracket : '\x00' ∉ [')'] := by decide
    simp only [chars, List.mem_append, own, marks, word, bracket, or_self, not_false_eq_true]
  | isNull column =>
    have word : '\x00' ∉ " IS NULL".toList := by decide
    rw [chars, List.mem_append, not_or]
    exact ⟨named column (List.mem_singleton_self _), word⟩
  | notNull column =>
    have word : '\x00' ∉ " IS NOT NULL".toList := by decide
    rw [chars, List.mem_append, not_or]
    exact ⟨named column (List.mem_singleton_self _), word⟩
  | like column pattern =>
    have own := named column (List.mem_singleton_self _)
    have function : '\x00' ∉ lowerFunction.toList := by decide
    have word : '\x00' ∉ ") LIKE ".toList := by decide
    have mark : '\x00' ∉ "(?)".toList := by decide
    have bracket : '\x00' ≠ '(' := by decide
    simp only [chars, List.mem_append, List.mem_cons, own, function, word, mark, bracket, or_self,
      not_false_eq_true]
  | anyOf terms =>
    have joined : '\x00' ∉ Text.joinWith " OR ".toList (terms.map Term.chars) := by
      intro mem
      rcases Text.mem_of_mem_joinWith mem with between | ⟨piece, listed, here⟩
      · exact absurd between (by decide)
      · obtain ⟨term, inside, rfl⟩ := List.mem_map.mp listed
        exact Term.readable (named _ (List.mem_map_of_mem inside)) here
    have opening : '\x00' ≠ '(' := by decide
    have closing : '\x00' ∉ [')'] := by decide
    simp only [chars, List.mem_append, List.mem_cons, joined, opening, closing, or_self,
      not_false_eq_true]

/-- The text of conditions has a null character only if the name of a column has one. -/
theorem readable_clause {conditions : List Condition}
    (named : ∀ condition ∈ conditions, ∀ column ∈ condition.columns, '\x00' ∉ nameChars column) :
    '\x00' ∉ clause (whereChars conditions) := by
  have restriction : '\x00' ∉ whereChars conditions := by
    rw [whereChars]
    split
    · exact List.not_mem_nil
    · intro mem
      rcases List.mem_append.mp mem with word | joined
      · exact absurd word (by decide)
      · rcases Text.mem_of_mem_joinWith joined with between | ⟨piece, listed, here⟩
        · exact absurd between (by decide)
        · obtain ⟨condition, inside, rfl⟩ := List.mem_map.mp listed
          exact Condition.readable (named condition inside) here
  rw [clause]
  split
  · exact List.not_mem_nil
  · rw [List.mem_cons, not_or]
    exact ⟨by decide, restriction⟩

end Sql

/-- A name that finds a column of a declared table is quoted without a null character. -/
theorem Catalog.readable_column {declaration : Declaration} {name : String}
    (declared : declaration ∈ tables) (known : (declaration.columnIndex? name).isSome) :
    '\x00' ∉ Sql.nameChars name := by
  rw [Declaration.columnIndex?, List.findIdx?_isSome, List.any_eq_true] at known
  obtain ⟨column, mem, same⟩ := known
  have own := (readable _ declared).2.2 column mem
  rw [Sql.null_mem_nameChars_iff] at own ⊢
  exact null_not_mem_of_sameName same own

namespace Filter

variable {schema : Schema} {name : String} {declaration : Declaration}

/-- A condition names columns that its filter looks at. -/
theorem columns_of_condition? {filter : Filter} {condition : Sql.Condition}
    (h : filter.condition? schema name = some condition) : condition.columns ⊆ filter.columns := by
  cases filter with
  | oneOf column values =>
    rw [condition?] at h
    split at h
    · cases h
      exact List.nil_subset _
    · cases h
      exact List.Subset.refl _
  | anyOf text =>
    rw [condition?] at h
    split at h
    · cases h
    · cases h
      rw [Sql.Condition.columns, List.map_map]
      exact List.Subset.refl _
  | _ =>
    cases h
    exact List.Subset.refl _

/-- **The text of a restriction to columns that exist has no null character.** -/
theorem readable_restriction {filters : List Filter} (declared : declaration ∈ Catalog.tables)
    (present : ∀ filter ∈ filters, ∀ column ∈ filter.columns,
      (declaration.columnIndex? column).isSome) :
    '\x00' ∉ Sql.clause (Sql.whereChars (conditions schema name filters)) := by
  refine Sql.readable_clause fun condition mem column named => ?_
  obtain ⟨filter, listed, written⟩ := List.mem_filterMap.mp mem
  exact Catalog.readable_column declared
    (present filter listed column (columns_of_condition? written named))

end Filter

/-! ### What can be wrong -/

/-- What can be wrong with a restriction of a table whose text is right: one of its values cannot be
a parameter, it has too many values, it is too high, or it has a pattern that is too long and some
row is compared with it. -/
inductive Table.Obstructs (table : Table) (conditions : List Sql.Condition) : Prop where
  | value {value : Json} (mem : value ∈ Sql.whereParams conditions)
    (unfit : ∀ cell, Cell.ofJson value ≠ .ok cell)
  | count (many : Sql.maxParams < (Sql.whereParams conditions).length)
  | height (high : Sql.tooHigh conditions = true)
  | pattern {row : Row} (inside : row ∈ table.rows)
    (meets : table.meetsTooComplex row conditions = true)

namespace Table

/-- A pattern that is too long has to be there for a row to be compared with it. -/
theorem any_tooComplex_of_meets {table : Table} {row : Row}
    {conditions : List Sql.Condition} (meets : table.meetsTooComplex row conditions = true) :
    conditions.any tooComplex = true := by
  induction conditions with
  | nil => cases meets
  | cons condition rest ih =>
    rw [meetsTooComplex, Bool.or_eq_true_iff] at meets
    rw [List.any_cons, Bool.or_eq_true_iff]
    exact meets.imp_right fun later => ih (Bool.and_eq_true_iff.mp later).2

end Table

namespace Connection

variable {connection : Connection} {table : Table} {name : String}
  {conditions : List Sql.Condition}

/-- **A delete can be performed unless its restriction is obstructed.** -/
theorem fit_delete_iff (found : connection.database.table? name = some table)
    (named : '\x00' ∉ Sql.nameChars name)
    (readable : '\x00' ∉ Sql.clause (Sql.whereChars conditions)) :
    connection.Fit (.delete name conditions) table ↔ ¬table.Obstructs conditions := by
  have chars : '\x00' ∉ (Sql.Statement.delete name conditions).chars := by
    have word : '\x00' ∉ "DELETE FROM ".toList := by decide
    have parts : (Sql.Statement.delete name conditions).chars = "DELETE FROM ".toList ++
        Sql.nameChars name ++ Sql.clause (Sql.whereChars conditions) := rfl
    rw [parts]
    generalize "DELETE FROM ".toList = front at word
    rw [List.mem_append, List.mem_append, not_or, not_or]
    exact ⟨⟨word, named⟩, readable⟩
  have text : textRefusal? (.delete name conditions) =
      (Sql.Statement.delete name conditions).overrun? := by
    unfold textRefusal?
    exact if_neg (mt List.contains_iff_mem.mp chars)
  constructor
  · rintro fit (⟨mem, unfit⟩ | many | high | ⟨inside, meets⟩)
    · obtain ⟨cell, bound⟩ := Cell.bindFault?_eq_none_iff.mp fit.params _ mem
      exact unfit cell bound
    · exact absurd (bounded_of_textRefusal? fit.text).2.few (Nat.not_le.mpr many)
    · exact absurd ((bounded_of_textRefusal? fit.text).2.low.symm.trans high) (by decide)
    · have fine := patternRefusal?_eq_none_iff.mp fit.patterns
      rw [conditionsOf, Table.any_tooComplex_of_meets meets, Bool.true_and,
        List.any_eq_false] at fine
      exact fine _ inside meets
  · intro free
    refine ⟨?_, findTable_eq found, rfl, rfl, ?_, ?_⟩
    · rw [text, Sql.Statement.overrun?_eq_none_iff]
      exact ⟨Bool.eq_false_iff.mpr fun high => free (.height high),
        Nat.not_lt.mp fun many => free (.count many), Nat.zero_le _⟩
    · rw [Cell.bindFault?_eq_none_iff]
      intro value mem
      by_contra unfit
      exact free (.value mem (not_exists.mp unfit))
    · rw [patternRefusal?_eq_none_iff, Bool.and_eq_false_iff]
      refine .inr (List.any_eq_false.mpr fun row inside meets => free (.pattern inside meets))

end Connection

end RowQuery
