import RowQuery.Proofs.Execution.Stored
import RowQuery.Proofs.Json.Fields
import RowQuery.Proofs.Store.Breach
import Mathlib.Data.List.Find

/-!
# What is written for a column

The schema knows a column by its name as it is declared, the store by any name that is like it,
letter case aside.

* `Catalog.traits_eq` and `Catalog.traits_of_misspelt` — what the schema knows of a table.
* `Declaration.storedValue_of_boolean` and its like — the stored form of a value.
* `Fields.like` are the fields that a store takes for a column; `Execution.like_storedRecord` and
  `Execution.like_changedRecord` — they are those of the record, identifier and stamps apart.
-/

namespace RowQuery

/-! ### The schema -/

namespace Catalog

variable {declaration : Declaration} {column : Column} {name : String}

theorem traits_eq :
    ∀ declaration ∈ tables, schema.traits declaration.name = declaration.traits := by
  decide +kernel

/-- A name that differs from that of a table in the case of letters has no special columns. -/
theorem traits_of_misspelt (declared : declaration ∈ tables)
    (like : sameName declaration.name name = true) (misspelt : name ≠ declaration.name) :
    schema.traits name = .plain := by
  have unlisted : schema.tables.find? (·.1 = name) = none := by
    refine List.find?_eq_none.mpr fun entry mem found => misspelt ?_
    obtain ⟨other, member, rfl⟩ := List.mem_map.mp (List.mem_of_mem_filter mem)
    obtain rfl : other.name = name := by simpa using found
    -- No other table has a name that is like that of this one.
    have symmetric : Std.Symm fun a b : Declaration => sameName a.name b.name = false :=
      ⟨fun a b apart => (sameName_comm b.name a.name).trans apart⟩
    by_contra differ
    have apart := names_distinct.forall declared member fun same => differ (same ▸ rfl)
    rw [like] at apart
    cases apart
  rw [Schema.traits, unlisted]
  rfl

/-- A name finds one column only. -/
theorem eq_of_like {other : Column} (declared : declaration ∈ tables)
    (mem : column ∈ declaration.columns) (mem' : other ∈ declaration.columns)
    (like : sameName other.name column.name = true) : other = column := by
  have symmetric : Std.Symm fun a b : Column => sameName a.name b.name = false :=
    ⟨fun a b apart => (sameName_comm b.name a.name).trans apart⟩
  by_contra differ
  rw [(columns_distinct _ declared).forall mem' mem differ] at like
  cases like

end Catalog

namespace Declaration

variable {declaration : Declaration} {name : String}

theorem mem_columnsOfType {type : ColumnType} : name ∈ declaration.columnsOfType type ↔
    ∃ column ∈ declaration.columns, column.type = type ∧ column.name = name := by
  simp [columnsOfType, and_assoc]

/-- A value under a name that is no column is stored as it is. -/
theorem storedValue_of_unknown (unknown : ∀ column ∈ declaration.columns, column.name ≠ name)
    (value : Json) : declaration.traits.storedValue name value = value := by
  have unlisted (type : ColumnType) : (declaration.columnsOfType type).contains name = false := by
    refine Bool.eq_false_iff.mpr fun listed => ?_
    obtain ⟨column, mem, -, named⟩ := mem_columnsOfType.mp (List.contains_iff_mem.mp listed)
    exact unknown column mem named
  simp only [Traits.storedValue, traits, unlisted]
  rfl

theorem booleans_contains {column : Column} (mem : column ∈ declaration.columns)
    (boolean : column.type = .boolean) :
    declaration.traits.booleans.contains column.name = true :=
  List.contains_iff_mem.mpr (mem_columnsOfType.mpr ⟨column, mem, boolean, rfl⟩)

/-- A column is listed by its own type only. -/
theorem columnsOfType_contains {column : Column} (declared : declaration ∈ Catalog.tables)
    (mem : column ∈ declaration.columns) (type : ColumnType) :
    (declaration.columnsOfType type).contains column.name = decide (column.type = type) := by
  rw [Bool.eq_iff_iff, List.contains_iff_mem, mem_columnsOfType, decide_eq_true_iff]
  constructor
  · rintro ⟨other, member, typed, named⟩
    have like : sameName other.name column.name = true := named ▸ sameName_self _
    rw [← Catalog.eq_of_like declared mem member like]
    exact typed
  · exact fun typed => ⟨column, mem, typed, rfl⟩

/-- A truth value is stored as 0 or 1. -/
theorem storedValue_of_boolean {column : Column} (mem : column ∈ declaration.columns)
    (boolean : column.type = .boolean) (value : Json) :
    declaration.traits.storedValue column.name value =
      .integer (if value.truthy then 1 else 0) := by
  unfold Traits.storedValue
  exact if_pos (booleans_contains mem boolean)

/-- What is stored in a column of truth values is read as one. -/
theorem logicalValue_of_boolean {column : Column} (mem : column ∈ declaration.columns)
    (boolean : column.type = .boolean) (value : Json) :
    declaration.traits.logicalValue column.name value = .bool (Traits.isOne value) := by
  unfold Traits.logicalValue
  exact if_pos (booleans_contains mem boolean)

end Declaration


/-! ### Fields for a column -/

namespace Fields

variable {fields : Fields} {name column : String} {value : Json}

/-- The fields that a store takes for a column: letter case in their names does not matter. -/
def like (fields : Fields) (column : String) : Fields :=
  fields.filter fun field => sameName field.1 column

theorem mem_like {field : String × Json} :
    field ∈ fields.like column ↔ field ∈ fields ∧ sameName field.1 column = true := List.mem_filter

theorem like_cons_of_pos (alike : sameName name column = true) :
    like ((name, value) :: fields) column = (name, value) :: fields.like column :=
  List.filter_cons_of_pos alike

theorem like_cons_of_neg (unlike : ¬sameName name column = true) :
    like ((name, value) :: fields) column = fields.like column := List.filter_cons_of_neg unlike

/-- Where fields for a column are spelt as the column is, the first one is found under its name. -/
theorem head?_like (spelt : ∀ field ∈ fields, sameName field.1 column = true → field.1 = column) :
    (fields.like column).head?.map (·.2) = get? fields column := by
  rw [like, List.head?_filter, get?]
  refine congrArg (Option.map _) (List.find?_congr fun field mem => ?_)
  rw [Bool.eq_iff_iff, decide_eq_true_iff]
  exact ⟨spelt field mem, fun same => same ▸ sameName_self _⟩

theorem like_put (away : sameName name column = false) :
    (put fields name value).like column = fields.like column := by
  have dropped (value : Json) (rest : Fields) :
      like ((name, value) :: rest) column = rest.like column :=
    like_cons_of_neg (Bool.eq_false_iff.mp away)
  induction fields with
  | nil => exact dropped value []
  | cons field rest ih =>
    obtain ⟨other, old⟩ := field
    rw [put]
    split
    · next same =>
      subst same
      rw [dropped, dropped]
    · rw [like, like, List.filter_cons, List.filter_cons]
      rw [like, like] at ih
      rw [ih]

end Fields

/-- The values that a statement has for a column. -/
theorem Assignments.valuesFor_ofFields (fields : Fields) (column : String) :
    (ofFields fields).valuesFor column = (fields.like column).map fun field => .bound field.2 := by
  rw [valuesFor, ofFields, List.filter_map, List.map_map]
  rfl

namespace Execution

variable {traits : Traits} {record : Fields} {column : String}

theorem like_toStorage (traits : Traits) (record : Fields) (column : String) :
    Fields.like (traits.toStorage record) column = traits.toStorage (record.like column) :=
  List.filter_map

theorem like_fill {fields : Fields} {name : String} {value : Json}
    (away : sameName name column = false) :
    Fields.like (fill fields name value) column = fields.like column := by
  rw [fill]
  split
  · rfl
  · exact Fields.like_put away

/-- What an insert fills in by itself is for no other columns. -/
theorem like_storedRecord
    (away : ∀ name ∈ ["id", "created_at", stampColumn], sameName name column = false)
    (identifier : String) (now : Instant) :
    Fields.like (storedRecord traits record identifier now) column =
      traits.toStorage (record.like column) := by
  have id := away "id" (by simp)
  have created := away "created_at" (by simp)
  have stamped := away stampColumn (by simp)
  rw [← like_toStorage, storedRecord, stamp]
  split
  · rw [like_fill stamped, like_fill created, like_fill id]
  · rw [like_fill created, like_fill id]

theorem like_changedRecord (away : sameName stampColumn column = false) (now : Instant) :
    Fields.like (changedRecord traits record now) column =
      traits.toStorage (record.like column) := by
  rw [← like_toStorage, changedRecord]
  split
  · exact Fields.like_put away
  · rfl

end Execution

end RowQuery
