import RowQuery.Proofs.Execution.Reading
import RowQuery.Proofs.Execution.Written
import RowQuery.Proofs.Json.RoundTrip
import RowQuery.Proofs.Store.Insertion

/-!
# What is read of a record that is inserted

The values of a record are brought into their stored form, some of them are replaced, the store
keeps them in the columns of a new row, and what it keeps is read in its logical form.

* `Column.Suits` are the values that a record may have for a column.
* `Execution.written?` is the value that an insert writes under a name, by the one that is supplied;
  `Execution.get?_storedRecord` says so.
* `Declaration.inserted` are the fields that are read in the end, told from the record alone;
  `Table.logical_of_new` says so.
-/

namespace RowQuery

open Execution (storedRecord fill hasValue stamp)

/-! ### What an insert writes -/

namespace Execution

/-- What an insert puts under a name by itself. -/
def filler? (traits : Traits) (identifier : String) (now : Instant) (name : String) :
    Option String :=
  if name = "id" then some identifier
  else if name = "created_at" ∨ (traits.stamped ∧ name = stampColumn) then some now.text
  else none

/-- A value that has been supplied, or another one in its place if it is missing or counts as
false. -/
def orElse (supplied : Option Json) (value : Json) : Option Json :=
  if supplied.any Json.truthy then supplied else some value

/-- The value that an insert writes under a name, by the value that is supplied. -/
def written? (traits : Traits) (identifier : String) (now : Instant) (name : String)
    (supplied : Option Json) : Option Json :=
  match filler? traits identifier now name with
  | some text => orElse supplied (.string text)
  | none => supplied

variable {traits : Traits} {identifier : String} {now : Instant}

theorem hasValue_eq (fields : Fields) (name : String) :
    hasValue fields name = (Fields.get? fields name).any Json.truthy := by
  rw [hasValue]
  cases Fields.get? fields name <;> rfl

theorem get?_fill (fields : Fields) (name other : String) (value : Json) :
    Fields.get? (fill fields name value) other =
      if name = other then orElse (Fields.get? fields other) value
      else Fields.get? fields other := by
  rw [fill, hasValue_eq]
  by_cases same : name = other
  · subst same
    rw [if_pos rfl, orElse]
    split
    · rfl
    · rw [Fields.get?_put, if_pos rfl]
  · rw [if_neg same]
    split
    · rfl
    · rw [Fields.get?_put, if_neg same]

/-- What is stored under a name depends on what is supplied under that name only. -/
theorem get?_storedRecord (traits : Traits) (record : Fields) (identifier : String) (now : Instant)
    (name : String) : Fields.get? (storedRecord traits record identifier now) name =
      written? traits identifier now name (Fields.get? (traits.toStorage record) name) := by
  have created : "created_at" ≠ "id" := by decide
  have stamped : stampColumn ≠ "id" ∧ stampColumn ≠ "created_at" := by decide
  rw [storedRecord, stamp, written?, filler?]
  generalize traits.toStorage record = stored
  -- No two of the names that are filled are the same, so one of them matters at most.
  by_cases identifies : name = "id"
  · subst identifies
    split <;> simp [get?_fill, stamped, created]
  · by_cases creates : name = "created_at"
    · subst creates
      split <;> simp [get?_fill, stamped, created.symm]
    · split
      · next tracked =>
        by_cases stamps : name = stampColumn
        · subst stamps
          simp [get?_fill, stamped, tracked, stamped.1.symm, stamped.2.symm]
        · simp [get?_fill, creates, stamps, Ne.symm identifies, Ne.symm creates, Ne.symm stamps]
      · next untracked =>
        simp [get?_fill, creates, untracked, Ne.symm identifies, Ne.symm creates]

end Execution

/-! ### Columns -/

namespace Column

/-- A value that a record may have for a column. Anything may stand for a truth value, and a
document is one that can be restored from its text. -/
def Suits (column : Column) (value : Json) : Prop :=
  match column.type with
  | .text => value = .null ∨ ∃ s, value = .string s
  | .integer => value = .null ∨ ∃ n, value = .integer n ∧ Scalar.fitsWord n = true
  | .boolean => True
  | .document =>
    ((∃ items, value = .array items) ∨ ∃ fields, value = .object fields) ∧ value.Restorable

/-- What is read of a column into which a value has been written. -/
def read (column : Column) (value : Json) : Json :=
  if column.type = .boolean then .bool value.truthy else value

/-- What is read of a column that has been left out. -/
def preset (column : Column) : Json :=
  match column.default with
  | none => .null
  | some (.text s) => .string s
  | some (.integer n) => if column.type = .boolean then .bool (n = 1) else .integer n

variable {column : Column} {declaration : Declaration} {value : Json}

theorem storedValue_of_text (declared : declaration ∈ Catalog.tables)
    (mem : column ∈ declaration.columns) (text : column.type = .text) :
    declaration.traits.storedValue column.name value = value := by
  have unlisted := Declaration.columnsOfType_contains declared mem
  simp only [Traits.storedValue, Declaration.traits, unlisted, text]
  rfl

/-- **A value that suits a column comes back**: it is read as it was written, but for truth values,
of which no more is kept. -/
theorem Suits.logicalValue (declared : declaration ∈ Catalog.tables)
    (mem : column ∈ declaration.columns) (suits : column.Suits value) :
    declaration.traits.logicalValue column.name ((Cell.bound
      (declaration.traits.storedValue column.name value)).keep column.type.storage).json =
        column.read value := by
  have listed := Declaration.columnsOfType_contains declared mem
  rw [Suits] at suits
  simp only [Traits.storedValue, Traits.logicalValue, Declaration.traits, listed, read]
  cases type : column.type with
  | text =>
    rw [type] at suits
    rcases suits with rfl | ⟨s, rfl⟩ <;> rfl
  | integer =>
    rw [type] at suits
    rcases suits with rfl | ⟨n, rfl, fits⟩
    · rfl
    · have bound : Cell.bound (.integer n) = .integer n := by
        rw [Cell.bound, Cell.ofJson, if_pos fits]
      show ((Cell.bound (.integer n)).keep .integer).json = _
      rw [bound]
      rfl
  | boolean =>
    cases truth : value.truthy <;> rfl
  | document =>
    rw [type] at suits
    have restored : storedDocument? value.compact = some value := by
      rw [storedDocument?, Json.read_compact suits.2.proper]
      rfl
    rcases suits with ⟨⟨items, rfl⟩ | ⟨fields, rfl⟩, -⟩
    · show (storedDocument? (Json.compact (.array items))).getD _ = _
      rw [restored]
      rfl
    · show (storedDocument? (Json.compact (.object fields))).getD _ = _
      rw [restored]
      rfl

end Column

/-- The value that a column takes when it is left out, as it is read. -/
theorem Catalog.logicalValue_default : ∀ declaration ∈ tables, ∀ column ∈ declaration.columns,
    declaration.traits.logicalValue column.name
      ((Table.defaultCell column.default).keep column.type.storage).json = column.preset := by
  decide +kernel

/-- An insert puts in texts by itself, and in columns of text only. -/
theorem Catalog.text_of_filled : ∀ declaration ∈ tables, ∀ column ∈ declaration.columns,
    column.name ∈ ["id", "created_at", stampColumn] → column.type = .text := by
  decide +kernel

/-- Tables have a column for all that an insert puts in by itself. -/
theorem Catalog.exists_filled : ∀ declaration ∈ tables, ∀ name ∈ ["id", "created_at"],
    ∃ column ∈ declaration.columns, column.name = name := by
  decide +kernel

/-! ### Records -/

/-- A record for a table: its names are those of columns, and its values suit them. -/
def Fields.Suits (record : Fields) (declaration : Declaration) : Prop :=
  ∀ field ∈ record, ∃ column ∈ declaration.columns, column.name = field.1 ∧ column.Suits field.2

/-- The fields that are read of a record after it has been inserted: all columns, each with what has
been written or else with what it is preset with. -/
def Declaration.inserted (declaration : Declaration) (record : Fields) (identifier : String)
    (now : Instant) : Fields :=
  declaration.columns.map fun column =>
    (column.name, (Execution.written? declaration.traits identifier now column.name
      (Fields.get? record column.name)).elim column.preset column.read)

namespace Execution

variable {declaration : Declaration} {column : Column} {record : Fields} {identifier : String}
  {now : Instant} {name : String} {value : Json} {supplied : Option Json}

theorem mem_of_filler? {text : String}
    (h : filler? declaration.traits identifier now name = some text) :
    name ∈ ["id", "created_at", stampColumn] := by
  rw [filler?] at h
  split at h
  · next id => simp [id]
  · split at h
    · next stamped =>
      rcases stamped with created | ⟨-, updated⟩
      · simp [created]
      · simp [updated]
    · cases h

theorem orElse_map {change : Json → Json} (kept : ∀ value, change value = value) (value : Json) :
    orElse (supplied.map change) value = (orElse supplied value).map change := by
  have same : change = fun value => value := funext kept
  simp [same]

/-- What is stored for a column is the stored form of what is written. -/
theorem get?_storedRecord_column (declared : declaration ∈ Catalog.tables)
    (mem : column ∈ declaration.columns) (record : Fields) (identifier : String) (now : Instant) :
    Fields.get? (storedRecord declaration.traits record identifier now) column.name =
      (written? declaration.traits identifier now column.name
        (Fields.get? record column.name)).map (declaration.traits.storedValue column.name) := by
  rw [get?_storedRecord, Traits.toStorage, Fields.get?_map, written?, written?]
  cases filled : filler? declaration.traits identifier now column.name with
  | none => rfl
  | some text =>
    have typed := Catalog.text_of_filled _ declared _ mem (mem_of_filler? filled)
    exact orElse_map (fun value => Column.storedValue_of_text declared mem typed) _

theorem suits_of_get? (declared : declaration ∈ Catalog.tables) (mem : column ∈ declaration.columns)
    (suits : record.Suits declaration) (found : Fields.get? record column.name = some value) :
    column.Suits value := by
  obtain ⟨field, here, rfl⟩ := Option.map_eq_some_iff.mp found
  obtain ⟨other, member, named, suited⟩ := suits field (List.mem_of_find?_eq_some here)
  have same : field.1 = column.name := by simpa using List.find?_some here
  have like : sameName other.name column.name = true := by
    rw [named, same]
    exact sameName_self _
  rw [← Catalog.eq_of_like declared mem member like]
  exact suited

/-- What is written for a column suits it. -/
theorem suits_of_written? (declared : declaration ∈ Catalog.tables)
    (mem : column ∈ declaration.columns) (suits : record.Suits declaration)
    (h : written? declaration.traits identifier now column.name (Fields.get? record column.name) =
      some value) : column.Suits value := by
  rw [written?] at h
  cases filled : filler? declaration.traits identifier now column.name with
  | none =>
    rw [filled] at h
    exact suits_of_get? declared mem suits h
  | some text =>
    rw [filled] at h
    simp only [orElse] at h
    split at h
    · exact suits_of_get? declared mem suits h
    · have typed := Catalog.text_of_filled _ declared _ mem (mem_of_filler? filled)
      cases h
      rw [Column.Suits, typed]
      exact .inr ⟨text, rfl⟩

/-- What is stored is stored under names of columns. -/
theorem spelt_of_storedRecord (declared : declaration ∈ Catalog.tables)
    (mem : column ∈ declaration.columns) (suits : record.Suits declaration)
    (identifier : String) (now : Instant) :
    ∀ field ∈ storedRecord declaration.traits record identifier now,
      sameName field.1 column.name = true → field.1 = column.name := by
  intro field stored like
  have listed : field.1 ∈ Fields.names (storedRecord declaration.traits record identifier now) :=
    List.mem_map_of_mem stored
  -- The name comes from the record or has been filled in, and is a column's in both cases.
  obtain ⟨other, member, named⟩ : ∃ other ∈ declaration.columns, other.name = field.1 := by
    have given {name : String} (mem : name ∈ Fields.names record) :
        ∃ other ∈ declaration.columns, other.name = name := by
      obtain ⟨field, inside, rfl⟩ := List.mem_map.mp mem
      obtain ⟨other, member, named, -⟩ := suits field inside
      exact ⟨other, member, named⟩
    have filled {name : String} (mem : name ∈ Fields.addName (Fields.addName
        (Fields.names record) "id") "created_at") : ∃ other ∈ declaration.columns,
          other.name = name := by
      rw [Fields.mem_addName_iff, Fields.mem_addName_iff] at mem
      rcases mem with (inside | rfl) | rfl
      · exact given inside
      · exact Catalog.exists_filled _ declared _ (by simp)
      · exact Catalog.exists_filled _ declared _ (by simp)
    rw [names_storedRecord, storedNames] at listed
    split at listed
    · next tracked =>
      rcases Fields.mem_addName_iff.mp listed with inside | same
      · exact filled inside
      · rw [same]
        obtain ⟨other, member, named⟩ := List.any_eq_true.mp tracked
        exact ⟨other, member, of_decide_eq_true named⟩
    · exact filled listed
  rw [← named] at like ⊢
  rw [Catalog.eq_of_like declared mem member like]

/-- The cell that a column has after a record has been inserted. -/
theorem newCell_storedRecord (declared : declaration ∈ Catalog.tables)
    (mem : column ∈ declaration.columns) (suits : record.Suits declaration) (identifier : String)
    (now : Instant) :
    Table.newCell (.ofFields (storedRecord declaration.traits record identifier now)) column =
      ((written? declaration.traits identifier now column.name
        (Fields.get? record column.name)).elim (Table.defaultCell column.default) fun value =>
          .bound (declaration.traits.storedValue column.name value)).keep column.type.storage := by
  have spelt := spelt_of_storedRecord declared mem suits identifier now
  have head (fields : Fields) : ((Assignments.ofFields fields).valuesFor column.name).head? =
      ((fields.like column.name).head?.map (·.2)).map Cell.bound := by
    rw [Assignments.valuesFor_ofFields, List.head?_map, Option.map_map]
    rfl
  rw [Table.newCell, List.headD_eq_head?_getD, head, Fields.head?_like spelt,
    get?_storedRecord_column declared mem]
  cases written? declaration.traits identifier now column.name
    (Fields.get? record column.name) <;> rfl

/-- What is written under the identifier is a text. -/
theorem exists_written?_id (declared : declaration ∈ Catalog.tables)
    (suits : record.Suits declaration) (identifier : String) (now : Instant) :
    ∃ s, written? declaration.traits identifier now "id" (Fields.get? record "id") =
      some (.string s) := by
  have filled : filler? declaration.traits identifier now "id" = some identifier := rfl
  rw [written?, filled]
  dsimp only
  rw [orElse]
  split
  · next present =>
    obtain ⟨value, found, truthy⟩ := (Option.any_eq_true _ _).mp present
    have suited : Catalog.id.Suits value :=
      suits_of_get? declared (Catalog.id_mem declared) suits found
    rcases suited with rfl | ⟨s, rfl⟩
    · cases truthy
    · exact ⟨s, found⟩
  · exact ⟨identifier, rfl⟩

/-- The identifier under which a record is inserted: it is stored, it is kept, and it is read. -/
theorem exists_identifier (declared : declaration ∈ Catalog.tables)
    (suits : record.Suits declaration) (identifier : String) (now : Instant) :
    ∃ s, Fields.get? (storedRecord declaration.traits record identifier now) "id" =
        some (.string s) ∧
      Table.newCell (.ofFields (storedRecord declaration.traits record identifier now))
        Catalog.id = .text s ∧
      (Json.object (declaration.inserted record identifier now)).field? "id" =
        some (.string s) := by
  obtain ⟨s, written⟩ := exists_written?_id declared suits identifier now
  have mem := Catalog.id_mem declared
  have stored := get?_storedRecord_column declared mem record identifier now
  have kept := newCell_storedRecord declared mem suits identifier now
  have same : declaration.traits.storedValue Catalog.id.name (.string s) = .string s :=
    Column.storedValue_of_text declared mem rfl
  change Fields.get? _ "id" = Option.map _ (written? _ _ _ "id" (Fields.get? record "id")) at stored
  change _ = Cell.keep _ (Option.elim (written? _ _ _ "id" (Fields.get? record "id")) _ _) at kept
  rw [written, Option.map_some, same] at stored
  rw [written, Option.elim_some, same] at kept
  obtain ⟨rest, columns⟩ := Catalog.exists_columns declared
  have first : Fields.get? (declaration.inserted record identifier now) "id" =
      some ((written? declaration.traits identifier now "id" (Fields.get? record "id")).elim
        Catalog.id.preset Catalog.id.read) := by
    rw [Declaration.inserted, columns, List.map_cons, Fields.get?_cons]
    exact if_pos rfl
  rw [written] at first
  exact ⟨s, stored, kept, first⟩

end Execution

/-! ### Rows -/

namespace Table

variable {table : Table} {row : Row} {record : Fields} {identifier : String} {now : Instant}

/-- **A new row is read as the record says.** -/
theorem logical_of_new (declared : table.declaration ∈ Catalog.tables)
    (suits : record.Suits table.declaration)
    (made : row.cells = newCells table.declaration
      (.ofFields (storedRecord table.declaration.traits record identifier now))) :
    table.logical Catalog.schema row =
      .object (table.declaration.inserted record identifier now) := by
  have traits : Catalog.schema.traits table.name = table.declaration.traits :=
    Catalog.traits_eq _ declared
  rw [logical, traits, fields_of_new made, Traits.toLogical, List.map_map, Declaration.inserted]
  refine congrArg Json.object (List.map_congr_left fun column mem => congrArg (column.name, ·) ?_)
  rw [Execution.newCell_storedRecord declared mem suits]
  -- What has been written comes back, and what has been left out is preset.
  cases written : Execution.written? table.declaration.traits identifier now column.name
      (Fields.get? record column.name) with
  | none => exact Catalog.logicalValue_default _ declared _ mem
  | some value =>
    exact (Execution.suits_of_written? declared mem suits written).logicalValue declared mem

end Table

end RowQuery
