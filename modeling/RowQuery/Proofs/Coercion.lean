import RowQuery.Catalog.Tables
import RowQuery.Coercion
import RowQuery.Store.Cell
import RowQuery.Proofs.Json.Proper

/-!
# Values that are stored and read

* `Traits.toLogical_toStorage` — what a record is read as once it has been stored.
* `Schema.reads_what_is_stored` — storing is undone by reading, up to the truth values of boolean
  columns and up to text that is a document already.
* `Schema.read_again_iff` — a row that is read and stored again is read as before, unless one of its
  documents is a string that is the text of a document itself.
-/

namespace RowQuery

/-! ### Documents in columns -/

/-- What a document column holds: a text that is a document is taken for that document. -/
def Json.opened (value : Json) : Json :=
  match value with
  | .string text => (storedDocument? text).getD value
  | _ => value

/-- What is stored of the value of a document column: arrays and objects become text. -/
def Json.closed (value : Json) : Json :=
  match value with
  | .array _ | .object _ => .string value.compact
  | _ => value

/-- The arrays and the objects. -/
def Json.Nested : Json → Prop
  | .array _ | .object _ => True
  | _ => False

/-- The text of a string that is the text of a document itself. -/
def Json.WrittenTwice (text : String) : Prop :=
  ∃ inner value, read text = .ok (.string inner) ∧ read inner = .ok value

theorem storedDocument?_eq_some {text : String} {value : Json} :
    storedDocument? text = some value ↔ Json.read text = .ok value := by
  rw [storedDocument?]
  cases Json.read text <;> simp [Except.toOption]

/-- A document is restored from its text. -/
theorem storedDocument?_compact {value : Json} (proper : value.Proper) :
    storedDocument? value.compact = some value :=
  storedDocument?_eq_some.mpr (Json.read_compact proper)

namespace Json

theorem opened_of_read {text : String} {value : Json} (h : read text = .ok value) :
    (string text).opened = value := by
  show (storedDocument? text).getD (.string text) = value
  rw [storedDocument?_eq_some.mpr h]
  rfl

theorem opened_compact {value : Json} (proper : value.Proper) :
    (string value.compact).opened = value := opened_of_read (read_compact proper)

/-- The texts that stay are those of no document, since no text holds itself. -/
theorem opened_eq_self_iff {text : String} :
    (string text).opened = .string text ↔ ∀ value, read text ≠ .ok value := by
  constructor
  · intro stays value h
    rw [opened_of_read h] at stays
    exact read_ne_string text (stays ▸ h)
  · intro none
    show (storedDocument? text).getD (.string text) = .string text
    cases found : storedDocument? text with
    | none => rfl
    | some value => exact absurd (storedDocument?_eq_some.mp found) (none value)

/-- Whatever a document column is read as can be restored once it is written. -/
theorem proper_opened (cell : Cell) (nested : cell.json.opened.Nested) :
    cell.json.opened.Proper := by
  cases cell with
  | null | integer | real => exact nested.elim
  | text s =>
    show ((storedDocument? s).getD (.string s)).Proper
    cases found : storedDocument? s with
    | none => trivial
    | some value => exact proper_of_read (storedDocument?_eq_some.mp found)

/-- A document is opened further only if it is a string that is the text of another one. -/
theorem opened_opened_iff (cell : Cell) : cell.json.opened.opened = cell.json.opened ↔
    ∀ text, cell = .text text → ¬WrittenTwice text := by
  cases cell with
  | null | integer | real => simp [Cell.json, opened]
  | text s =>
    have one : (∀ text, Cell.text s = .text text → ¬WrittenTwice text) ↔ ¬WrittenTwice s := by
      simp
    rw [one]
    show (string s).opened.opened = (string s).opened ↔ _
    -- What is read of the text is only opened further if it is a text again.
    by_cases stays : (string s).opened = .string s
    · have unread := opened_eq_self_iff.mp stays
      rw [stays, stays]
      simp [WrittenTwice, unread]
    · obtain ⟨value, held⟩ : ∃ value, read s = .ok value := by
        simpa using mt opened_eq_self_iff.mpr stays
      have twice : WrittenTwice s ↔
          ∃ inner, value = .string inner ∧ ∃ last, read inner = .ok last := by
        simp [WrittenTwice, held]
      rw [opened_of_read held, twice]
      cases value with
      | string inner => simp [opened_eq_self_iff]
      | null | bool | integer | float | array | object => simp [opened]

end Json

/-! ### Records -/

namespace Traits

/-- Whether a column holds documents; a column of truth values does not. -/
def holdsDocument (traits : Traits) (column : String) : Bool :=
  !traits.booleans.contains column && traits.documents.contains column

/-- What a value is read as once it has been stored. -/
def restored (traits : Traits) (column : String) (value : Json) : Json :=
  if traits.booleans.contains column then .bool value.truthy
  else if traits.documents.contains column then value.opened
  else value

/-- The arrays and objects of a record that become documents have no name twice and no integer that
is too long to be written. -/
def Writable (traits : Traits) (record : Fields) : Prop :=
  ∀ field ∈ record, traits.holdsDocument field.1 = true → field.2.Nested → field.2.Proper

theorem storedValue_eq (traits : Traits) (column : String) (value : Json) :
    traits.storedValue column value =
      if traits.booleans.contains column then .integer (if value.truthy then 1 else 0)
      else if traits.documents.contains column then value.closed
      else value := rfl

theorem logicalValue_eq (traits : Traits) (column : String) (value : Json) :
    traits.logicalValue column value =
      if traits.booleans.contains column then .bool (isOne value)
      else if traits.documents.contains column then value.opened
      else value := rfl

theorem logicalValue_of_holdsDocument {traits : Traits} {column : String}
    (holds : traits.holdsDocument column = true) (value : Json) :
    traits.logicalValue column value = value.opened := by
  obtain ⟨plain, document⟩ : traits.booleans.contains column = false ∧
      traits.documents.contains column = true := by
    simpa [holdsDocument] using holds
  rw [logicalValue_eq, plain, document]
  rfl

theorem logicalValue_storedValue (traits : Traits) {column : String} {value : Json}
    (proper : traits.holdsDocument column = true → value.Nested → value.Proper) :
    traits.logicalValue column (traits.storedValue column value) =
      traits.restored column value := by
  rw [logicalValue_eq, storedValue_eq, restored]
  rw [holdsDocument] at proper
  cases boolean : traits.booleans.contains column
  · cases document : traits.documents.contains column
    · rfl
    · -- Only arrays and objects are written; the others are stored as what they will be read from.
      rw [boolean, document] at proper
      have restores (nested : value.Nested) : (Json.string value.compact).opened = value :=
        Json.opened_compact (proper rfl nested)
      cases value with
      | array items => exact restores trivial
      | object fields => exact restores trivial
      | null | bool | integer | float | string => rfl
  · cases truth : value.truthy <;> rfl

/-- **What a record is read as once it has been stored**, field by field. -/
theorem toLogical_toStorage (traits : Traits) {record : Fields}
    (writable : traits.Writable record) :
    traits.toLogical (traits.toStorage record) =
      record.map fun (column, value) => (column, traits.restored column value) := by
  rw [toLogical, toStorage, List.map_map]
  refine List.map_congr_left fun field mem => ?_
  exact congrArg (field.1, ·) (logicalValue_storedValue traits (writable field mem))

/-- The traits without those documents that stand in columns of truth values. -/
def apart (traits : Traits) : Traits :=
  { traits with documents := traits.documents.filter (!traits.booleans.contains ·) }

/-- Whether a column is listed among the documents only counts if it holds no truth values. -/
theorem column_apart {α : Type} (traits : Traits) (column : String) (truth document other : α) :
    (if traits.booleans.contains column then truth
      else if traits.apart.documents.contains column then document else other) =
      if traits.booleans.contains column then truth
      else if traits.documents.contains column then document else other := by
  cases boolean : traits.booleans.contains column
  · have listed : traits.apart.documents.contains column = traits.documents.contains column := by
      rw [Bool.eq_iff_iff]
      simp_all [apart]
    rw [listed]
  · rfl

/-- A column of truth values holds no documents, even if it is listed among those that do. -/
theorem coerce_apart (traits : Traits) (record : Fields) :
    traits.apart.toStorage record = traits.toStorage record ∧
      traits.apart.toLogical record = traits.toLogical record := by
  have stored (column : String) (value : Json) :
      traits.apart.storedValue column value = traits.storedValue column value :=
    column_apart traits column _ value.closed value
  have logical (column : String) (value : Json) :
      traits.apart.logicalValue column value = traits.logicalValue column value :=
    column_apart traits column _ value.opened value
  simp only [toStorage, toLogical, stored, logical, and_self]

/-- The fields of a row of cells, as they are read. -/
def readRow (traits : Traits) (row : List (String × Cell)) : Fields :=
  traits.toLogical (row.map fun (column, cell) => (column, cell.json))

theorem writable_readRow (traits : Traits) (row : List (String × Cell)) :
    traits.Writable (traits.readRow row) := by
  intro field mem holds nested
  obtain ⟨written, listed, rfl⟩ := List.mem_map.mp mem
  obtain ⟨⟨column, cell⟩, -, rfl⟩ := List.mem_map.mp listed
  have opened := logicalValue_of_holdsDocument holds cell.json
  show (traits.logicalValue column cell.json).Proper
  rw [opened]
  refine Json.proper_opened cell ?_
  rw [← opened]
  exact nested

/-- What is read again of a cell. -/
theorem restored_logicalValue (traits : Traits) (column : String) (value : Json) :
    traits.restored column (traits.logicalValue column value) =
      if traits.holdsDocument column then value.opened.opened
      else traits.logicalValue column value := by
  rw [logicalValue_eq, restored, holdsDocument]
  cases traits.booleans.contains column
  · cases traits.documents.contains column <;> rfl
  · rfl

/-- A cell is read again as it was, unless it holds a document that is written twice. -/
theorem read_again_cell_iff (traits : Traits) (column : String) (cell : Cell) :
    (if traits.holdsDocument column then cell.json.opened.opened
      else traits.logicalValue column cell.json) = traits.logicalValue column cell.json ↔
      (traits.holdsDocument column = true → ∀ text, cell = .text text →
        ¬Json.WrittenTwice text) := by
  by_cases holds : traits.holdsDocument column = true
  · rw [if_pos holds, logicalValue_of_holdsDocument holds, Json.opened_opened_iff]
    exact ⟨fun h _ => h, fun h => h holds⟩
  · rw [if_neg holds]
    exact iff_of_true rfl fun h => absurd h holds

/-- **What a row is read as once it has been read and stored.** -/
theorem toLogical_toStorage_readRow (traits : Traits) (row : List (String × Cell)) :
    traits.toLogical (traits.toStorage (traits.readRow row)) =
      row.map fun (column, cell) => (column, if traits.holdsDocument column
        then cell.json.opened.opened else traits.logicalValue column cell.json) := by
  rw [toLogical_toStorage traits (writable_readRow traits row), readRow, toLogical, List.map_map,
    List.map_map]
  refine List.map_congr_left fun (column, cell) _ => ?_
  exact congrArg (column, ·) (restored_logicalValue traits column cell.json)

end Traits

namespace Schema

/-- **Storing is undone by reading.** A record that has been stored is read with the same names in
the same order: columns of truth values have the truth of their value, arrays and objects in
document columns are restored whatever is in them, text there is taken for the document it holds, if
it holds one, and everything else is as it was. A document that is written is read as itself. Among
the document columns, those of truth values do not count, whichever way values go. -/
theorem reads_what_is_stored (schema : Schema) (table : String) :
    (∀ record, (schema.traits table).Writable record →
      (schema.traits table).toLogical ((schema.traits table).toStorage record) =
        record.map fun (column, value) => (column, (schema.traits table).restored column value)) ∧
    (∀ value : Json, value.Proper → storedDocument? value.compact = some value) ∧
    (∀ record, (schema.traits table).apart.toStorage record =
        (schema.traits table).toStorage record ∧
      (schema.traits table).apart.toLogical record = (schema.traits table).toLogical record) :=
  ⟨fun _ writable => (schema.traits table).toLogical_toStorage writable,
    fun _ => storedDocument?_compact, (schema.traits table).coerce_apart⟩

/-- A short text that holds a document. -/
theorem opened_single : (Json.string "[1]").opened = .array [.integer 1] := by
  have text : (Json.array [.integer 1]).compact = "[1]" := by decide
  have short : Json.digitCount 1 ≤ Json.maxIntegerDigits := by decide
  rw [← text]
  exact Json.opened_compact ⟨short, trivial⟩

/-- A schema with columns of both kinds, of which one is listed twice. -/
def noteSchema : Schema :=
  build [("notes", ["open", "both"])] [("notes", ["both", "edits", "log"])] []

/-- A record for it, with a document at several depths. -/
def noteRecord : Fields := [
  ("log", .string "[1]"), ("title", .string "[1]"), ("both", .array []), ("open", .string "false"),
  ("edits", .object [("z", .array [.integer (-5), .float (.ofDecimal true 15 (-1)), .null]),
    ("a \u0001", .object [("é", .string "\"\\\n")])])]

theorem reads_what_is_stored_notes :
    (noteSchema.traits "notes").Writable noteRecord ∧
      (noteSchema.traits "notes").toLogical ((noteSchema.traits "notes").toStorage noteRecord) = [
        ("log", .array [.integer 1]), ("title", .string "[1]"), ("both", .bool false),
        ("open", .bool true),
        ("edits", .object [("z", .array [.integer (-5), .float (.ofDecimal true 15 (-1)), .null]),
          ("a \u0001", .object [("é", .string "\"\\\n")])])] := by
  have proper : ∀ field ∈ noteRecord, field.2.Proper := by
    have five : Json.digitCount (-5) ≤ Json.maxIntegerDigits := by decide
    simp [noteRecord, Json.Proper, Json.ProperItems, Json.ProperFields, five]
  have writable : (noteSchema.traits "notes").Writable noteRecord :=
    fun field mem _ _ => proper field mem
  refine ⟨writable, ((reads_what_is_stored noteSchema "notes").1 noteRecord writable).trans ?_⟩
  show [("log", (Json.string "[1]").opened), _, _, _, _] = _
  rw [opened_single]
  rfl

/-- **A row that is read and stored again** is read as before exactly if no document column holds a
string that is the text of a document itself. Nothing else than the documents in such columns
changes. -/
theorem read_again_iff (schema : Schema) (table : String) (row : List (String × Cell)) :
    let traits := schema.traits table
    let again := traits.toLogical (traits.toStorage (traits.readRow row))
    (again = traits.readRow row ↔ ∀ column text, (column, .text text) ∈ row →
      traits.holdsDocument column = true → ¬Json.WrittenTwice text) ∧
    again = row.map fun (column, cell) => (column, if traits.holdsDocument column
      then cell.json.opened.opened else traits.logicalValue column cell.json) := by
  intro traits again
  have read := traits.toLogical_toStorage_readRow row
  refine ⟨?_, read⟩
  -- Both sides are maps over the row, so that they are compared column by column.
  rw [show again = _ from read, Traits.readRow, Traits.toLogical, List.map_map, List.map_inj_left]
  constructor
  · intro same column text mem holds
    have kept := (Prod.mk.inj (same _ mem)).2
    exact (traits.read_again_cell_iff column (.text text)).mp kept holds text rfl
  · rintro single ⟨column, cell⟩ mem
    refine congrArg (column, ·) ((traits.read_again_cell_iff column cell).mpr ?_)
    rintro holds text rfl
    exact single column text mem holds

/-- A contribution whose changes are the text of a string that looks like a document. -/
def quotedRow : List (String × Cell) := [("changes", .text "\"[1]\"")]

theorem not_read_again_of_quoted :
    let traits := Catalog.schema.traits "contributions"
    let again := traits.toLogical (traits.toStorage (traits.readRow quotedRow))
    traits.readRow quotedRow = [("changes", .string "[1]")] ∧
      again = [("changes", .array [.integer 1])] ∧ again ≠ traits.readRow quotedRow := by
  intro traits again
  have text : (Json.string "[1]").compact = "\"[1]\"" := by decide
  have once : (Json.string "\"[1]\"").opened = .string "[1]" := by
    rw [← text]
    exact Json.opened_compact trivial
  have read : traits.readRow quotedRow = [("changes", .string "[1]")] := by
    show [("changes", (Json.string "\"[1]\"").opened)] = _
    rw [once]
  have twice : again = [("changes", .array [.integer 1])] := by
    show traits.toLogical (traits.toStorage (traits.readRow quotedRow)) = _
    rw [read]
    show [("changes", (Json.string "[1]").opened)] = _
    rw [opened_single]
  refine ⟨read, twice, ?_⟩
  rw [read, twice]
  simp

end Schema

end RowQuery
