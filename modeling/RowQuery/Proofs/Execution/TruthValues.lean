import RowQuery.Proofs.Execution.Statements
import RowQuery.Proofs.Execution.Written

/-!
# Truth values as 0 and 1

A column of truth values should hold 0 or 1. What a request writes is given that form under the
names that the schema lists, letter by letter; but the store finds a column whatever the case of
letters. So whether the form is kept depends on how requests spell their names.

* `Column.Flagged` is the rule that a column of truth values holds 0 or 1.
* `Request.Truthful` — the truth values that a request writes are spelt as they are declared, or are
  0 or 1 by themselves.
* `flagged_exactly_if_truthful` — truthful requests never break the rule, and a request that writes
  at most one record breaks it exactly if it changes something and is not truthful.
* `not_flagged_of_misspelt` — one record is enough to break it.
-/

namespace RowQuery

/-! ### The rule -/

/-- A column of truth values holds 0 or 1. -/
def Column.Flagged : Rule := fun column cell =>
  column.type = .boolean → cell = .integer 0 ∨ cell = .integer 1

instance (column : Column) (cell : Cell) : Decidable (column.Flagged cell) :=
  inferInstanceAs (Decidable (_ → _))

instance (db : Database) : Decidable (db.Obeys Column.Flagged) :=
  inferInstanceAs (Decidable (∀ table ∈ db.tables, ∀ row ∈ table.rows,
    List.Forall₂ Column.Flagged table.declaration.columns row.cells))

/-- Columns of truth values are preset with one, and are no references. -/
theorem Rule.natural_flagged : Rule.Natural Column.Flagged :=
  ⟨by decide +kernel, by decide +kernel⟩

/-- The names of the identifier and of the stamps are not like those of columns of truth values. -/
theorem Catalog.filled_unlike : ∀ declaration ∈ tables, ∀ column ∈ declaration.columns,
    column.type = .boolean →
      ∀ name ∈ ["id", "created_at", stampColumn], sameName name column.name = false := by
  decide +kernel

theorem Cell.keep_flag (b : Bool) :
    (bound (.integer (if b then 1 else 0))).keep .integer = .integer (if b then 1 else 0) := by
  cases b <;> rfl

/-- A value that is meant for a column of truth values is kept as 0 or 1 if the table and the column
are spelt as they are declared, and else if it is so by itself. -/
theorem flagged_stored_iff {declaration : Declaration} {column : Column} {table name : String}
    (declared : declaration ∈ Catalog.tables) (mem : column ∈ declaration.columns)
    (boolean : column.type = .boolean) (about : sameName declaration.name table = true)
    (like : sameName name column.name = true) (value : Json) :
    column.Flagged ((Cell.bound ((Catalog.schema.traits table).storedValue name value)).keep
        column.type.storage) ↔
      (table = declaration.name ∧ name = column.name) ∨
        column.Flagged ((Cell.bound value).keep column.type.storage) := by
  by_cases spelt : table = declaration.name ∧ name = column.name
  · obtain ⟨rfl, rfl⟩ := spelt
    refine iff_of_true (fun _ => ?_) (.inl ⟨rfl, rfl⟩)
    have kept := Cell.keep_flag value.truthy
    rw [Catalog.traits_eq _ declared, Declaration.storedValue_of_boolean mem boolean, boolean,
      ColumnType.storage, kept]
    cases value.truthy
    · exact .inl rfl
    · exact .inr rfl
  · have same : (Catalog.schema.traits table).storedValue name value = value := by
      by_cases here : table = declaration.name
      · rw [here, Catalog.traits_eq _ declared]
        refine Declaration.storedValue_of_unknown (fun other member named => spelt ⟨here, ?_⟩) value
        subst named
        rw [Catalog.eq_of_like declared mem member like]
      · rw [Catalog.traits_of_misspelt declared about here]
        rfl
    rw [same, or_iff_right spelt]

/-! ### Truthful requests -/

/-- The fields of a record that count for columns of truth values are spelt as they are declared, or
are 0 or 1 by themselves. -/
def Fields.Truthful (table : String) (counts : Fields → Option (String × Json)) (record : Fields) :
    Prop :=
  ∀ declaration ∈ Catalog.tables, sameName declaration.name table →
    ∀ column ∈ declaration.columns, column.type = .boolean →
      ∀ field ∈ counts (record.like column.name),
        (table = declaration.name ∧ field.1 = column.name) ∨
          column.Flagged ((Cell.bound field.2).keep column.type.storage)

/-- The truth values that a request writes are spelt as they are declared, or are 0 or 1 by
themselves. Of fields for the same column the first one counts on an insert, and the last one on an
update. -/
def Request.Truthful (request : Request) : Prop :=
  match request.method with
  | .insert => ∀ record ∈ request.records, record.Truthful request.table List.head?
  | .update => request.firstRecord.Truthful request.table List.getLast?
  | .select | .delete => True

/-- A way to pick an item of a list that does not look at the items. -/
structure Picks (counts : (α : Type) → List α → Option α) : Prop where
  mem {α : Type} {l : List α} {a : α} (picked : counts α l = some a) : a ∈ l
  map {α β : Type} (f : α → β) (l : List α) : counts β (l.map f) = (counts α l).map f

theorem picks_head? : Picks fun _ => List.head? :=
  ⟨List.mem_of_head?, fun _ _ => List.head?_map⟩

theorem picks_getLast? : Picks fun _ => List.getLast? :=
  ⟨List.mem_of_getLast?, fun _ _ => List.getLast?_map⟩

section Picks

variable {counts : (α : Type) → List α → Option α} (picks : Picks counts)
  {declaration : Declaration} {table : String} {record stored : Fields}

include picks

/-- What is stored for a record keeps the rule exactly if the fields of the record that count are
truth values, where identifier and stamps are no matter. -/
theorem heed_flagged_iff (declared : declaration ∈ Catalog.tables)
    (about : sameName declaration.name table = true)
    (same : ∀ column ∈ declaration.columns, column.type = .boolean → stored.like column.name =
      (Catalog.schema.traits table).toStorage (record.like column.name)) :
    (Assignments.ofFields stored).Heed Column.Flagged declaration (counts Cell) ↔
      ∀ column ∈ declaration.columns, column.type = .boolean →
        ∀ field ∈ counts (String × Json) (record.like column.name),
          (table = declaration.name ∧ field.1 = column.name) ∨
            column.Flagged ((Cell.bound field.2).keep column.type.storage) := by
  let cell (field : String × Json) : Cell :=
    .bound ((Catalog.schema.traits table).storedValue field.1 field.2)
  have values (column : Column) (mem : column ∈ declaration.columns)
      (boolean : column.type = .boolean) :
      counts Cell ((Assignments.ofFields stored).valuesFor column.name) =
        (counts (String × Json) (record.like column.name)).map cell := by
    rw [Assignments.valuesFor_ofFields, same column mem boolean, Traits.toStorage, List.map_map,
      picks.map]
    rfl
  have kept {column : Column} (mem : column ∈ declaration.columns)
      (boolean : column.type = .boolean) {field : String × Json}
      (counted : counts (String × Json) (record.like column.name) = some field) :=
    flagged_stored_iff declared mem boolean about (Fields.mem_like.mp (picks.mem counted)).2 field.2
  constructor
  · intro heed column mem boolean field counted
    refine (kept mem boolean counted).mp (heed column mem (cell field) ?_)
    rw [values column mem boolean, Option.mem_def.mp counted]
    rfl
  · intro truthful column mem value counted boolean
    rw [values column mem boolean] at counted
    obtain ⟨field, picked, rfl⟩ := Option.map_eq_some_iff.mp counted
    exact (kept mem boolean picked).mpr (truthful column mem boolean field picked) boolean

end Picks

/-- What an insert writes for a record. -/
theorem heeds_insert_iff (table : String) (record : Fields) (identifier : String) (now : Instant) :
    (Sql.Statement.insert table (Execution.storedRecord (Catalog.schema.traits table) record
      identifier now)).Heeds Column.Flagged ↔ record.Truthful table List.head? := by
  refine forall_congr' fun declaration => forall_congr' fun declared => ?_
  refine forall_congr' fun about => ?_
  refine heed_flagged_iff picks_head? declared about fun column mem boolean => ?_
  exact Execution.like_storedRecord (Catalog.filled_unlike _ declared column mem boolean) _ _

/-- What an update writes for a record. -/
theorem heeds_update_iff (table : String) (record : Fields) (now : Instant)
    (conditions : List Sql.Condition) :
    (Sql.Statement.update table (Execution.changedRecord (Catalog.schema.traits table) record now)
      conditions).Heeds Column.Flagged ↔ record.Truthful table List.getLast? := by
  refine forall_congr' fun declaration => forall_congr' fun declared => ?_
  refine forall_congr' fun about => ?_
  refine heed_flagged_iff picks_getLast? declared about fun column mem boolean => ?_
  have away := Catalog.filled_unlike _ declared column mem boolean stampColumn (by simp)
  exact Execution.like_changedRecord away _

theorem Request.Truthful.heeds {request : Request} (truthful : request.Truthful) :
    request.Heeds Column.Flagged Catalog.schema := by
  rw [Request.Truthful] at truthful
  rw [Request.Heeds]
  cases method : request.method with
  | select => exact trivial
  | delete => exact trivial
  | insert =>
    rw [method] at truthful
    exact fun record mem _ _ => (heeds_insert_iff _ _ _ _).mpr (truthful record mem)
  | update =>
    rw [method] at truthful
    exact fun _ _ => (heeds_update_iff _ _ _ _).mpr truthful

/-- The statement that changes tables keeps the rule exactly if the request is truthful. -/
theorem Request.heeds_of_writtenBy {request : Request} {writing : Sql.Statement}
    (written : request.WrittenBy Catalog.schema writing) :
    writing.Heeds Column.Flagged ↔ request.Truthful := by
  rw [Request.Truthful]
  cases written with
  | insert method single =>
    rw [method, heeds_insert_iff, single]
    exact (List.forall_mem_singleton).symm
  | update method =>
    rw [method]
    exact heeds_update_iff _ _ _ _
  | delete method =>
    rw [method]
    exact Iff.rfl

/-! ### Sessions -/

/-- **Truth values are 0 and 1 exactly if they are written as such.** Truthful requests never leave
anything else in a column of truth values. Where there is nothing else in such columns, a request
that writes at most one record leaves it so exactly if it changes nothing or is truthful. -/
theorem flagged_exactly_if_truthful (sources : Sources) :
    (∀ world : World Connection, Reached sources
        (fun schema request => schema = Catalog.schema ∧ request.Truthful) world →
      world.state.database.Obeys Column.Flagged) ∧
    ∀ (kind : Schema → Request → Prop) (world : World Connection), Reached sources kind world →
      world.state.database.Obeys Column.Flagged →
        ∀ (query : Query) (request : Request), query.check = .ok request →
          (request.method = .insert → request.records.length = 1) →
            let later :=
              (query.execute Connection.engine sources Catalog.schema world).2.state.database
            later.Obeys Column.Flagged ↔ later = world.state.database ∨ request.Truthful := by
  constructor
  · intro world reached
    refine (reached.holds Rule.natural_flagged ?_).obeys
    rintro _ request ⟨rfl, truthful⟩
    exact truthful.heeds
  · intro kind world reached flagged query request checked single
    have held := reached.holds_admits
    exact Execution.execute_obeys_iff Rule.natural_flagged checked single
      (fun _ written => request.heeds_of_writtenBy written) ⟨held.enforced, held.sound, flagged⟩

/-- A request to insert a person; that the person lives is said by a number, under a name in other
letters. -/
def misspelt : Request := plainRequest .insert "people"
  [[("id", .string "p-1"), ("display_name", .string "An"), ("Is_Living", .integer 2)]] []

/-- The world after this request. -/
def misspeltWorld : World Connection :=
  ((Query.request misspelt).execute Connection.engine (.steady 0 1) Catalog.schema
    Execution.newStore).2

theorem misspelt_untruthful : ¬misspelt.Truthful := by
  intro truthful
  have told := truthful _ List.mem_cons_self Catalog.people (by decide) (by decide)
    (Catalog.flag "is_living" true) (by decide) rfl ("Is_Living", .integer 2) (by decide)
  exact absurd told (by decide)

theorem misspeltWorld_ne : misspeltWorld.state.database ≠ Execution.newStore.state.database := by
  decide +kernel

theorem flagged_exactly_if_truthful_misspelt :
    (Query.request misspelt).check = .ok misspelt ∧ misspelt.records.length = 1 ∧
      ¬misspeltWorld.state.database.Obeys Column.Flagged := by
  refine ⟨rfl, rfl, fun flagged => ?_⟩
  have told := flagged_exactly_if_truthful (.steady 0 1)
  have kept := (told.2 (fun _ _ => True) Execution.newStore .new (told.1 _ .new)
    (.request misspelt) misspelt rfl fun _ => rfl).mp flagged
  exact kept.elim misspeltWorld_ne misspelt_untruthful

/-- One record is enough to leave something else than 0 and 1 in a column of truth values. -/
theorem not_flagged_of_misspelt :
    Reached (.steady 0 1) (fun schema _ => schema = Catalog.schema) misspeltWorld ∧
      ¬misspeltWorld.state.database.Obeys Column.Flagged ∧
      (misspeltWorld.state.database.table? "people").map (fun table =>
        table.rows.map fun row => table.cell row "is_living") = some [.integer 2] := by
  refine ⟨?_, by decide +kernel, by decide +kernel⟩
  exact Reached.new.query Catalog.schema _ fun _ _ => rfl

end RowQuery
