import RowQuery.Proofs.Execution.TruthFilters
import RowQuery.Proofs.Store.Insertion
import RowQuery.Proofs.Store.Keyed

/-!
# Rows without an identifier

An insert draws an identifier where a record has none, or one that counts as false. An update writes
whatever it is given, and a null among it takes the identifiers of the rows that it matches away.

* `Json.Void` are the values that are stored as null.
* `Request.Identifies` — a request writes no such value for an identifier.
* `identified_exactly_if_given` — requests of this kind never leave a row without an identifier, and
  a request that writes at most one record leaves one exactly if it changes something and is not of
  this kind; what an identifier is good for.
* `not_identified_of_null` — one update is enough.
-/

namespace RowQuery

/-! ### Values that are stored as null -/

/-- A value that is stored as null: null, or a number that is none. -/
def Json.Void (value : Json) : Prop := value = .null ∨ value = .float .nan

instance (value : Json) : Decidable value.Void := inferInstanceAs (Decidable (_ ∨ _))

namespace Cell

variable {value : Json}

theorem ofJson_eq_null_iff : ofJson value = .ok .null ↔ value.Void := by
  constructor
  · intro h
    cases value with
    | null => exact .inl rfl
    | bool b => cases h
    | integer n =>
      rw [ofJson] at h
      split at h <;> cases h
    | float x =>
      cases x with
      | nan => exact .inr rfl
      | infinity => cases h
      | finite => cases h
    | string s => cases h
    | array items => cases h
    | object fields => cases h
  · rintro (rfl | rfl) <;> rfl

/-- A value that is stored as null is bound to null. -/
theorem bound_of_void (void : value.Void) : bound value = .null := by
  rw [bound, ofJson_eq_null_iff.mpr void]

/-- Another value that can be bound is bound to something else. -/
theorem bound_ne_null {cell : Cell} (binds : ofJson value = .ok cell) (filled : ¬value.Void) :
    bound value ≠ .null := by
  rw [bound, binds]
  rintro rfl
  exact filled (ofJson_eq_null_iff.mp binds)

end Cell

/-! ### Fields for the identifier -/

namespace Fields

variable {fields : Fields} {name : String} {value : Json} {field : String × Json}

/-- A field that is put under the name of a column counts, unless one in other letters is before
it. -/
theorem head?_like_put : ((put fields name value).like name).head? =
    some ((fields.like name).head?.elim (name, value) fun field =>
      if field.1 = name then (name, value) else field) := by
  have own (value : Json) (rest : Fields) :
      (like ((name, value) :: rest) name).head? = some (name, value) := by
    rw [like_cons_of_pos (sameName_self name), List.head?_cons]
  induction fields with
  | nil => exact own value []
  | cons first rest ih =>
    obtain ⟨other, old⟩ := first
    rw [put]
    by_cases same : other = name
    · subst same
      rw [if_pos rfl, own, own, Option.elim_some, if_pos rfl]
    · rw [if_neg same]
      by_cases alike : sameName other name = true
      · rw [like_cons_of_pos alike, like_cons_of_pos alike, List.head?_cons, List.head?_cons,
          Option.elim_some, if_neg same]
      · rw [like_cons_of_neg alike, like_cons_of_neg alike]
        exact ih

/-- The field that counts is found under its name, if it is spelt as the column is. -/
theorem get?_of_head?_like (counts : (fields.like name).head? = some field)
    (spelt : field.1 = name) : get? fields name = some field.2 := by
  induction fields with
  | nil => cases counts
  | cons first rest ih =>
    obtain ⟨other, old⟩ := first
    rw [get?_cons]
    by_cases same : other = name
    · subst same
      rw [like_cons_of_pos (sameName_self other)] at counts
      rw [if_pos rfl, ← Option.some.inj counts]
    · rw [if_neg same]
      by_cases alike : sameName other name = true
      · rw [like_cons_of_pos alike] at counts
        rw [← Option.some.inj counts] at spelt
        exact absurd spelt same
      · rw [like_cons_of_neg alike] at counts
        exact ih counts

/-- Where something is found under a name, some field counts. -/
theorem exists_head?_like (found : get? fields name = some value) :
    ∃ field, (fields.like name).head? = some field := by
  obtain ⟨field, mem, rfl⟩ := List.mem_map.mp (mem_names_of_get? found)
  have inside : field ∈ fields.like field.1 := mem_like.mpr ⟨mem, sameName_self _⟩
  exact ⟨_, List.head?_eq_some_head (List.ne_nil_of_mem inside)⟩

/-- What an insert stores has an identifier: the field that counts is filled in, or is not stored as
null. -/
def GivesId (fields : Fields) : Prop :=
  ∀ field ∈ (fields.like "id").head?, (field.1 = "id" ∧ field.2.truthy = false) ∨ ¬field.2.Void

/-- What an update stores takes no identifier away: the field that counts is not stored as null. -/
def SparesId (fields : Fields) : Prop := ∀ field ∈ (fields.like "id").getLast?, ¬field.2.Void

/-- Filling in an identifier makes up for fields that count as false, if they are spelt as it is. -/
theorem identified_fill_iff (stored : Fields) (identifier : String) :
    (∃ field ∈ (like (Execution.fill stored "id" (.string identifier)) "id").head?,
      ¬field.2.Void) ↔ stored.GivesId := by
  have filled : ¬(Json.string identifier).Void := by
    rintro (h | h) <;> cases h
  rw [Execution.fill, Execution.hasValue, GivesId]
  by_cases present : ((get? stored "id").map Json.truthy).getD false = true
  · rw [if_pos present]
    cases found : get? stored "id" with
    | none =>
      rw [found] at present
      cases present
    | some value =>
      rw [found] at present
      obtain ⟨field, counts⟩ := exists_head?_like found
      -- A field that is found there does not count as false.
      have kept : ¬(field.1 = "id" ∧ field.2.truthy = false) := by
        rintro ⟨spelt, empty⟩
        obtain rfl := Option.some.inj (found.symm.trans (get?_of_head?_like counts spelt))
        exact Bool.false_ne_true (empty.symm.trans present)
      simp only [counts, Option.mem_some_iff, exists_eq_left', forall_eq', or_iff_right kept]
  · rw [if_neg present, head?_like_put]
    cases counts : (stored.like "id").head? with
    | none =>
      simp [filled]
    | some field =>
      by_cases spelt : field.1 = "id"
      · have empty : field.2.truthy = false := by
          rw [get?_of_head?_like counts spelt] at present
          simpa using present
        simp [spelt, empty, filled]
      · simp [spelt]

end Fields

/-! ### Statements -/

/-- The identifiers that a statement writes are not stored as null, and an insert writes one. -/
def Sql.Statement.Identifies : Sql.Statement → Prop
  | .insert _ values => ∃ field ∈ (values.like "id").head?, ¬field.2.Void
  | .update _ values _ => values.SparesId
  | .select _ _ _ _ _ | .delete _ _ => True

/-- A declared table has this name, letter case aside. -/
def Catalog.Knows (name : String) : Prop :=
  ∃ declaration ∈ tables, sameName declaration.name name = true

namespace Sql.Statement

variable {statement : Sql.Statement}

/-- Where its parameters can be bound, the cells that such a statement writes obey the rule. -/
theorem Identifies.fills (identifies : statement.Identifies)
    (binds : ∀ value ∈ statement.params, ∃ cell, Cell.ofJson value = .ok cell) :
    statement.Fills Column.Keyed := by
  cases statement with
  | select => exact trivial
  | delete => exact trivial
  | insert name values =>
    intro declaration declared named
    obtain ⟨field, counts, filled⟩ := identifies
    have mem := (Fields.mem_like.mp (List.mem_of_head? counts)).1
    obtain ⟨cell, bound⟩ := binds field.2 (List.mem_map_of_mem mem)
    rw [Table.newCells_keyed_iff declared, Assignments.valuesFor_ofFields, List.head?_map,
      Option.mem_def.mp counts]
    exact ⟨_, rfl, Cell.bound_ne_null bound filled⟩
  | update name values conditions =>
    intro declaration declared named
    rw [Assignments.heed_keyed_iff declared, Assignments.valuesFor_ofFields, List.getLast?_map]
    intro value counts
    obtain ⟨field, last, rfl⟩ := Option.map_eq_some_iff.mp counts
    have mem := (Fields.mem_like.mp (List.mem_of_getLast? last)).1
    obtain ⟨cell, bound⟩ := binds field.2 (List.mem_append_left _ (List.mem_map_of_mem mem))
    exact Cell.bound_ne_null bound (identifies field last)

/-- If the cells that a statement about a declared table writes obey the rule, it is such a
statement. -/
theorem Fills.identifies (fills : statement.Fills Column.Keyed)
    (known : Catalog.Knows (Connection.tableName statement)) : statement.Identifies := by
  obtain ⟨declaration, declared, about⟩ := known
  cases statement with
  | select => exact trivial
  | delete => exact trivial
  | insert name values =>
    have new := (Table.newCells_keyed_iff declared).mp (fills declaration declared about)
    rw [Assignments.valuesFor_ofFields, List.head?_map] at new
    obtain ⟨value, counts, filled⟩ := new
    obtain ⟨field, first, rfl⟩ := Option.map_eq_some_iff.mp counts
    exact ⟨field, first, fun void => filled (Cell.bound_of_void void)⟩
  | update name values conditions =>
    have old := (Assignments.heed_keyed_iff declared).mp (fills declaration declared about)
    rw [Assignments.valuesFor_ofFields, List.getLast?_map] at old
    intro field counts void
    refine old (.bound field.2) ?_ (Cell.bound_of_void void)
    rw [Option.mem_def.mp counts]
    rfl

/-- A statement about a declared table hands on the rule if its identifiers are no nulls. One about
another table does so in any case. -/
theorem preserves_keyed
    (identifies : Catalog.Knows (Connection.tableName statement) → statement.Identifies) :
    statement.Preserves Column.Keyed := by
  intro connection held
  cases ran : (connection.run statement).1 with
  | error fault =>
    rw [Connection.database_of_run_error ran]
    exact held.obeys
  | ok reply =>
    obtain ⟨table, fit⟩ := Connection.fit_of_run ran
    refine Connection.run_obeys Rule.emptied_keyed ?_ held.enforced held.sound held.obeys
    by_cases about : Catalog.Knows (Connection.tableName statement)
    · exact (identifies about).fills (Cell.bindFault?_eq_none_iff.mp fit.params)
    · cases statement with
      | select => exact trivial
      | delete => exact trivial
      | insert =>
        exact fun declaration declared named => absurd ⟨declaration, declared, named⟩ about
      | update =>
        exact fun declaration declared named => absurd ⟨declaration, declared, named⟩ about

end Sql.Statement

/-! ### Requests -/

/-- A request leaves no identifier out and takes none away, as far as the records say that it
writes. -/
def Request.Identifies (schema : Schema) (request : Request) : Prop :=
  let traits := schema.traits request.table
  Catalog.Knows request.table →
    match request.method with
    | .insert => ∀ record ∈ request.records, (traits.toStorage record).GivesId
    | .update => (traits.toStorage request.firstRecord).SparesId
    | .select | .delete => True

section Records

open Execution (fill like_fill)

variable {table : String} {traits : Traits} {record : Fields}

/-- What an insert writes for a record. The stamps are no identifiers. -/
theorem identifies_insert_iff (identifier : String) (now : Instant) :
    (Sql.Statement.insert table (Execution.storedRecord traits record identifier now)).Identifies ↔
      (traits.toStorage record).GivesId := by
  have created : sameName "created_at" "id" = false := by decide
  have stamped : sameName stampColumn "id" = false := by decide
  have like : Fields.like (Execution.storedRecord traits record identifier now) "id" =
      Fields.like (fill (traits.toStorage record) "id" (.string identifier)) "id" := by
    rw [Execution.storedRecord, Execution.stamp]
    split
    · rw [like_fill stamped, like_fill created]
    · rw [like_fill created]
  rw [Sql.Statement.Identifies, like, Fields.identified_fill_iff]

/-- What an update writes. -/
theorem identifies_update_iff (now : Instant) (conditions : List Sql.Condition) :
    (Sql.Statement.update table (Execution.changedRecord traits record now)
      conditions).Identifies ↔ (traits.toStorage record).SparesId := by
  have stamped : sameName stampColumn "id" = false := by decide
  rw [Sql.Statement.Identifies, Fields.SparesId, Execution.like_changedRecord stamped,
    ← Execution.like_toStorage, ← Fields.SparesId]

end Records

namespace Request

variable {request : Request} {schema : Schema}

theorem Identifies.preserves (identifies : request.Identifies schema) :
    request.Preserves Column.Keyed schema := by
  rw [Request.Identifies] at identifies
  rw [Request.Preserves]
  cases method : request.method with
  | select => exact trivial
  | delete => exact fun _ => Sql.Statement.preserves_keyed fun _ => trivial
  | insert =>
    rw [method] at identifies
    refine fun record mem identifier now => Sql.Statement.preserves_keyed fun known => ?_
    exact (identifies_insert_iff identifier now).mpr (identifies known record mem)
  | update =>
    rw [method] at identifies
    refine fun now conditions => Sql.Statement.preserves_keyed fun known => ?_
    exact (identifies_update_iff now conditions).mpr (identifies known)

/-- The statement by which a request changes tables tells whether it is of this kind. -/
theorem identifies_of_writtenBy {writing : Sql.Statement}
    (written : request.WrittenBy schema writing) :
    (Catalog.Knows (Connection.tableName writing) → writing.Identifies) ↔
      request.Identifies schema := by
  rw [Request.Identifies]
  cases written with
  | insert method single =>
    rw [method, single]
    refine forall_congr' fun _ => (identifies_insert_iff _ _).trans ?_
    simp only [List.mem_singleton, forall_eq]
  | update method =>
    rw [method]
    exact forall_congr' fun _ => identifies_update_iff _ _
  | delete method =>
    rw [method]
    exact Iff.rfl

end Request

/-! ### Sessions -/

/-- **Rows have identifiers exactly if requests give them.** Requests that leave none out and take
none away never leave a row without an identifier. In any world that is reached, a row that has an
identifier is the only one that an equality with it picks, and a row that has none is picked by no
such filter. Where every row has an identifier, a request that writes at most one record leaves it
so exactly if it changes nothing or is of this kind. -/
theorem identified_exactly_if_given (sources : Sources) :
    (∀ world : World Connection,
      Reached sources (fun schema request => request.Identifies schema) world →
        world.state.database.Identified) ∧
    ∀ (kind : Schema → Request → Prop) (world : World Connection), Reached sources kind world →
      (∀ table ∈ world.state.database.tables, ∀ row ∈ table.rows,
        let picked (schema : Schema) (value : Json) : List Row :=
          table.rows.filter
            (table.selects (Filter.conditions schema table.name [.equals "id" value]))
        (table.cell row "id" ≠ .null → ∃ s : String, ∀ schema, picked schema (.string s) = [row]) ∧
          (table.cell row "id" = .null → ∀ schema value, row ∉ picked schema value)) ∧
      (world.state.database.Identified →
        ∀ (schema : Schema) (query : Query) (request : Request), query.check = .ok request →
          (request.method = .insert → request.records.length = 1) →
            let later := (query.execute Connection.engine sources schema world).2.state.database
            later.Identified ↔ later = world.state.database ∨ request.Identifies schema) := by
  constructor
  · intro world reached
    have held : world.state.Holds Column.Keyed :=
      reached.holds_of_preserves fun _ _ identifies => identifies.preserves
    exact (Database.identified_iff held.sound held.obeys).mpr held.obeys
  · intro kind world reached
    have held := reached.holds_admits
    refine ⟨fun table mem row inside => ⟨fun filled => ?_, fun null schema value picked => ?_⟩,
      fun identified schema query request checked single => ?_⟩
    · have declared := held.sound.declared_of_mem mem
      have admits := held.obeys table mem row inside
      obtain ⟨s, named⟩ := (Table.id_of_admits declared admits).resolve_left filled
      refine ⟨s, fun schema => ?_⟩
      exact Table.filter_id (held.sound.tables table mem) declared (held.obeys table mem) inside
        named
    · have unpicked := Table.not_selects_of_null (held.sound.declared_of_mem mem) null
        (schema.filterValue table.name "id" value)
      exact Bool.false_ne_true (unpicked.symm.trans (List.mem_filter.mp picked).2)
    · intro later
      have shaped : later.Sound ∧ later.Obeys Column.Admits := by
        have held' : (query.execute Connection.engine sources schema world).2.state.Holds
            Column.Admits :=
          Execution.execute_maintains (fun request _ =>
            (request.heeds_admits schema).preserves Rule.natural_admits) held
        exact ⟨held'.sound, held'.obeys⟩
      have keyed := (Database.identified_iff held.sound held.obeys).mp identified
      rw [Database.identified_iff shaped.1 shaped.2]
      exact Execution.execute_obeys_iff_of Rule.emptied_keyed checked single
        (fun identifies writing written => Sql.Statement.preserves_keyed
          ((Request.identifies_of_writtenBy written).mpr identifies))
        (fun writing written fills =>
          (Request.identifies_of_writtenBy written).mp fills.identifies)
        ⟨held.enforced, held.sound, keyed⟩

/-- A person is recorded. -/
def recordedWorld : World Connection :=
  Query.executeAll Connection.engine (.steady 0 1) Catalog.schema
    [.request (plainRequest .insert "people"
      [[("id", .string "p-1"), ("display_name", .string "An")]] [])] Execution.newStore

/-- A request to take the identifier of this person away. -/
def nulling : Request :=
  plainRequest .update "people" [[("id", .null)]] [.equals "id" (.string "p-1")]

/-- What becomes of this request. -/
def nulled : Answer × World Connection :=
  (Query.request nulling).execute Connection.engine (.steady 0 1) Catalog.schema recordedWorld

theorem nulling_takes : ¬nulling.Identifies Catalog.schema := by
  intro identifies
  have known : Catalog.Knows "people" := ⟨Catalog.people, by decide, by decide⟩
  exact identifies known ("id", .null) (by decide) (.inl rfl)

/-- A person has an identifier that picks it, until it is taken away. -/
theorem identified_exactly_if_given_person :
    Reached (.steady 0 1) (fun schema request => request.Identifies schema) recordedWorld ∧
      recordedWorld.state.database.Identified ∧
      (∃ table ∈ recordedWorld.state.database.tables, ∃ row ∈ table.rows, ∃ s : String,
        table.rows.filter (table.selects (Filter.conditions Catalog.schema table.name
          [.equals "id" (.string s)])) = [row]) ∧
      ¬nulled.2.state.database.Identified := by
  have reached : Reached (.steady 0 1) (fun schema request => request.Identifies schema)
      recordedWorld := by
    refine Reached.new.queries Catalog.schema _ fun query mem request checked => ?_
    obtain rfl := List.mem_singleton.mp mem
    obtain rfl := Except.ok.inj checked
    intro _ record member
    obtain rfl := List.mem_singleton.mp member
    exact fun field counts => .inr (by revert field; decide)
  obtain ⟨given, told⟩ := identified_exactly_if_given (.steady 0 1)
  obtain ⟨picks, exactly⟩ := told _ recordedWorld reached
  have identified := given recordedWorld reached
  refine ⟨reached, identified, ?_, fun kept => ?_⟩
  · have present : recordedWorld.state.database.tables.flatMap (·.rows) ≠ [] := by decide +kernel
    obtain ⟨row, there⟩ := List.exists_mem_of_ne_nil _ present
    obtain ⟨table, mem, inside⟩ := List.mem_flatMap.mp there
    obtain ⟨s, picked⟩ := (picks table mem row inside).1 (identified table mem row inside)
    exact ⟨table, mem, row, inside, s, picked Catalog.schema⟩
  · have changed : nulled.2.state.database ≠ recordedWorld.state.database := by decide +kernel
    have asked := (exactly identified Catalog.schema (.request nulling) nulling rfl nofun).mp kept
    exact asked.elim changed nulling_takes

/-- One update is enough to leave a row without an identifier, its names being spelt as they are
declared. It is not refused. -/
theorem not_identified_of_null :
    Reached (.steady 0 1) (fun schema request => schema = Catalog.schema ∧ request.Spelt) nulled.2 ∧
      nulled.1 = .ok .null ∧ ¬nulled.2.state.database.Identified ∧
      (nulled.2.state.database.table? "people").map (fun table =>
        table.rows.map fun row => row.cells.take 3) = some [[.null, .null, .text "An"]] := by
  have reached : Reached (.steady 0 1)
      (fun schema request => schema = Catalog.schema ∧ request.Spelt) recordedWorld := by
    refine Reached.new.queries Catalog.schema _ fun query mem request checked => ⟨rfl, ?_⟩
    obtain rfl := List.mem_singleton.mp mem
    obtain rfl := Except.ok.inj checked
    decide +kernel
  refine ⟨?_, by decide +kernel, by decide +kernel, by decide +kernel⟩
  refine reached.query Catalog.schema (.request nulling) fun request checked => ⟨rfl, ?_⟩
  obtain rfl := Except.ok.inj checked
  decide +kernel

end RowQuery
