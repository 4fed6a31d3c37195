import RowQuery.Execution
import RowQuery.Proofs.Engine.Run

/-!
# Stored records

What a write stores: the values of a record in their stored form, with an identifier and stamps.

* `Execution.storedRecord` is what an insert stores for a record, `Execution.changedRecord` what an
  update stores.
* `identify_silent` and `changes_silent` — these records are made without the engine.
* `names_storedRecord` and `names_changedRecord` — the names of what is stored follow from the names
  of the record. Its values do not matter, although a value that counts as false is replaced.
-/

namespace RowQuery

namespace Fields

/-- The names of fields, in order. -/
def names (fields : Fields) : List String := fields.map (·.1)

/-- Names with a further one at the end, unless it is among them. -/
def addName (listed : List String) (name : String) : List String :=
  if name ∈ listed then listed else listed ++ [name]

theorem length_names (fields : Fields) : (names fields).length = fields.length := List.length_map _

theorem isEmpty_names (fields : Fields) : (names fields).isEmpty = fields.isEmpty :=
  List.isEmpty_map

/-- What is made of the names alone can be made of the list of names. -/
theorem map_names {α : Type} (make : String → α) (fields : Fields) :
    (names fields).map make = fields.map fun field => make field.1 := by
  rw [names, List.map_map]
  rfl

theorem names_put (fields : Fields) (name : String) (value : Json) :
    names (put fields name value) = addName (names fields) name := by
  induction fields with
  | nil => rfl
  | cons field rest ih =>
    obtain ⟨other, old⟩ := field
    rw [put]
    by_cases same : other = name
    · rw [if_pos same]
      show other :: names rest = addName (other :: names rest) name
      rw [addName, if_pos (List.mem_cons.mpr (.inl same.symm))]
    · rw [if_neg same]
      show other :: names (put rest name value) = addName (other :: names rest) name
      -- The name has to be among the others, if it is there at all.
      have mem : name ∈ other :: names rest ↔ name ∈ names rest :=
        List.mem_cons.trans (or_iff_right (Ne.symm same))
      rw [ih, addName, addName]
      by_cases present : name ∈ names rest
      · rw [if_pos present, if_pos (mem.mpr present)]
      · rw [if_neg present, if_neg (mt mem.mp present)]
        rfl

/-- A name under which a value is found is among the names. -/
theorem mem_names_of_get? {fields : Fields} {name : String} {value : Json}
    (h : get? fields name = some value) : name ∈ names fields := by
  obtain ⟨field, found, rfl⟩ := Option.map_eq_some_iff.mp h
  have same : field.1 = name := by simpa using List.find?_some found
  exact same ▸ List.mem_map_of_mem (List.mem_of_find?_eq_some found)

/-- Under a name that is among the names one of the values is found. -/
theorem get?_mem_of_mem_names {fields : Fields} {name : String} (h : name ∈ names fields) :
    ∃ value, get? fields name = some value ∧ value ∈ fields.map (·.2) := by
  obtain ⟨field, mem, rfl⟩ := List.mem_map.mp h
  have some : (fields.find? (·.1 = field.1)).isSome :=
    List.find?_isSome.mpr ⟨field, mem, decide_eq_true rfl⟩
  obtain ⟨found, here⟩ := Option.isSome_iff_exists.mp some
  refine ⟨found.2, ?_, List.mem_map_of_mem (List.mem_of_find?_eq_some here)⟩
  rw [get?, here]
  rfl

theorem mem_addName_iff {listed : List String} {name other : String} :
    other ∈ addName listed name ↔ other ∈ listed ∨ other = name := by
  rw [addName]
  split
  · next present => exact (or_iff_left_of_imp fun same => same ▸ present).symm
  · rw [List.mem_append, List.mem_singleton]

theorem nodup_addName {listed : List String} (distinct : listed.Nodup) (name : String) :
    (addName listed name).Nodup := by
  rw [addName]
  split
  · exact distinct
  · next fresh =>
    refine List.nodup_append.mpr ⟨distinct, by simp, fun other mem last single same => fresh ?_⟩
    rw [List.mem_singleton.mp single] at same
    exact same ▸ mem

end Fields

namespace Execution

open Fields

/-- What an insert stores for a record. -/
def storedRecord (traits : Traits) (record : Fields) (identifier : String) (now : Instant) :
    Fields :=
  stamp traits now (fill (traits.toStorage record) "id" (.string identifier))

/-- What an update stores for a record. -/
def changedRecord (traits : Traits) (record : Fields) (now : Instant) : Fields :=
  if traits.stamped then put (traits.toStorage record) stampColumn (.string now.text)
  else traits.toStorage record

/-- The names of what an insert stores, by those of the record. -/
def storedNames (traits : Traits) (listed : List String) : List String :=
  let created := addName (addName listed "id") "created_at"
  if traits.stamped then addName created stampColumn else created

/-- The names of what an update stores, by those of the record. -/
def changedNames (traits : Traits) (listed : List String) : List String :=
  if traits.stamped then addName listed stampColumn else listed

theorem names_toStorage (traits : Traits) (fields : Fields) :
    names (traits.toStorage fields) = names fields := by
  rw [names, Traits.toStorage, List.map_map]
  rfl

/-- Whether or not the value is replaced, its name is there in the end. -/
theorem names_fill (fields : Fields) (name : String) (value : Json) :
    names (fill fields name value) = addName (names fields) name := by
  rw [fill]
  by_cases present : hasValue fields name
  · rw [if_pos present]
    -- A value is kept only where it is found, and there its name is.
    cases found : get? fields name with
    | none =>
      rw [hasValue, found] at present
      cases present
    | some old => rw [addName, if_pos (mem_names_of_get? found)]
  · rw [if_neg present, names_put]

theorem names_stamp (traits : Traits) (now : Instant) (fields : Fields) :
    names (stamp traits now fields) =
      if traits.stamped then addName (addName (names fields) "created_at") stampColumn
      else addName (names fields) "created_at" := by
  rw [stamp]
  split
  · rw [names_fill, names_fill]
  · rw [names_fill]

/-- The names of what an insert stores do not depend on any value. -/
theorem names_storedRecord (traits : Traits) (record : Fields) (identifier : String)
    (now : Instant) :
    names (storedRecord traits record identifier now) = storedNames traits (names record) := by
  rw [storedRecord, names_stamp, names_fill, names_toStorage]
  rfl

/-- What an insert stores has an identifier. -/
theorem id_mem_storedNames (traits : Traits) (listed : List String) :
    "id" ∈ storedNames traits listed := by
  have created : "id" ∈ addName (addName listed "id") "created_at" :=
    mem_addName_iff.mpr (.inl (mem_addName_iff.mpr (.inr rfl)))
  rw [storedNames]
  split
  · exact mem_addName_iff.mpr (.inl created)
  · exact created

/-- The names of what an update stores do not depend on any value. -/
theorem names_changedRecord (traits : Traits) (record : Fields) (now : Instant) :
    names (changedRecord traits record now) = changedNames traits (names record) := by
  rw [changedRecord, changedNames]
  split
  · rw [names_put, names_toStorage]
  · exact names_toStorage traits record

/-! ### Making the records -/

section Making

variable {σ : Type} (sources : Sources)

/-- An identifier is drawn or not; in both cases the record is filled with one. -/
theorem identify_silent (fields : Fields) :
    Run.Silent (identify sources fields : Run σ Fields) fun identified =>
      ∃ identifier, identified = fill fields "id" (.string identifier) := by
  rw [identify]
  by_cases present : hasValue fields "id"
  · rw [if_pos present]
    exact .pure ⟨"", by rw [fill, if_pos present]⟩
  · rw [if_neg present]
    refine (Run.identifier_silent sources).bind fun identifier _ => .pure ⟨identifier, ?_⟩
    rw [fill, if_neg present]

/-- The clock is read or not; in both cases the stamp is as if it had been. -/
theorem changes_apply (schema : Schema) (request : Request) (world : World σ) :
    ∃ draws, changes sources schema request world =
      (.ok (changedRecord (schema.traits request.table) request.firstRecord
        (sources.instant world.draws.instants)), { world with draws }) := by
  by_cases stamped : (schema.traits request.table).stamped
  · refine ⟨{ world.draws with instants := world.draws.instants + 1 }, ?_⟩
    simp only [changes, if_pos stamped, changedRecord, Run.bind_apply]
    rfl
  · refine ⟨world.draws, ?_⟩
    simp only [changes, if_neg stamped, changedRecord]
    rfl

theorem changes_silent (schema : Schema) (request : Request) :
    Run.Silent (changes sources schema request : Run σ Fields) fun values =>
      ∃ now, values = changedRecord (schema.traits request.table) request.firstRecord now := by
  intro world
  obtain ⟨draws, applied⟩ := changes_apply sources schema request world
  rw [applied]
  exact ⟨rfl, _, rfl, _, rfl⟩

end Making

end Execution

end RowQuery
