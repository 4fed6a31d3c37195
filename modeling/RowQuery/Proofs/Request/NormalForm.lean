import RowQuery.Execution
import RowQuery.Proofs.Json.Fields

/-!
# Requests are their own normal form

A request can be given leniently: a flag as a word, a limit as text, null as the word for it, the
flag for at most one row under another name. What is read of it is written down in one way, and
that form is read as the same request again.

* `Checked.Rereads` — what a reader yields is read again from the form it is written in;
  `Checked.Exact` — it is written as it was found.
* `Filter.read_document`, `OrderTerm.read_document`, `Body.read_document`: the parts of a request;
  `Body.document_of_read` — a body is taken as it is.
* `Request.mk_eq_ok_iff` — a request is read where all of its fields are.
* `Request.read_document_of_read` — the whole request; `Request.valid_of_read` — what is promised of
  it.
* `Query.check_of_read` — where a document is read as a request, its method is a known one.
* `Query.execute_document_of_read` — the two forms of a request are answered alike.
-/

namespace RowQuery

namespace Checked

variable {α β : Type} {read : Json → Checked α} {document : α → Json} {name : String}

@[simp] theorem map_eq_ok_iff {f : α → β} {outcome : Checked α} {b : β} :
    f <$> outcome = .ok b ↔ ∃ a, outcome = .ok a ∧ f a = b := by
  cases outcome with
  | ok a => exact ⟨fun h => ⟨a, rfl, Checked.ok.inj h⟩, fun ⟨_, rfl, h⟩ => congrArg Checked.ok h⟩
  | failed issues => exact ⟨nofun, nofun⟩

/-- Two readers side by side accept what both accept. -/
@[simp] theorem seq_eq_ok_iff {first : Checked (α → β)} {second : Checked α} {b : β} :
    first <*> second = .ok b ↔ ∃ f a, first = .ok f ∧ second = .ok a ∧ f a = b := by
  cases first <;> cases second
  case ok.ok f a =>
    constructor
    · intro h
      exact ⟨f, a, rfl, rfl, Checked.ok.inj h⟩
    · rintro ⟨_, _, ⟨⟩, ⟨⟩, rfl⟩
      rfl
  all_goals exact ⟨nofun, nofun⟩

@[simp] theorem within_eq_ok_iff {outcome : Checked α} {a : α} :
    outcome.within name = .ok a ↔ outcome = .ok a := by
  cases outcome with
  | ok found => exact Iff.rfl
  | failed issues => exact ⟨nofun, nofun⟩

@[simp] theorem andThen_eq_ok_iff {outcome : Checked α} {next : α → Checked β} {b : β} :
    outcome.andThen next = .ok b ↔ ∃ a, outcome = .ok a ∧ next a = .ok b := by
  cases outcome with
  | ok a => exact ⟨fun h => ⟨a, rfl, h⟩, fun ⟨_, same, h⟩ => Checked.ok.inj same ▸ h⟩
  | failed issues => exact ⟨nofun, nofun⟩

/-- A word that is accepted is one of the words, with its meaning. -/
theorem mem_of_literal {words : List (String × α)} {found : Json} {a : α}
    (h : literal words found = .ok a) : ∃ word, found = .string word ∧ (word, a) ∈ words := by
  cases found with
  | string text =>
    rw [literal] at h
    split at h
    · next word meaning here =>
      cases h
      have same : word = text := by simpa using List.find?_some here
      exact ⟨text, rfl, same ▸ List.mem_of_find?_eq_some here⟩
    · cases h
  | _ => cases h

/-! ### Readers and the forms of what they read -/

/-- What the reader yields is read again from the form it is written in. -/
def Rereads (read : Json → Checked α) (document : α → Json) : Prop :=
  ∀ found a, read found = .ok a → read (document a) = .ok a

/-- The reader takes values as they are: what it yields is written as it was found. -/
def Exact (read : Json → Checked α) (document : α → Json) : Prop :=
  ∀ found a, read found = .ok a → document a = found

theorem Exact.rereads (exact : Exact read document) : Rereads read document := by
  intro found a h
  rw [exact found a h, h]

/-- Null aside, a value that may be null is read as the value. -/
theorem nullable_of_ne_null {found : Json} (present : found ≠ .null) :
    nullable read found = (read found).map some := by
  cases found <;> first | rfl | exact absurd rfl present

/-- A value that may be null is null, or the value is read. -/
theorem nullable_cases {found : Json} {value : Option α} (h : nullable read found = .ok value) :
    (found = .null ∧ value = none) ∨ ∃ a, read found = .ok a ∧ value = some a := by
  by_cases absent : found = .null
  · subst absent
    exact .inl ⟨rfl, (Checked.ok.inj h).symm⟩
  · rw [nullable_of_ne_null absent] at h
    obtain ⟨a, inner, rfl⟩ := map_eq_ok_iff.mp h
    exact .inr ⟨a, inner, rfl⟩

theorem Exact.nullable (exact : Exact read document) :
    Exact (Checked.nullable read) (Json.ofOption document) := by
  intro found value h
  rcases nullable_cases h with ⟨rfl, rfl⟩ | ⟨a, inner, rfl⟩
  · rfl
  · exact exact found a inner

theorem Rereads.nullable (rereads : Rereads read document) (present : ∀ a, document a ≠ .null) :
    Rereads (Checked.nullable read) (Json.ofOption document) := by
  intro found value h
  rcases nullable_cases h with ⟨rfl, rfl⟩ | ⟨a, inner, rfl⟩
  · rfl
  · rw [Json.ofOption, nullable_of_ne_null (present a), rereads found a inner]
    rfl

/-- Values that are read from their forms are read from the list of the forms. -/
theorem items_document (h : ∀ a, read (document a) = .ok a) (values : List α) (start : Nat) :
    items read start (values.map document) = .ok values := by
  induction values generalizing start with
  | nil => rfl
  | cons a rest ih =>
    rw [List.map_cons, items, h a, ih (start + 1)]
    rfl

theorem list_document (h : ∀ a, read (document a) = .ok a) (values : List α) :
    list read (.array (values.map document)) = .ok values := items_document h values 0

theorem items_exact (exact : Exact read document) {found : List Json} {values : List α}
    {start : Nat} (h : items read start found = .ok values) : values.map document = found := by
  induction found generalizing start values with
  | nil =>
    cases h
    rfl
  | cons item rest ih =>
    obtain ⟨_, others, first, more, rfl⟩ := seq_eq_ok_iff.mp h
    obtain ⟨a, here, rfl⟩ := map_eq_ok_iff.mp first
    rw [List.map_cons, exact item a (within_eq_ok_iff.mp here), ih more]

theorem Exact.list (exact : Exact read document) :
    Exact (Checked.list read) fun values => .array (values.map document) := by
  intro found values h
  cases found with
  | array items => exact congrArg Json.array (items_exact exact h)
  | _ => cases h

/-- A field that has to be there is read of some value. -/
theorem exists_of_required {fields : Fields} {a : α} (h : required fields name read = .ok a) :
    ∃ value, read value = .ok a := by
  rw [required] at h
  split at h
  · exact ⟨_, within_eq_ok_iff.mp h⟩
  · cases h

/-- A field that may be absent is read of some value, or is as usual. -/
theorem exists_of_optional {fields : Fields} {default a : α}
    (h : optional fields name default read = .ok a) :
    (∃ value, read value = .ok a) ∨ default = a := by
  rw [optional] at h
  split at h
  · exact .inl ⟨_, within_eq_ok_iff.mp h⟩
  · exact .inr (Checked.ok.inj h)

/-- A field that has been read is read from the form of what it holds. -/
theorem Rereads.of_required (rereads : Rereads read document) {fields : Fields} {a : α}
    (h : required fields name read = .ok a) : read (document a) = .ok a := by
  obtain ⟨value, found⟩ := exists_of_required h
  exact rereads value a found

theorem Rereads.of_optional (rereads : Rereads read document) {fields : Fields} {default a : α}
    (usual : read (document default) = .ok default)
    (h : optional fields name default read = .ok a) : read (document a) = .ok a := by
  obtain ⟨value, found⟩ | rfl := exists_of_optional h
  · exact rereads value a found
  · exact usual

theorem string_exact : Exact string Json.string := by
  intro found s h
  cases found <;> cases h
  rfl

theorem object_exact : Exact object Json.object := by
  intro found fields h
  cases found <;> cases h
  rfl

theorem nonEmptyString_exact : Exact nonEmptyString Json.string := by
  intro found s h
  cases found with
  | string text =>
    rw [nonEmptyString] at h
    split at h <;> cases h
    rfl
  | _ => cases h

/-- A name that has been read is not empty. -/
theorem ne_empty_of_nonEmptyString {found : Json} {s : String}
    (h : nonEmptyString found = .ok s) : s ≠ "" := by
  cases found with
  | string text =>
    rw [nonEmptyString] at h
    split at h <;> cases h
    assumption
  | _ => cases h

/-- A count that has been read is above zero. -/
theorem pos_of_positive {found : Json} {n : Int} (h : positive found = .ok n) : 0 < n := by
  obtain ⟨m, -, kept⟩ := andThen_eq_ok_iff.mp h
  split at kept
  · next above => rwa [← Checked.ok.inj kept]
  · cases kept

/-- So it is read from its number. -/
theorem positive_rereads : Rereads positive Json.integer :=
  fun _ _ h => if_pos (pos_of_positive h)

end Checked

open Checked

/-! ### Parts of a request -/

theorem Filter.readFields_oneOf {fields : Fields} {column : String} {values : List Json}
    (tag : optional fields "type" () (literal [(Kind.oneOf.tag, ())]) = .ok ())
    (named : Fields.get? fields "column" = some (.string column))
    (valued : Fields.get? fields "value" = some (.array values)) :
    readFields .oneOf fields = .ok (.oneOf column values) := by
  have items : list anything (.array (values.map id)) = .ok values :=
    list_document (fun _ => rfl) values
  rw [List.map_id] at items
  refine seq_eq_ok_iff.mpr ⟨id, .oneOf column values, by rw [tag]; rfl, ?_, rfl⟩
  rw [required, named, required, valued]
  exact seq_eq_ok_iff.mpr ⟨oneOf column, values, rfl, within_eq_ok_iff.mpr items, rfl⟩

/-- A filter is read from its form as a document. -/
theorem Filter.read_document (filter : Filter) : Filter.read filter.document = .ok filter := by
  cases filter with
  | oneOf column values => exact within_eq_ok_iff.mpr (readFields_oneOf rfl rfl rfl)
  | differs column word value => cases word <;> rfl
  | _ => rfl

theorem OrderTerm.read_document (term : OrderTerm) :
    OrderTerm.read term.document = .ok term := rfl

/-- A value names a method if it is its word. -/
theorem Method.ofJson?_eq_some_iff {found : Json} {method : Method} :
    Method.ofJson? found = some method ↔ found = .string method.word := by
  constructor
  · intro h
    cases found with
    | string word =>
      have here := List.find?_some (p := fun method => decide (Method.word method = word)) h
      rw [of_decide_eq_true here]
    | _ => cases h
  · rintro rfl
    cases method <;> rfl

/-- The reader of methods takes the values that name one. -/
theorem Method.read_eq_ok_iff {found : Json} {method : Method} :
    Method.read found = .ok method ↔ Method.ofJson? found = some method := by
  cases found with
  | string word =>
    have same : (Method.all.map fun method => (method.word, method)).find? (·.1 = word) =
        (Method.ofJson? (.string word)).map fun method => (method.word, method) := List.find?_map
    rw [Method.read, literal, same]
    rcases Method.ofJson? (.string word) with _ | other
    · exact ⟨nofun, nofun⟩
    · exact ⟨fun h => congrArg some (Checked.ok.inj h),
        fun h => congrArg Checked.ok (Option.some.inj h)⟩
  | _ => exact ⟨nofun, nofun⟩

/-- A value with its records as they are kept: a repeated name has its first place and its last
value. -/
def Json.settled : Json → Json
  | .object fields => .object (Fields.ofPairs fields)
  | .array items => .array (items.map fun
    | .object fields => .object (Fields.ofPairs fields)
    | item => item)
  | value => value

/-- The records that a value brings along: itself or its items. -/
def Json.records : Json → List Fields
  | .object fields => [fields]
  | .array items => items.filterMap fun
    | .object fields => some fields
    | _ => none
  | _ => []

/-- A value whose records have no name twice is settled. -/
theorem Json.settled_of_nodup {value : Json}
    (distinct : ∀ record ∈ value.records, (record.map (·.1)).Nodup) : value.settled = value := by
  cases value with
  | object fields =>
    exact congrArg object (Fields.ofPairs_of_nodup (distinct fields (List.mem_singleton.mpr rfl)))
  | array items =>
    refine congrArg array ((List.map_congr_left fun item mem => ?_).trans (List.map_id items))
    cases item with
    | object fields =>
      have listed : fields ∈ (array items).records := List.mem_filterMap.mpr ⟨_, mem, rfl⟩
      exact congrArg object (Fields.ofPairs_of_nodup (distinct fields listed))
    | _ => rfl
  | _ => rfl

/-- A body is taken as it is, its records settled. -/
theorem Body.document_of_read {found : Json} {body : Body} (h : read found = .ok body) :
    body.document = found.settled := by
  cases found with
  | null | object fields =>
    cases h
    rfl
  | _ =>
    simp only [read] at h
    split at h
    · next items listed =>
      cases h
      rw [← object_exact.list _ items listed, Json.settled, document, List.map_map, List.map_map]
      rfl
    · next issues _ =>
      obtain ⟨_, _, none, -, -⟩ := seq_eq_ok_iff.mp h
      obtain ⟨_, refused, -⟩ := map_eq_ok_iff.mp none
      cases refused

/-- A record is what its fields leave. -/
theorem Record.ofPairs_fields (record : Record) : ofPairs record.fields = record := by
  cases record with
  | mk fields distinct =>
    rw [ofPairs]
    congr 1
    exact Fields.ofPairs_of_nodup distinct

/-- A list of objects is a body of records. -/
theorem Body.read_array {found : List Json} {items : List Fields}
    (listed : list object (.array found) = .ok items) :
    read (.array found) = .ok (.records (items.map Record.ofPairs)) := by
  simp only [read, listed]

/-- A body is read from its form as a document. -/
theorem Body.read_document (body : Body) : read body.document = .ok body := by
  cases body with
  | absent => rfl
  | record one => exact congrArg (fun one => Checked.ok (record one)) one.ofPairs_fields
  | records items =>
    have objects (fields : Fields) : object (.object fields) = .ok fields := rfl
    have listed := list_document objects (items.map Record.fields)
    have kept : (items.map Record.fields).map Record.ofPairs = items := by
      rw [List.map_map]
      exact (List.map_congr_left fun item _ => item.ofPairs_fields).trans (List.map_id _)
    rw [List.map_map] at listed
    exact (read_array listed).trans (congrArg (fun items => Checked.ok (records items)) kept)

/-! ### Whole requests -/

namespace Request

/-- A request is put together from its parts, all of which have to be accepted. -/
theorem mk_eq_ok_iff {table : Checked String} {method : Checked Method}
    {columns : Checked (Option String)} {body : Checked Body} {filters : Checked (List Filter)}
    {order : Checked (List OrderTerm)} {limit : Checked (Option Int)}
    {single maybeSingle : Checked Bool} {request : Request} :
    mk <$> table <*> method <*> columns <*> body <*> filters <*> order <*> limit <*> single
        <*> maybeSingle = .ok request ↔
      table = .ok request.table ∧ method = .ok request.method ∧ columns = .ok request.columns ∧
      body = .ok request.body ∧ filters = .ok request.filters ∧ order = .ok request.order ∧
      limit = .ok request.limit ∧ single = .ok request.single ∧
      maybeSingle = .ok request.maybeSingle := by
  constructor
  · intro h
    -- The parts are taken off from the last one to the first one.
    obtain ⟨_, _, h₈, hMaybeSingle, rfl⟩ := seq_eq_ok_iff.mp h
    obtain ⟨_, _, h₇, hSingle, rfl⟩ := seq_eq_ok_iff.mp h₈
    obtain ⟨_, _, h₆, hLimit, rfl⟩ := seq_eq_ok_iff.mp h₇
    obtain ⟨_, _, h₅, hOrder, rfl⟩ := seq_eq_ok_iff.mp h₆
    obtain ⟨_, _, h₄, hFilters, rfl⟩ := seq_eq_ok_iff.mp h₅
    obtain ⟨_, _, h₃, hBody, rfl⟩ := seq_eq_ok_iff.mp h₄
    obtain ⟨_, _, h₂, hColumns, rfl⟩ := seq_eq_ok_iff.mp h₃
    obtain ⟨_, _, h₁, hMethod, rfl⟩ := seq_eq_ok_iff.mp h₂
    obtain ⟨_, hTable, rfl⟩ := map_eq_ok_iff.mp h₁
    exact ⟨hTable, hMethod, hColumns, hBody, hFilters, hOrder, hLimit, hSingle, hMaybeSingle⟩
  · rintro ⟨rfl, rfl, rfl, rfl, rfl, rfl, rfl, rfl, rfl⟩
    rfl

/-- **A request is its own normal form**: the document of a request that has been read is read as
that request. -/
theorem read_document_of_read {found : Json} {request : Request}
    (h : read found = .ok request) : read request.document = .ok request := by
  cases found with
  | object fields =>
    obtain ⟨table, method, columns, body, filters, order, limit, single, maybeSingle⟩ :=
      mk_eq_ok_iff.mp h
    -- Every field is present in the document, the flags as such.
    refine mk_eq_ok_iff.mpr ⟨?_, ?_, ?_, ?_, ?_, ?_, ?_, rfl, rfl⟩ <;>
      refine within_eq_ok_iff.mpr ?_
    · exact nonEmptyString_exact.rereads.of_required table
    · exact Method.read_eq_ok_iff.mpr (Method.ofJson?_eq_some_iff.mpr rfl)
    · exact string_exact.nullable.rereads.of_optional rfl columns
    · exact Body.read_document request.body
    · exact list_document Filter.read_document request.filters
    · exact list_document OrderTerm.read_document request.order
    · exact (positive_rereads.nullable fun _ => nofun).of_optional rfl limit
  | _ => cases h

/-- A limit that has been read is above zero, if there is one. -/
theorem pos_of_mem_limit {found : Json} {limit : Option Int}
    (h : nullable positive found = .ok limit) : ∀ n ∈ limit, 0 < n := by
  intro n mem
  obtain ⟨-, rfl⟩ | ⟨m, counted, rfl⟩ := nullable_cases h
  · cases mem
  · exact Option.some.inj mem ▸ pos_of_positive counted

/-- A request that has been read is valid. -/
theorem valid_of_read {found : Json} {request : Request} (h : read found = .ok request) :
    request.Valid := by
  cases found with
  | object fields =>
    obtain ⟨table, -, -, -, -, -, limit, -, -⟩ := mk_eq_ok_iff.mp h
    obtain ⟨value, named⟩ := exists_of_required table
    refine ⟨ne_empty_of_nonEmptyString named, ?_⟩
    obtain ⟨value, limited⟩ | none := exists_of_optional limit
    · exact pos_of_mem_limit limited
    · exact none ▸ nofun
  | _ => cases h

end Request

/-- The two checks of the method agree: a document that is read as a request passes both. -/
theorem Query.check_of_read {found : Json} {request : Request}
    (h : Request.read found = .ok request) : Query.check (.document found) = .ok request := by
  cases found with
  | object fields =>
    have method := (Request.mk_eq_ok_iff.mp h).2.1
    rw [required] at method
    split at method
    · next value present =>
      have named := Method.read_eq_ok_iff.mp (within_eq_ok_iff.mp method)
      show Query.check.withMethod ((Fields.get? fields "method").getD .null) _ = _
      rw [present, Option.getD_some, Query.check.withMethod, named, h]
      rfl
    · cases method
  | _ => cases h

/-- A document that is read as a request is answered as the document of the request is. -/
theorem Query.execute_document_of_read {σ : Type} (engine : Engine σ) (sources : Sources)
    (schema : Schema) {found : Json} {request : Request} (h : Request.read found = .ok request)
    (world : World σ) : execute engine sources schema (.document found) world =
      execute engine sources schema (.document request.document) world := by
  have checked := Query.check_of_read h
  have again := Query.check_of_read (Request.read_document_of_read h)
  rw [execute, execute, checked, again]

end RowQuery
