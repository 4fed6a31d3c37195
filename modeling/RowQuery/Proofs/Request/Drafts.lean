import RowQuery.Proofs.Request.NormalForm

/-!
# What a chain of calls comes to

A draft grows call by call. What it holds in the end is told by the calls alone: the filters and
order terms of the calls in their order, and of everything else what the last call said of it.

* `Call.filter?`, `Call.term?`, `Call.write?`, `Call.columns?`, `Call.body?` and `Call.limit?` —
  what one call says.
* `Draft.Follows` — one draft comes from another by calls; `Draft.follows_of_apply` is one call,
  `Draft.follows_of_applyAll` any number of them.
* `Draft.read_document` — a draft and its document are read alike, also where both are refused.
* `Request.Tells` — a request says what a chain of calls says.
-/

namespace RowQuery

open Checked

/-! ### What a call says -/

namespace Call

/-- The filter that a call states. -/
def filter? : Call → Option Filter
  | .eq (.string column) value => some (.equals column value)
  | .neq (.string column) value => some (.differs column .neq value)
  | .oneOf (.string column) values => (Draft.members values).toOption.map (.oneOf column)
  | .isNull (.string column) _ => some (.isNull column)
  | .ilike (.string column) (.string pattern) => some (.matchesPattern column pattern)
  | .negated (.string column) (.string "is") _ => some (.notNull column)
  | .negated (.string column) (.string "eq") value => some (.differs column .eq value)
  | .negated (.string column) (.string "neq") value => some (.differs column .neq value)
  | .anyOf (.string condition) => some (.anyOf condition)
  | _ => none

/-- The order term that a call states. -/
def term? : Call → Option OrderTerm
  | .order (.string column) descending => some ⟨column, !descending.truthy⟩
  | _ => none

/-- The method that a call chooses whatever was chosen before. -/
def write? : Call → Option Method
  | .insert _ => some .insert
  | .update _ => some .update
  | .delete => some .delete
  | _ => none

/-- The columns that a call asks for. -/
def columns? : Call → Option Json
  | .select columns => some columns
  | _ => none

/-- The body that a call brings along. -/
def body? : Call → Option Json
  | .insert body => some body
  | .update body => some body
  | _ => none

/-- The limit that a call sets. -/
def limit? : Call → Option Json
  | .limit count => some count
  | _ => none

/-- What the last of the calls that say something says. -/
def latest {α : Type} (tells : Call → Option α) (calls : List Call) : Option α :=
  (calls.filterMap tells).getLast?

theorem latest_append {α : Type} (tells : Call → Option α) (first second : List Call) :
    latest tells (first ++ second) = (latest tells second).or (latest tells first) := by
  rw [latest, List.filterMap_append, List.getLast?_append]
  rfl

end Call

/-! ### One call after the other -/

namespace Draft

open Call (latest)

/-- The later draft is the earlier one with what the calls say. -/
structure Follows (before after : Draft) (calls : List Call) : Prop where
  table : after.table = before.table
  /-- Where no call chooses a method, a select does not displace the one chosen before. -/
  method : after.method.getD .select =
    (latest Call.write? calls).getD (before.method.getD .select)
  columns : after.columns = (latest Call.columns? calls).getD before.columns
  body : after.body = (latest Call.body? calls).getD before.body
  filters : after.filters = before.filters ++ calls.filterMap Call.filter?
  order : after.order = before.order ++ calls.filterMap Call.term?
  limit : after.limit = (latest Call.limit? calls).getD before.limit
  single : after.single = true ↔ before.single = true ∨ Call.single ∈ calls
  maybeSingle : after.maybeSingle = true ↔ before.maybeSingle = true ∨ Call.maybeSingle ∈ calls

theorem Follows.refl (draft : Draft) : Follows draft draft [] where
  table := rfl
  method := rfl
  columns := rfl
  body := rfl
  filters := (List.append_nil _).symm
  order := (List.append_nil _).symm
  limit := rfl
  single := by simp
  maybeSingle := by simp

theorem Follows.trans {first second third : Draft} {calls more : List Call}
    (h : Follows first second calls) (h' : Follows second third more) :
    Follows first third (calls ++ more) where
  table := h'.table.trans h.table
  method := by rw [h'.method, h.method, Call.latest_append, Option.getD_or]
  columns := by rw [h'.columns, h.columns, Call.latest_append, Option.getD_or]
  body := by rw [h'.body, h.body, Call.latest_append, Option.getD_or]
  filters := by rw [h'.filters, h.filters, List.filterMap_append, List.append_assoc]
  order := by rw [h'.order, h.order, List.filterMap_append, List.append_assoc]
  limit := by rw [h'.limit, h.limit, Call.latest_append, Option.getD_or]
  single := by rw [h'.single, h.single, List.mem_append, or_assoc]
  maybeSingle := by rw [h'.maybeSingle, h.maybeSingle, List.mem_append, or_assoc]

variable {before after : Draft} {call : Call}

theorem exists_of_addFilter {kind : Filter.Kind} {fields : Fields}
    (h : before.addFilter kind fields = .ok after) :
    ∃ filter, Filter.readFields kind fields = .ok filter ∧
      after = { before with filters := before.filters ++ [filter] } := by
  rw [addFilter] at h
  rcases read : Filter.readFields kind fields with filter | issues
  · rw [read] at h
    exact ⟨filter, rfl, (Except.ok.inj h).symm⟩
  · rw [read] at h
    cases h

/-- A call that states a filter says nothing else. -/
theorem follows_of_filter {filter : Filter} (said : call.filter? = some filter) :
    Follows before { before with filters := before.filters ++ [filter] } [call] := by
  cases call with
  | select | insert | update | delete | order | limit | single | maybeSingle => cases said
  | eq | neq | oneOf | isNull | ilike | negated | anyOf =>
    constructor <;> simp [latest, said, Call.write?, Call.columns?, Call.body?, Call.term?,
      Call.limit?]

/-- A call that states an order term says nothing else. -/
theorem follows_of_term {term : OrderTerm} (said : call.term? = some term) :
    Follows before { before with order := before.order ++ [term] } [call] := by
  cases call with
  | order =>
    constructor <;> simp [latest, said, Call.write?, Call.columns?, Call.body?, Call.filter?,
      Call.limit?]
  | _ => cases said

/-- The filter that is read for a negated call is the one that the call states. -/
theorem filter?_of_negated {column operator value : Json} {filter : Filter}
    (h : Filter.readFields .negated
      [("column", column), ("operator", operator), ("value", value)] = .ok filter) :
    (Call.negated column operator value).filter? = some filter := by
  obtain ⟨_, parts, negated⟩ := andThen_eq_ok_iff.mp h
  obtain ⟨_, _, tag, inner, rfl⟩ := seq_eq_ok_iff.mp parts
  cases tag
  obtain ⟨_, _, name, value, rfl⟩ := seq_eq_ok_iff.mp inner
  obtain ⟨_, _, word, given, rfl⟩ := seq_eq_ok_iff.mp value
  cases given
  obtain ⟨_, named, rfl⟩ := map_eq_ok_iff.mp name
  obtain ⟨_, chosen, rfl⟩ := map_eq_ok_iff.mp word
  cases column with
  | string column =>
    cases named
    obtain ⟨text, rfl, known⟩ := mem_of_literal (within_eq_ok_iff.mp chosen)
    rcases List.mem_cons.mp known with is | known
    · cases is
      simp only [Filter.negate] at negated
      split at negated <;> cases negated
      rfl
    · rcases List.mem_cons.mp known with eq | known
      · cases eq
        cases negated
        rfl
      · cases List.mem_singleton.mp known
        cases negated
        rfl
  | _ => cases named

theorem follows_of_apply (h : before.apply call = .ok after) : Follows before after [call] := by
  cases call with
  | eq column value =>
    obtain ⟨filter, read, rfl⟩ := exists_of_addFilter h
    refine follows_of_filter ?_
    cases column with
    | string column =>
      cases read
      rfl
    | _ => cases read
  | neq column value =>
    obtain ⟨filter, read, rfl⟩ := exists_of_addFilter h
    refine follows_of_filter ?_
    cases column with
    | string column =>
      cases read
      rfl
    | _ => cases read
  | oneOf column values =>
    rw [apply] at h
    split at h
    · next items listed =>
      obtain ⟨filter, read, rfl⟩ := exists_of_addFilter h
      refine follows_of_filter ?_
      cases column with
      | string column =>
        cases (Filter.readFields_oneOf rfl rfl rfl).symm.trans read
        rw [Call.filter?, listed]
        rfl
      | _ =>
        obtain ⟨_, _, -, read, -⟩ := seq_eq_ok_iff.mp read
        obtain ⟨_, _, read, -, -⟩ := seq_eq_ok_iff.mp read
        cases read
    · cases h
  | isNull column value =>
    obtain ⟨filter, read, rfl⟩ := exists_of_addFilter h
    obtain ⟨_, _, tag, inner, rfl⟩ := seq_eq_ok_iff.mp read
    obtain ⟨_, _, name, -, rfl⟩ := seq_eq_ok_iff.mp inner
    refine follows_of_filter ?_
    cases column with
    | string column =>
      cases tag
      cases name
      rfl
    | _ => cases name
  | ilike column pattern =>
    obtain ⟨filter, read, rfl⟩ := exists_of_addFilter h
    refine follows_of_filter ?_
    cases column <;> cases pattern <;> cases read
    rfl
  | negated column operator value =>
    obtain ⟨filter, read, rfl⟩ := exists_of_addFilter h
    exact follows_of_filter (filter?_of_negated read)
  | anyOf condition =>
    obtain ⟨filter, read, rfl⟩ := exists_of_addFilter h
    refine follows_of_filter ?_
    cases condition <;> cases read
    rfl
  | order column descending =>
    rw [apply, addOrder] at h
    cases column with
    | string column =>
      cases h
      exact follows_of_term rfl
    | _ => cases h
  | _ =>
    cases h
    constructor <;> simp [latest, Call.write?, Call.columns?, Call.body?, Call.filter?,
      Call.term?, Call.limit?]

/-- Any number of calls. -/
theorem follows_of_applyAll {calls : List Call} (h : before.applyAll calls = .ok after) :
    Follows before after calls := by
  induction calls generalizing before with
  | nil =>
    cases h
    exact .refl _
  | cons call rest ih =>
    rw [applyAll, List.foldlM_cons] at h
    rcases step : before.apply call with fault | next
    · rw [step] at h
      cases h
    · rw [step] at h
      exact (follows_of_apply step).trans (ih h)

/-! ### The draft as a document -/

/-- A draft is read from its document as it is checked itself, also where it is refused. -/
theorem read_document (draft : Draft) : Request.read draft.document = draft.check := by
  have filters := list_document Filter.read_document draft.filters
  have order := list_document OrderTerm.read_document draft.order
  show Request.mk <$> _ <*> _ <*> _ <*> _ <*> (list Filter.read _).within "filters" <*>
    (list OrderTerm.read _).within "order" <*> _ <*> _ <*> _ = _
  rw [filters, order]
  rfl

/-- A draft and its document are the same query. -/
theorem check_document (draft : Draft) :
    Query.check (.document draft.document) = Query.check (.draft draft) := by
  show Query.check.withMethod draft.methodJson (Request.read draft.document) = _
  rw [read_document]
  rfl

end Draft

/-! ### The request of a chain of calls -/

/-- The request says what calls on a draft for a table say, in their order. -/
structure Request.Tells (request : Request) (table : Json) (calls : List Call) : Prop where
  table : .string request.table = table
  method : request.method = (Call.latest Call.write? calls).getD .select
  columns : Json.ofOption .string request.columns = (Call.latest Call.columns? calls).getD .null
  body : request.body.document = ((Call.latest Call.body? calls).getD .null).settled
  /-- Where no record has a name twice, the body is what was given. -/
  given : (∀ record ∈ ((Call.latest Call.body? calls).getD .null).records,
      (record.map (·.1)).Nodup) →
    request.body.document = (Call.latest Call.body? calls).getD .null
  filters : request.filters = calls.filterMap Call.filter?
  order : request.order = calls.filterMap Call.term?
  limit : nullable positive ((Call.latest Call.limit? calls).getD .null) = .ok request.limit
  single : request.single = true ↔ Call.single ∈ calls
  maybeSingle : request.maybeSingle = true ↔ Call.maybeSingle ∈ calls

/-- A draft that is accepted has a method. -/
theorem Draft.method_of_check {draft : Draft} {method : Method} {name : String}
    (h : (Method.read draft.methodJson).within name = .ok method) :
    draft.method.getD .select = method := by
  have named := Method.read_eq_ok_iff.mp (within_eq_ok_iff.mp h)
  rw [methodJson] at named
  rcases kept : draft.method with _ | chosen
  · rw [kept] at named
    cases named
  · rw [kept] at named
    have same : Method.ofJson? (.string chosen.word) = some chosen :=
      Method.ofJson?_eq_some_iff.mpr rfl
    exact Option.some.inj (same.symm.trans named)

theorem Draft.tells_of_check {table : Json} {calls : List Call} {draft : Draft} {request : Request}
    (follows : Follows (start table) draft calls) (h : draft.check = .ok request) :
    request.Tells table calls := by
  obtain ⟨named, method, columns, body, filters, order, limit, single, maybeSingle⟩ :=
    Request.mk_eq_ok_iff.mp h
  have told := (Body.document_of_read (within_eq_ok_iff.mp body)).trans
    (congrArg Json.settled follows.body)
  exact {
    table := (nonEmptyString_exact _ _ (within_eq_ok_iff.mp named)).trans follows.table
    method := (method_of_check method).symm.trans follows.method
    columns := (string_exact.nullable _ _ (within_eq_ok_iff.mp columns)).trans follows.columns
    body := told
    given := fun distinct => told.trans (Json.settled_of_nodup distinct)
    filters := (Checked.ok.inj filters).symm.trans follows.filters
    order := (Checked.ok.inj order).symm.trans follows.order
    limit := follows.limit ▸ within_eq_ok_iff.mp limit
    single := by simp [← Checked.ok.inj single, follows.single, start]
    maybeSingle := by simp [← Checked.ok.inj maybeSingle, follows.maybeSingle, start] }

/-- **A chain of calls, its document and its request are one query.** A draft and its document are
read alike, and the request is valid and says what the calls say. And a request is its own normal
form: what is read as a request is valid and written down as a document that is read as the same
request. In every form the query has the same answer and leaves the same world. -/
theorem Query.forms_agree :
    (∀ (table : Json) (calls : List Call) (draft : Draft),
      (Draft.start table).applyAll calls = .ok draft →
        Request.read draft.document = draft.check ∧
        (∀ request, draft.check = .ok request → request.Valid ∧ request.Tells table calls) ∧
        ∀ {σ : Type} (engine : Engine σ) (sources : Sources) (schema : Schema) (world : World σ),
          execute engine sources schema (.draft draft) world =
            execute engine sources schema (.document draft.document) world) ∧
    ∀ (fields : Fields) (request : Request), Request.read (.object fields) = .ok request →
      request.Valid ∧ Request.read request.document = .ok request ∧
      ∀ {σ : Type} (engine : Engine σ) (sources : Sources) (schema : Schema) (world : World σ),
        execute engine sources schema (.document (.object fields)) world =
            execute engine sources schema (.document request.document) world ∧
          execute engine sources schema (.document (.object fields)) world =
            execute engine sources schema (.request request) world := by
  refine ⟨fun table calls draft called => ⟨draft.read_document, ?_, ?_⟩,
    fun fields request read =>
      ⟨Request.valid_of_read read, Request.read_document_of_read read, ?_⟩⟩
  · intro request accepted
    refine ⟨Request.valid_of_read (draft.read_document.trans accepted), ?_⟩
    exact Draft.tells_of_check (Draft.follows_of_applyAll called) accepted
  · intro σ engine sources schema world
    rw [execute, execute, draft.check_document]
  · intro σ engine sources schema world
    refine ⟨execute_document_of_read engine sources schema read world, ?_⟩
    rw [execute, check_of_read read]
    rfl

/-- An insert whose row is asked for, with a filter and a limit given leniently. -/
theorem Query.forms_agree_insert :
    let calls : List Call := [.select (.string "id"),
      .isNull (.string "father_id") (.string "NULL"),
      .insert (.object [("display_name", .string "An")]), .order (.string "id") (.bool true),
      .limit (.string "2"), .select (.string "*"), .single]
    ∃ draft request, (Draft.start (.string "people")).applyAll calls = .ok draft ∧
      draft.check = .ok request ∧ request.method = .insert ∧ request.columns = some "*" ∧
      request.filters = [.isNull "father_id"] ∧ request.limit = some 2 ∧
      Request.read draft.document = .ok request ∧
      Request.read request.document = .ok request := by
  intro calls
  refine ⟨_, _, rfl, rfl, rfl, rfl, rfl, rfl, ?_⟩
  have read := (forms_agree.1 (.string "people") calls _ rfl).1
  exact ⟨read, (forms_agree.2 _ _ read).2.1⟩

end RowQuery
