import RowQuery.Proofs.Execution.Trace

/-!
# Values and statements

Values have no influence on the texts of statements. Two requests that differ in values only have
the same texts run, commits included, whatever the values, the clocks and the identifiers are.

* `Event.outline` is an event without its parameters.
* `Run.Agree` relates two computations whose transcripts have the same outlines as long as the
  scripts are the same. It is put together as computations are (`Run.Agree.bind`).
* `Filter.Alike` and `Request.Alike` relate filters and requests that differ in values only.
* `Execution.outline_eq_of_alike` — the transcripts of such requests have the same outline.

## Design notes

Both runs see the same replies, so they stop at the same place if they do. What one of them draws
the other one need not: a record with an identifier of its own takes none.
-/

namespace RowQuery

/-- An event without the parameters of a statement. -/
def Event.outline : Event → Event
  | statement text _ => statement text []
  | event => event

/-- A transcript without the parameters of its statements. -/
def Transcript.outline (transcript : Transcript) : Transcript :=
  { transcript with events := transcript.events.map Event.outline }

namespace Run

variable {α β γ δ : Type}

/-- How two outcomes stand to each other: both are faults, or both are values that are related. -/
def Outcomes (related : α → β → Prop) : Except Fault α → Except Fault β → Prop
  | .ok a, .ok b => related a b
  | .error fault, .error other => fault = other
  | _, _ => False

/-- Two computations keep outlines equal, and their outcomes are related. -/
def Agree (related : α → β → Prop) (run : Run Transcript α) (other : Run Transcript β) : Prop :=
  ∀ world world', world.state.outline = world'.state.outline →
    (run world).2.state.outline = (other world').2.state.outline ∧
      Outcomes related (run world).1 (other world').1

namespace Agree

variable {first : Run Transcript α} {other : Run Transcript β} {next : α → Run Transcript γ}
  {next' : β → Run Transcript δ} {related : α → β → Prop} {later : γ → δ → Prop}

protected theorem pure {a : α} {b : β} (h : related a b) : Agree related (pure a) (pure b) :=
  fun _ _ same => ⟨same, h⟩

protected theorem bind (h : Agree related first other)
    (h' : ∀ a b, related a b → Agree later (next a) (next' b)) :
    Agree later (first >>= next) (other >>= next') := by
  intro world world' same
  obtain ⟨between, outcomes⟩ := h world world' same
  rw [bind_apply, bind_apply]
  rcases ran : first world with ⟨outcome, state⟩
  rcases ran' : other world' with ⟨outcome', state'⟩
  rw [ran, ran'] at between outcomes
  cases outcome with
  | ok a =>
    cases outcome' with
    | ok b => exact h' a b outcomes state state' between
    | error fault => exact outcomes.elim
  | error fault =>
    cases outcome' with
    | ok b => exact outcomes.elim
    | error fault' =>
      -- Both stop, and with the same fault.
      exact ⟨between, outcomes⟩

/-- What leaves the engine alone may differ in what it draws. -/
theorem of_silent {yields : α → Prop} {yields' : β → Prop} (h : Silent first yields)
    (h' : Silent other yields') (relate : ∀ a b, yields a → yields' b → related a b) :
    Agree related first other := by
  intro world world' same
  obtain ⟨state, a, outcome, yielded⟩ := h world
  obtain ⟨state', b, outcome', yielded'⟩ := h' world'
  rw [state, state', outcome, outcome']
  exact ⟨same, relate a b yielded yielded'⟩

end Agree

/-! ### The operations of an engine -/

section Operations

variable {statement other : Sql.Statement}

/-- The reply to a statement depends on the script alone. -/
theorem query_agree (text : statement.text = other.text) :
    Agree (· = ·) (query Transcript.engine statement) (query Transcript.engine other) := by
  rintro ⟨⟨script, registered, inTransaction, openCursors, events⟩, draws⟩
    ⟨⟨script', registered', inTransaction', openCursors', events'⟩, draws'⟩ same
  obtain ⟨rfl, rfl, rfl, rfl, listed⟩ := Transcript.mk.inj same
  -- Apart from the events the two states are the same, and so is the next reply.
  have listed' : (events ++ [Event.statement statement.text statement.params]).map Event.outline =
      (events' ++ [Event.statement other.text other.params]).map Event.outline := by
    rw [List.map_append, List.map_append, listed]
    show _ ++ [Event.statement statement.text []] = _ ++ [Event.statement other.text []]
    rw [text]
  rcases script with _ | ⟨_ | _, _⟩ <;>
    exact ⟨congrArg (Transcript.mk _ _ _ _) listed', rfl⟩

/-- Whether there is a commit depends on the transaction alone. -/
theorem change_agree :
    Agree (fun _ _ => True)
      (change fun state : Transcript =>
        if state.inTransaction then Transcript.engine.commit state else state)
      (change fun state : Transcript =>
        if state.inTransaction then Transcript.engine.commit state else state) := by
  rintro ⟨⟨script, registered, inTransaction, openCursors, events⟩, draws⟩
    ⟨⟨script', registered', inTransaction', openCursors', events'⟩, draws'⟩ same
  obtain ⟨rfl, rfl, rfl, rfl, listed⟩ := Transcript.mk.inj same
  cases inTransaction with
  | false => exact ⟨congrArg (Transcript.mk _ _ _ _) listed, trivial⟩
  | true =>
    have listed' : (events ++ [Event.commit]).map Event.outline =
        (events' ++ [Event.commit]).map Event.outline := by
      rw [List.map_append, List.map_append, listed]
    exact ⟨congrArg (Transcript.mk _ _ _ _) listed', trivial⟩

theorem write_agree (text : statement.text = other.text) :
    Agree (fun _ _ => True) (write Transcript.engine statement) (write Transcript.engine other) :=
  (query_agree text).bind fun _ _ _ => change_agree

end Operations

end Run

/-! ### Requests that differ in values only -/

/-- Whether two filters are the same but for their values: of a list the length counts, of a text
with alternatives the columns and comparisons in it. -/
def Filter.Alike : Filter → Filter → Prop
  | equals column _, equals column' _ => column = column'
  | oneOf column values, oneOf column' values' =>
    column = column' ∧ values.length = values'.length
  | isNull column, isNull column' => column = column'
  | matchesPattern column _, matchesPattern column' _ => column = column'
  | notNull column, notNull column' => column = column'
  | differs column word _, differs column' word' _ => column = column' ∧ word = word'
  | anyOf text, anyOf text' =>
    (Alternatives.parse text).map (fun term => (term.column, term.comparison)) =
      (Alternatives.parse text').map fun term => (term.column, term.comparison)
  | _, _ => False

/-- Whether two requests are the same but for the values in their filters and records and the
number in their limit. -/
structure Request.Alike (request other : Request) : Prop where
  method : request.method = other.method
  table : request.table = other.table
  columns : request.columns = other.columns
  order : request.order = other.order
  limit : request.limit.isNone = other.limit.isNone
  filters : List.Forall₂ Filter.Alike request.filters other.filters
  records : List.Forall₂ (fun record record' => Fields.names record = Fields.names record')
    request.records other.records

/-! ### Texts without values -/

namespace Sql

theorem whereChars_congr {conditions others : List Condition}
    (h : conditions.map Condition.chars = others.map Condition.chars) :
    whereChars conditions = whereChars others := by
  have empty : conditions.isEmpty = others.isEmpty := by
    rw [← List.isEmpty_map (f := Condition.chars), h, List.isEmpty_map]
  rw [whereChars, whereChars, h, empty]

/-- As many placeholders as there are items. -/
theorem map_placeholder_congr {α β : Type} {items : List α} {others : List β}
    (h : items.length = others.length) :
    (items.map fun _ => ['?']) = others.map fun _ => ['?'] := by
  rw [List.map_const', List.map_const', h]

end Sql

/-- Filters that differ in values only put conditions with the same text, or none both. -/
theorem Filter.Alike.chars_eq {schema : Schema} {table : String} {filter other : Filter}
    (h : filter.Alike other) :
    (filter.condition? schema table).map Sql.Condition.chars =
      (other.condition? schema table).map Sql.Condition.chars := by
  cases filter with
  | equals column value =>
    cases other with
    | equals column' value' =>
      obtain rfl : column = column' := h
      rfl
    | _ => exact h.elim
  | oneOf column values =>
    cases other with
    | oneOf column' values' =>
      obtain ⟨rfl, length⟩ := h
      cases values with
      | nil =>
        cases values' with
        | nil => rfl
        | cons => cases length
      | cons value more =>
        cases values' with
        | nil => cases length
        | cons value' more' =>
          show some (Sql.Condition.oneOf column ((value :: more).map _)).chars =
            some (Sql.Condition.oneOf column ((value' :: more').map _)).chars
          rw [Sql.Condition.chars, Sql.Condition.chars, Sql.map_placeholder_congr]
          rw [List.length_map, List.length_map, length]
    | _ => exact h.elim
  | isNull column =>
    cases other with
    | isNull column' =>
      obtain rfl : column = column' := h
      rfl
    | _ => exact h.elim
  | matchesPattern column pattern =>
    cases other with
    | matchesPattern column' pattern' =>
      obtain rfl : column = column' := h
      rfl
    | _ => exact h.elim
  | notNull column =>
    cases other with
    | notNull column' =>
      obtain rfl : column = column' := h
      rfl
    | _ => exact h.elim
  | differs column word value =>
    cases other with
    | differs column' word' value' =>
      obtain ⟨rfl, rfl⟩ := h
      rfl
    | _ => exact h.elim
  | anyOf text =>
    cases other with
    | anyOf text' =>
      -- The text of an alternative is made of its column and its comparison.
      have chars (alternatives : List Alternative) :
          ((alternatives.map fun alternative => (⟨alternative.column, alternative.comparison,
            .string alternative.value⟩ : Sql.Term)).map Sql.Term.chars) =
          (alternatives.map fun term => (term.column, term.comparison)).map fun pair =>
            Sql.Term.chars ⟨pair.1, pair.2, .null⟩ := by
        rw [List.map_map, List.map_map]
        rfl
      have parsed : (Alternatives.parse text).map (fun term => (term.column, term.comparison)) =
        (Alternatives.parse text').map fun term => (term.column, term.comparison) := h
      rw [condition?, condition?]
      generalize Alternatives.parse text = alternatives at parsed
      generalize Alternatives.parse text' = alternatives' at parsed
      cases alternatives with
      | nil =>
        cases alternatives' with
        | nil => rfl
        | cons => cases parsed
      | cons first more =>
        cases alternatives' with
        | nil => cases parsed
        | cons first' more' =>
          show some (Sql.Condition.anyOf _).chars = some (Sql.Condition.anyOf _).chars
          rw [Sql.Condition.chars, Sql.Condition.chars, chars, chars, parsed]
    | _ => exact h.elim

theorem Filter.chars_conditions {schema : Schema} {table : String} {filters others : List Filter}
    (h : List.Forall₂ Filter.Alike filters others) :
    (conditions schema table filters).map Sql.Condition.chars =
      (conditions schema table others).map Sql.Condition.chars := by
  rw [conditions, conditions, List.map_filterMap, List.map_filterMap]
  induction h with
  | nil => rfl
  | cons alike _ ih => rw [List.filterMap_cons, List.filterMap_cons, alike.chars_eq, ih]

namespace Request.Alike

variable {request other : Request}

/-- The restrictions have the same text. -/
theorem whereChars_eq (h : request.Alike other) (schema : Schema) :
    Sql.whereChars (Execution.conditions schema request) =
      Sql.whereChars (Execution.conditions schema other) := by
  rw [Execution.conditions, Execution.conditions, h.table]
  exact Sql.whereChars_congr (Filter.chars_conditions h.filters)

theorem projection_eq (h : request.Alike other) :
    Execution.projection request = Execution.projection other := by
  rw [Execution.projection, Execution.projection, h.columns]

theorem wantsRows_eq (h : request.Alike other) : request.wantsRows = other.wantsRows := by
  rw [Request.wantsRows, Request.wantsRows, h.columns]

theorem firstRecord_names (h : request.Alike other) :
    Fields.names request.firstRecord = Fields.names other.firstRecord := by
  have records := h.records
  rw [Request.firstRecord, Request.firstRecord]
  generalize request.records = listed at records
  generalize other.records = listed' at records
  cases records with
  | nil => rfl
  | cons same _ => exact same

end Request.Alike

/-! ### Two runs -/

namespace Execution

open Run (Agree)

variable {schema : Schema} {request other : Request} (sources sources' : Sources)

theorem text_congr {statement statement' : Sql.Statement}
    (h : statement.chars = statement'.chars) : statement.text = statement'.text := by
  rw [Sql.Statement.text, h, ← Sql.Statement.text]

/-- The text of a statement that reads rows. -/
theorem select_text {projection : Sql.Projection} {table : String}
    {read read' : List Sql.Condition} (order : List OrderTerm) {limit limit' : Option Int}
    (restriction : Sql.whereChars read = Sql.whereChars read')
    (limited : limit.isNone = limit'.isNone) :
    (Sql.Statement.select projection table read order limit).text =
      (Sql.Statement.select projection table read' order limit').text := by
  refine text_congr ?_
  unfold Sql.Statement.chars
  dsimp only
  rw [restriction, limited]

/-- The text of an insert knows the names of the fields only. -/
theorem insert_text {fields fields' : Fields} (table : String)
    (names : Fields.names fields = Fields.names fields') :
    (Sql.Statement.insert table fields).text = (Sql.Statement.insert table fields').text := by
  have listed : (fields.map fun field => Sql.nameChars field.1) =
      fields'.map fun field => Sql.nameChars field.1 := by
    rw [← Fields.map_names, ← Fields.map_names, names]
  have length : fields.length = fields'.length := by
    rw [← Fields.length_names, names, Fields.length_names]
  refine text_congr ?_
  unfold Sql.Statement.chars
  dsimp only
  rw [listed, Sql.map_placeholder_congr length]

/-- The text of an update knows the names of the fields only. -/
theorem update_text {fields fields' : Fields} {conditions conditions' : List Sql.Condition}
    (table : String) (names : Fields.names fields = Fields.names fields')
    (restriction : Sql.whereChars conditions = Sql.whereChars conditions') :
    (Sql.Statement.update table fields conditions).text =
      (Sql.Statement.update table fields' conditions').text := by
  have settings : (fields.map fun field => Sql.nameChars field.1 ++ " = ?".toList) =
      fields'.map fun field => Sql.nameChars field.1 ++ " = ?".toList := by
    rw [← Fields.map_names fun name => Sql.nameChars name ++ " = ?".toList,
      ← Fields.map_names fun name => Sql.nameChars name ++ " = ?".toList, names]
  refine text_congr ?_
  unfold Sql.Statement.chars
  dsimp only
  rw [settings, restriction]

/-- Reads with the same text yield the same rows. -/
theorem fetch_agree (table : String) {statement statement' : Sql.Statement}
    (text : statement.text = statement'.text) :
    Agree (· = ·) (fetch Transcript.engine schema table statement)
      (fetch Transcript.engine schema table statement') := by
  refine (Run.query_agree text).bind ?_
  rintro reply _ rfl
  exact .pure rfl

/-- Two records with the same names are written by the same text and read back by the same text. -/
theorem insertRecord_agree (h : request.Alike other) {record record' : Fields}
    (names : Fields.names record = Fields.names record') :
    Agree (fun _ _ => True)
      (insertRecord Transcript.engine sources schema request record)
      (insertRecord Transcript.engine sources' schema other record') := by
  rw [insertRecord, insertRecord, h.table]
  -- One record may draw an identifier where the other one brings its own.
  have identified : Agree (fun fields fields' => Fields.names fields = Fields.names fields')
      (identify sources ((schema.traits other.table).toStorage record))
      (identify sources' ((schema.traits other.table).toStorage record')) := by
    refine .of_silent (identify_silent sources _) (identify_silent sources' _) ?_
    rintro _ _ ⟨identifier, rfl⟩ ⟨identifier', rfl⟩
    rw [names_fill, names_fill, names_toStorage, names_toStorage, names]
  have drawn : Agree (fun _ _ => True) (Run.instant sources) (Run.instant sources') :=
    .of_silent (Run.instant_silent sources) (Run.instant_silent sources') fun _ _ _ _ => trivial
  refine identified.bind fun fields fields' same => drawn.bind fun now now' _ => ?_
  have stamped : Fields.names (stamp (schema.traits other.table) now fields) =
      Fields.names (stamp (schema.traits other.table) now' fields') := by
    rw [names_stamp, names_stamp, same]
  refine (Run.write_agree (insert_text other.table stamped)).bind fun _ _ _ => ?_
  rw [h.wantsRows_eq]
  by_cases wanted : other.wantsRows
  · rw [if_pos wanted, if_pos wanted]
    refine (fetch_agree other.table ?_).bind fun _ _ _ => .pure trivial
    rw [rereadStatement, rereadStatement, h.projection_eq, h.table]
    exact select_text [] rfl rfl
  · rw [if_neg wanted, if_neg wanted]
    exact .pure trivial

/-- Record by record, two inserts run the same texts; where one stops, so does the other. -/
theorem insertRecords_agree (h : request.Alike other) {records records' : List Fields}
    (each : List.Forall₂ (fun record record' => Fields.names record = Fields.names record')
      records records') :
    Agree (fun _ _ => True)
      (insertRecords Transcript.engine sources schema request records)
      (insertRecords Transcript.engine sources' schema other records') := by
  induction each with
  | nil => exact .pure trivial
  | cons names _ ih =>
    exact (insertRecord_agree sources sources' h names).bind fun _ _ _ =>
      ih.bind fun _ _ _ => .pure trivial

theorem update_agree (h : request.Alike other) :
    Agree (fun _ _ => True) (update Transcript.engine sources schema request)
      (update Transcript.engine sources' schema other) := by
  have changed : Agree (fun values values' => Fields.names values = Fields.names values')
      (changes sources schema request) (changes sources' schema other) := by
    refine .of_silent (changes_silent sources schema request)
      (changes_silent sources' schema other) ?_
    rintro _ _ ⟨now, rfl⟩ ⟨now', rfl⟩
    rw [names_changedRecord, names_changedRecord, h.table, h.firstRecord_names]
  refine changed.bind fun values values' names => ?_
  have empty : values.isEmpty = values'.isEmpty := by
    rw [← Fields.isEmpty_names, names, Fields.isEmpty_names]
  rw [empty]
  by_cases nothing : values'.isEmpty
  · rw [if_pos nothing, if_pos nothing]
    exact .pure trivial
  · rw [if_neg nothing, if_neg nothing, h.table, h.wantsRows_eq]
    refine (Run.write_agree (update_text other.table names (h.whereChars_eq schema))).bind
      fun _ _ _ => ?_
    by_cases wanted : other.wantsRows
    · rw [if_pos wanted, if_pos wanted, h.projection_eq]
      exact (fetch_agree other.table (select_text [] (h.whereChars_eq schema) rfl)).bind
        fun _ _ _ => .pure trivial
    · rw [if_neg wanted, if_neg wanted]
      exact .pure trivial

/-- **The answers to requests that differ in values only run the same texts.** -/
theorem respond_agree (schema : Schema) (h : request.Alike other) :
    Agree (fun _ _ => True) (respond Transcript.engine sources schema request)
      (respond Transcript.engine sources' schema other) := by
  rw [respond, respond, h.method]
  cases other.method with
  | select =>
    have text : (selectStatement schema request).text = (selectStatement schema other).text := by
      rw [selectStatement, selectStatement, h.projection_eq, h.table, h.order]
      exact select_text _ (h.whereChars_eq schema) h.limit
    have rows : Agree (· = ·) (fetch Transcript.engine schema other.table _)
        (fetch Transcript.engine schema other.table _) := fetch_agree other.table text
    show Agree _ (fetch Transcript.engine schema request.table _ >>= _) _
    rw [h.table]
    exact rows.bind fun _ _ _ => .pure trivial
  | insert =>
    exact (insertRecords_agree sources sources' h h.records).bind fun _ _ _ => .pure trivial
  | update => exact update_agree sources sources' h
  | delete =>
    have text : (Sql.Statement.delete request.table (conditions schema request)).text =
        (Sql.Statement.delete other.table (conditions schema other)).text := by
      refine text_congr ?_
      unfold Sql.Statement.chars
      dsimp only
      rw [h.table, h.whereChars_eq schema]
    exact (Run.write_agree text).bind fun _ _ _ => .pure trivial

/-- **Values have no influence on statements.** Two queries whose requests differ in values only
leave transcripts with the same texts and the same commits, on the same script. -/
theorem outline_eq_of_alike (schema : Schema) (sources sources' : Sources) (query query' : Query)
    (request other : Request) (script : List ScriptedReply) (registered : Bool)
    (draws draws' : Draws) (checked : query.check = .ok request)
    (checked' : query'.check = .ok other) (alike : request.Alike other) :
    (transcript sources schema query script registered draws).map Event.outline =
      (transcript sources' schema query' script registered draws').map Event.outline := by
  rw [transcript_eq sources schema request checked, transcript_eq sources' schema other checked']
  have same := respond_agree sources sources' schema alike
    ⟨Transcript.engine.prepare (Transcript.start script registered), draws⟩
    ⟨Transcript.engine.prepare (Transcript.start script registered), draws'⟩ rfl
  exact congrArg Transcript.events same.1

/-- A request to insert two members, with values of its own. -/
def memberInsert (id name created : Json) (year : Json) : Request where
  table := "members"
  method := .insert
  columns := some "id, name"
  body := .records [.ofPairs [("id", id), ("name", name)],
    .ofPairs [("name", year), ("created_at", created)]]
  filters := [.oneOf "id" [id, name], .anyOf "name.eq.An, id.gt.1"]
  order := []
  limit := none
  single := false
  maybeSingle := false

theorem outline_eq_memberInsert :
    (transcript (.steady 0 1) ⟨[]⟩
        (.request (memberInsert .null (.string "An") (.bool false) (.integer 1900)))
        [.rows ⟨[], []⟩ (some true)] true Draws.none).map Event.outline =
      (transcript (.steady 7 0) ⟨[]⟩
        (.request (memberInsert (.string "P\" = ?") (.array []) (.string "now") (.string "?")))
        [.rows ⟨[], []⟩ (some true)] true ⟨3, 5⟩).map Event.outline :=
  outline_eq_of_alike _ _ _ _ _ _ _ _ _ _ _ rfl rfl
    { method := rfl, table := rfl, columns := rfl, order := rfl, limit := rfl
      filters := .cons ⟨rfl, rfl⟩ (.cons rfl .nil)
      records := .cons rfl (.cons rfl .nil) }

end Execution

end RowQuery
