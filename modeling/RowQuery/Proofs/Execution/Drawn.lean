import Mathlib.Data.Set.Function
import RowQuery.Proofs.Clock.Identifier
import RowQuery.Proofs.Execution.Faultless
import RowQuery.Proofs.Execution.Statements
import RowQuery.Proofs.Execution.Supplied
import RowQuery.Proofs.Json.Fields

/-!
# What inserts fill in and draw

An insert gives to each record what it lacks. A batch of them draws one instant for each record, and
an identifier for each record without one.

* `Execution.completed` is a record with what it lacked, column by column;
  `Execution.storedRecord_eq` — that is what an insert stores.
* `Execution.drawnAfter` is what has been drawn after some records, and `Execution.completedRecords`
  are the records of an insert, each completed with what is drawn for it.
* `Run.Ends` says how a computation on a script without faults ends: what has been drawn then, and
  which statements have been given to the engine.
* `inserts_completed_records` — the statements of an insert, and what it has drawn.

## Design notes

An insert fills in one value after the other. Here the values are told at once: what replaces a
value keeps its place, and what is new comes at the end. The two are the same since the names of
what is filled in differ, and since no name of the record repeats.
-/

namespace RowQuery

namespace Execution

open Fields (names)

/-! ### Records that are completed -/

variable {fields record : Fields} {name : String} {value : Json}

/-- A field that is given one of the supplies if its value counts as false. -/
def supplied (supplies : Fields) (field : String × Json) : String × Json :=
  (field.1, if field.2.truthy then field.2 else (Fields.get? supplies field.1).getD field.2)

/-- What an insert has ready for a record. -/
def supplies (traits : Traits) (identifier : String) (now : Instant) : Fields :=
  ("id", .string identifier) :: ("created_at", .string now.text) ::
    if traits.stamped then [(stampColumn, .string now.text)] else []

/-- A record with what it lacked: the stored values of its columns, in their order, some of which
counted as false and are replaced, and then the columns that it did not have. -/
def completed (traits : Traits) (record : Fields) (identifier : String) (now : Instant) : Fields :=
  (traits.toStorage record).map (supplied (supplies traits identifier now)) ++
    (supplies traits identifier now).filter fun supply => supply.1 ∉ names record

theorem supplied_of_not_mem {stock : Fields} {field : String × Json}
    (absent : field.1 ∉ names stock) : supplied stock field = field := by
  have none : Fields.get? stock field.1 = none := by
    refine Option.map_eq_none_iff.mpr (List.find?_eq_none.mpr fun other mem same => absent ?_)
    exact of_decide_eq_true same ▸ List.mem_map_of_mem mem
  rw [supplied, none, Option.getD_none, ite_self]

theorem fill_cons_of_eq (rest : Fields) (old : Json) :
    fill ((name, old) :: rest) name value =
      (name, if old.truthy then old else value) :: rest := by
  have found : Fields.get? ((name, old) :: rest) name = some old := by simp [Fields.get?]
  rw [fill, hasValue, found, Fields.put, if_pos rfl]
  show (if old.truthy = true then _ else _) = _
  split <;> rfl

theorem fill_cons_of_ne {other : String} (differ : other ≠ name) (rest : Fields) (old : Json) :
    fill ((other, old) :: rest) name value = (other, old) :: fill rest name value := by
  have found : Fields.get? ((other, old) :: rest) name = Fields.get? rest name := by
    simp [Fields.get?, differ]
  rw [fill, fill, hasValue, hasValue, found, Fields.put, if_neg differ]
  split <;> rfl

/-- One supply takes the place of a value that counts as false, or else comes at the end. -/
theorem fill_eq (distinct : (names fields).Nodup) (name : String) (value : Json) :
    fill fields name value = fields.map (supplied [(name, value)]) ++
      [(name, value)].filter fun supply => supply.1 ∉ names fields := by
  induction fields with
  | nil => rfl
  | cons field rest ih =>
    obtain ⟨other, old⟩ := field
    obtain ⟨fresh, distinct⟩ := List.nodup_cons.mp distinct
    by_cases same : other = name
    · subst same
      -- The name does not come again, so the rest is as it was.
      have kept : rest.map (supplied [(other, value)]) = rest := by
        refine (List.map_congr_left fun field mem => ?_).trans (List.map_id _)
        refine supplied_of_not_mem fun here => fresh ?_
        rw [← List.mem_singleton.mp here]
        exact List.mem_map_of_mem mem
      rw [fill_cons_of_eq, List.map_cons, kept]
      simp [supplied, names, Fields.get?]
    · have untouched : supplied [(name, value)] (other, old) = (other, old) :=
        supplied_of_not_mem fun here => same (List.mem_singleton.mp here)
      have lacks : name ∉ names ((other, old) :: rest) ↔ name ∉ names rest := by
        simp [names, Ne.symm same]
      rw [fill_cons_of_ne same, ih distinct, List.map_cons, untouched, List.cons_append]
      refine congrArg (fun last => _ :: (_ ++ last)) (List.filter_congr fun supply mem => ?_)
      rw [List.mem_singleton.mp mem]
      exact decide_eq_decide.mpr lacks.symm

/-- A field that is given one of many supplies. -/
theorem supplied_cons {supply : String × Json} {rest : Fields} (fresh : supply.1 ∉ names rest)
    (field : String × Json) :
    supplied rest (supplied [supply] field) = supplied (supply :: rest) field := by
  by_cases same : field.1 = supply.1
  · have found (others : Fields) : Fields.get? (supply :: others) field.1 = some supply.2 := by
      simp [Fields.get?, same]
    have first (others : Fields) : supplied (supply :: others) field =
        (field.1, if field.2.truthy then field.2 else supply.2) := by
      rw [supplied, found]
      rfl
    rw [first, first]
    exact supplied_of_not_mem (same ▸ fresh)
  · have untouched : supplied [supply] field = field :=
      supplied_of_not_mem fun here => same (List.mem_singleton.mp here)
    have other : Fields.get? (supply :: rest) field.1 = Fields.get? rest field.1 := by
      simp [Fields.get?, Ne.symm same]
    rw [untouched, supplied, supplied, other]

/-- Supplies under different names take the places of values that count as false, and those that are
left come at the end. -/
theorem foldl_fill {stock : Fields} (apart : (names stock).Nodup)
    (distinct : (names fields).Nodup) :
    stock.foldl (fun fields supply => fill fields supply.1 supply.2) fields =
      fields.map (supplied stock) ++ stock.filter fun supply => supply.1 ∉ names fields := by
  induction stock generalizing fields with
  | nil =>
    have kept : fields.map (supplied []) = fields :=
      (List.map_congr_left fun _ _ => supplied_of_not_mem List.not_mem_nil).trans (List.map_id _)
    rw [kept]
    exact (List.append_nil _).symm
  | cons supply rest ih =>
    obtain ⟨fresh, apart⟩ := List.nodup_cons.mp apart
    -- The supplies to come have other names, so what has been filled in does not matter to them.
    have lacking : rest.filter (fun other => other.1 ∉ names (fill fields supply.1 supply.2)) =
        rest.filter fun other => other.1 ∉ names fields := by
      refine List.filter_congr fun other mem => decide_eq_decide.mpr (not_congr ?_)
      rw [names_fill, Fields.mem_addName_iff]
      exact or_iff_left fun same => fresh (List.mem_map.mpr ⟨other, mem, same⟩)
    have last : ([supply].filter fun supply => supply.1 ∉ names fields).map (supplied rest) =
        [supply].filter fun supply => supply.1 ∉ names fields := by
      refine (List.map_congr_left fun other mem => ?_).trans (List.map_id _)
      rw [List.mem_singleton.mp (List.mem_of_mem_filter mem)]
      exact supplied_of_not_mem fresh
    have distinct' : (names (fill fields supply.1 supply.2)).Nodup := by
      rw [names_fill]
      exact Fields.nodup_addName distinct supply.1
    rw [List.foldl_cons, ih apart distinct', lacking, fill_eq distinct,
      List.map_append, last, List.map_map, List.append_assoc, ← List.filter_append]
    exact congrArg (· ++ _) (List.map_congr_left fun field _ => supplied_cons fresh field)

/-- **What an insert stores for a record** is the record with what it lacked. -/
theorem storedRecord_eq (traits : Traits) (distinct : (names record).Nodup) (identifier : String)
    (now : Instant) :
    storedRecord traits record identifier now = completed traits record identifier now := by
  have folds : storedRecord traits record identifier now =
      (supplies traits identifier now).foldl (fun fields supply => fill fields supply.1 supply.2)
        (traits.toStorage record) := by
    rw [storedRecord, stamp, supplies]
    split <;> rfl
  have apart : (names (supplies traits identifier now)).Nodup := by
    rw [supplies]
    split <;> simp [names, stampColumn]
  rw [folds, foldl_fill apart ((names_toStorage traits record).symm ▸ distinct), completed,
    names_toStorage]

end Execution

/-! ### Computations that come to their end -/

namespace Run

variable {α β : Type} {first : Run Transcript α} {next : α → Run Transcript β}
  {world : World Transcript} {draws drawn : Draws} {before after : List Sql.Statement}

/-- From a world without faults to come, a computation comes to its end. So much has been drawn
then, and these statements have been given to the engine. -/
def Ends (run : Run Transcript α) (world : World Transcript) (drawn : Draws)
    (statements : List Sql.Statement) : Prop :=
  ScriptedReply.Faultless world.state.script →
    ∃ a later, run world = (.ok a, later) ∧ ScriptedReply.Faultless later.state.script ∧
      later.draws = drawn ∧
      Event.given later.state.events =
        Event.given world.state.events ++ statements.map (·.given)

namespace Ends

protected theorem pure (a : α) : Ends (pure a) world world.draws [] :=
  fun faultless => ⟨a, world, rfl, faultless, rfl, (List.append_nil _).symm⟩

protected theorem bind (front : Ends first world draws before)
    (rest : ∀ a later, later.draws = draws → Ends (next a) later drawn after) :
    Ends (first >>= next) world drawn (before ++ after) := by
  intro faultless
  obtain ⟨a, between, ran, faultless', drew, given⟩ := front faultless
  obtain ⟨b, later, ran', faultless'', drew', given'⟩ := rest a between drew faultless'
  refine ⟨b, later, ?_, faultless'', drew', ?_⟩
  · rw [bind_apply, ran]
    exact ran'
  · rw [given', given, List.map_append, List.append_assoc]

/-- What is made of the result in the end does not matter. -/
theorem then_pure (front : Ends first world drawn before) (make : α → β) :
    Ends (first >>= fun a => pure (make a)) world drawn before := by
  rw [← List.append_nil before]
  refine front.bind fun a later drew => ?_
  rw [← drew]
  exact .pure (make a)

theorem query (statement : Sql.Statement) :
    Ends (query Transcript.engine statement) world world.draws [statement] := by
  intro faultless
  obtain ⟨reply, later, ran, faultless'⟩ :=
    query_completes Transcript.engine_faultless statement world faultless
  have given := congrArg Event.given (query_events statement world)
  have drew : (Run.query Transcript.engine statement world).2.draws = world.draws := rfl
  rw [Event.given_append] at given
  rw [ran] at given drew
  exact ⟨reply, later, ran, faultless', drew, given⟩

theorem settle : Ends (settle Transcript.engine) world world.draws [] := by
  intro faultless
  obtain ⟨done, later, ran, faultless'⟩ :=
    settle_completes Transcript.engine_faultless world faultless
  have followed : Follows (Run.settle Transcript.engine) fun _ statements => statements = [] :=
    change_follows
  have drew : (Run.settle Transcript.engine world).2.draws = world.draws := rfl
  obtain ⟨events, appended, given⟩ := followed world
  rw [ran] at drew appended given
  obtain ⟨_, rfl, none⟩ := given
  refine ⟨done, later, ran, faultless', drew, ?_⟩
  rw [appended, Event.given_append]
  exact congrArg _ none

theorem prepare : Ends (change Transcript.engine.prepare) world world.draws [] := by
  intro faultless
  refine ⟨(), _, rfl, Transcript.engine_faultless.prepare faultless, rfl, ?_⟩
  cases registered : world.state.registered <;>
    simp [Transcript.engine, Transcript.log, registered, Event.given, Event.given?]

theorem write (statement : Sql.Statement) :
    Ends (write Transcript.engine statement) world world.draws [statement] :=
  (query statement).bind fun _ _ drew => drew ▸ settle

end Ends

end Run

namespace Execution

open Fields (names)
open Run (Ends)

variable {record : Fields}

/-! ### What is drawn -/

/-- Whether an insert draws an identifier for a record: it has none, or its stored value counts as
false. -/
def lacksId (traits : Traits) (record : Fields) : Bool := !hasValue (traits.toStorage record) "id"

/-- What has been drawn after some records of an insert: an instant for each of them, and an
identifier for each that lacks one. -/
def drawnAfter (traits : Traits) (draws : Draws) (records : List Fields) : Draws :=
  ⟨draws.instants + records.length, draws.identifiers + records.countP (lacksId traits)⟩

/-- A record, completed with what is drawn next. -/
def completedNext (sources : Sources) (traits : Traits) (draws : Draws) (record : Fields) :
    Fields :=
  completed traits record (sources.identifier draws.identifiers) (sources.instant draws.instants)

/-- The records of an insert, each completed with what is drawn after the records before it. -/
def completedRecords (sources : Sources) (traits : Traits) (draws : Draws) (records : List Fields) :
    List Fields :=
  records.mapIdx fun k record =>
    completedNext sources traits (drawnAfter traits draws (records.take k)) record

section Drawing

variable (sources : Sources) (schema : Schema) (request : Request) {traits : Traits} {draws : Draws}

theorem drawnAfter_cons (rest : List Fields) :
    drawnAfter traits draws (record :: rest) =
      drawnAfter traits (drawnAfter traits draws [record]) rest := by
  simp only [drawnAfter, List.length_cons, List.length_nil, List.countP_cons, List.countP_nil,
    Draws.mk.injEq]
  omega

theorem completedRecords_cons (rest : List Fields) :
    completedRecords sources traits draws (record :: rest) =
      completedNext sources traits draws record ::
        completedRecords sources traits (drawnAfter traits draws [record]) rest := by
  rw [completedRecords, List.mapIdx_cons, completedRecords]
  refine congrArg _ (congrArg (fun next => List.mapIdx next rest) ?_)
  funext k record'
  rw [List.take_succ_cons, drawnAfter_cons]

/-- What an insert draws for one record. -/
theorem filled_draws {σ : Type} (record : Fields) (world : World σ) :
    (filled sources schema request record world).2.draws =
      drawnAfter (schema.traits request.table) world.draws [record] := by
  have run : filled sources schema request record world =
      (identify sources ((schema.traits request.table).toStorage record) >>= fun identified =>
        Run.instant sources >>= fun now =>
          pure (stamp (schema.traits request.table) now identified)) world := rfl
  rw [run, Run.bind_apply, identify, drawnAfter, List.countP_singleton, lacksId]
  by_cases present : hasValue ((schema.traits request.table).toStorage record) "id"
  · rw [if_pos present, present]
    rfl
  · rw [if_neg present, Bool.eq_false_of_not_eq_true present]
    rfl

/-- Runs the insert of a record that is complete, and reads back the row. -/
def storeRecord {σ : Type} (engine : Engine σ) (values : Fields) : Run σ (List Json) := do
  Run.write engine (.insert request.table values)
  if request.wantsRows then
    let id := (Fields.get? values "id").getD .null
    let rows ← fetch engine schema request.table (rereadStatement request id)
    return rows.take 1
  else return []

theorem insertRecord_eq {σ : Type} (engine : Engine σ) (record : Fields) :
    insertRecord engine sources schema request record =
      filled sources schema request record >>= storeRecord schema request engine := by
  simp only [insertRecord, filled, bind_assoc, pure_bind]
  rfl

theorem storeRecord_ends (values : Fields) (world : World Transcript) :
    Ends (storeRecord schema request Transcript.engine values) world world.draws
      (recordStatements request values) := by
  by_cases wanted : request.wantsRows
  · simp only [storeRecord, recordStatements, if_pos wanted]
    refine (Ends.write _).bind fun _ later drew => ?_
    rw [← drew]
    exact ((Ends.query _).then_pure _).then_pure _
  · simp only [storeRecord, recordStatements, if_neg wanted]
    exact (Ends.write _).then_pure _

/-- One record of an insert. -/
theorem insertRecord_ends (distinct : (names record).Nodup) (world : World Transcript) :
    Ends (insertRecord Transcript.engine sources schema request record) world
      (drawnAfter (schema.traits request.table) world.draws [record])
      (recordStatements request
        (completedNext sources (schema.traits request.table) world.draws record)) := by
  obtain ⟨draws, made⟩ := filled_apply sources schema request record world
  rw [storedRecord_eq _ distinct] at made
  have drew := filled_draws sources schema request record world
  rw [made] at drew
  rw [Ends, insertRecord_eq, Run.bind_apply, made, ← drew]
  exact storeRecord_ends schema request _ { world with draws }

/-- The records of an insert, one after the other. -/
theorem insertRecords_ends (records : List Fields)
    (distinct : ∀ record ∈ records, (names record).Nodup) (world : World Transcript) :
    Ends (insertRecords Transcript.engine sources schema request records) world
      (drawnAfter (schema.traits request.table) world.draws records)
      ((completedRecords sources (schema.traits request.table) world.draws records).flatMap
        (recordStatements request)) := by
  induction records generalizing world with
  | nil => exact .pure []
  | cons record rest ih =>
    obtain ⟨first, others⟩ := List.forall_mem_cons.mp distinct
    rw [completedRecords_cons, List.flatMap_cons, drawnAfter_cons]
    refine (insertRecord_ends sources schema request first world).bind fun rows later drew => ?_
    rw [← drew]
    exact (ih others later).then_pure _

theorem attend_ends (inserts : request.method = .insert)
    (distinct : ∀ record ∈ request.records, (names record).Nodup) (world : World Transcript) :
    Ends (attend Transcript.engine sources schema request) world
      (drawnAfter (schema.traits request.table) world.draws request.records)
      ((completedRecords sources (schema.traits request.table) world.draws
        request.records).flatMap (recordStatements request)) := by
  refine Ends.prepare.bind fun _ later drew => ?_
  rw [respond, inserts, ← drew]
  exact (insertRecords_ends sources schema request request.records distinct later).then_pure _

/-! ### What the records of an insert end up with -/

/-- The names of what an insert has ready for a record. -/
def suppliedNames (traits : Traits) : List String :=
  "id" :: "created_at" :: if traits.stamped then [stampColumn] else []

theorem names_supplies (identifier : String) (now : Instant) :
    names (supplies traits identifier now) = suppliedNames traits := by
  rw [supplies, suppliedNames]
  split <;> rfl

/-- The columns of a record keep their order, and those that it lacked come after them. -/
theorem names_completed (identifier : String) (now : Instant) :
    names (completed traits record identifier now) =
      names record ++ (suppliedNames traits).filter (· ∉ names record) := by
  have kept : names ((traits.toStorage record).map (supplied (supplies traits identifier now))) =
      names record := by
    rw [names, List.map_map]
    exact names_toStorage traits record
  have more : names ((supplies traits identifier now).filter (·.1 ∉ names record)) =
      (suppliedNames traits).filter (· ∉ names record) := by
    rw [← names_supplies identifier now]
    show _ = ((supplies traits identifier now).map (·.1)).filter (· ∉ names record)
    rw [List.filter_map]
    rfl
  rw [completed, names, List.map_append]
  exact congrArg₂ (· ++ ·) kept more

theorem nodup_names_completed (distinct : (names record).Nodup) (identifier : String)
    (now : Instant) : (names (completed traits record identifier now)).Nodup := by
  rw [names_completed]
  have apart : (suppliedNames traits).Nodup := by
    rw [suppliedNames]
    split <;> decide
  refine List.nodup_append.mpr ⟨distinct, apart.filter _, fun name mem other last same => ?_⟩
  have fresh : other ∉ names record := by simpa using List.of_mem_filter last
  exact fresh (same ▸ mem)

theorem exists_id_completed (identifier : String) (now : Instant) :
    ∃ id, Fields.get? (completed traits record identifier now) "id" = some id := by
  have mem : "id" ∈ names (completed traits record identifier now) := by
    rw [names_completed, List.mem_append, List.mem_filter]
    by_cases present : "id" ∈ names record
    · exact .inl present
    · exact .inr ⟨List.mem_cons_self, decide_eq_true present⟩
  obtain ⟨id, found, -⟩ := Fields.get?_mem_of_mem_names mem
  exact ⟨id, found⟩

/-- A record that lacked an identifier has the one that was drawn. -/
theorem get?_id_completed (distinct : (names record).Nodup) (lacks : lacksId traits record = true)
    (identifier : String) (now : Instant) :
    Fields.get? (completed traits record identifier now) "id" = some (.string identifier) := by
  rw [lacksId, hasValue_eq, Bool.not_eq_true'] at lacks
  rw [← storedRecord_eq traits distinct, get?_storedRecord]
  show orElse _ (.string identifier) = _
  rw [orElse, lacks]
  rfl

/-- The identifiers that are stored for the records that lacked one. -/
def freshIdentifiers (traits : Traits) (records stored : List Fields) : List (Option Json) :=
  ((records.zip stored).filter fun pair => lacksId traits pair.1).map fun pair =>
    Fields.get? pair.2 "id"

theorem freshIdentifiers_cons (fields : Fields) (rest stored : List Fields) :
    freshIdentifiers traits (record :: rest) (fields :: stored) =
      (if lacksId traits record then [Fields.get? fields "id"] else []) ++
        freshIdentifiers traits rest stored := by
  rw [freshIdentifiers, List.zip_cons_cons, List.filter_cons]
  split <;> rfl

/-- They are drawn one after the other. -/
theorem freshIdentifiers_eq (records : List Fields)
    (distinct : ∀ record ∈ records, (names record).Nodup) :
    freshIdentifiers traits records (completedRecords sources traits draws records) =
      (List.range' draws.identifiers (records.countP (lacksId traits))).map fun n =>
        some (.string (sources.identifier n)) := by
  induction records generalizing draws with
  | nil => rfl
  | cons record rest ih =>
    obtain ⟨first, others⟩ := List.forall_mem_cons.mp distinct
    rw [completedRecords_cons, freshIdentifiers_cons, ih others, drawnAfter, List.countP_singleton]
    by_cases lacks : lacksId traits record = true
    · rw [if_pos lacks, if_pos lacks, List.countP_cons_of_pos lacks, List.range'_succ,
        List.map_cons,
        completedNext, get?_id_completed first lacks]
      rfl
    · rw [if_neg lacks, if_neg lacks, List.countP_cons_of_neg lacks]
      rfl

/-- They do not repeat, if the source tells them apart. -/
theorem nodup_freshIdentifiers (records : List Fields)
    (distinct : ∀ record ∈ records, (names record).Nodup)
    (apart : Set.InjOn sources.identifier
      (Set.Ico draws.identifiers (drawnAfter traits draws records).identifiers)) :
    (freshIdentifiers traits records
      (completedRecords sources traits draws records)).Nodup := by
  rw [freshIdentifiers_eq sources records distinct]
  refine List.Nodup.map_on (fun n mem m mem' same => ?_) List.nodup_range'
  exact apart (List.mem_range'_1.mp mem) (List.mem_range'_1.mp mem')
    (Json.string.inj (Option.some.inj same))

theorem exists_of_mem_completedRecords (records : List Fields) :
    ∀ fields ∈ completedRecords sources traits draws records, ∃ record ∈ records,
      ∃ identifier now, fields = completed traits record identifier now := by
  intro fields mem
  obtain ⟨k, within, rfl⟩ := List.mem_mapIdx.mp mem
  exact ⟨_, List.getElem_mem within, _, _, rfl⟩

theorem map_names_completedRecords (records : List Fields) :
    (completedRecords sources traits draws records).map names = records.map fun record =>
      names record ++ (suppliedNames traits).filter (· ∉ names record) := by
  induction records generalizing draws with
  | nil => rfl
  | cons record rest ih =>
    rw [completedRecords_cons, List.map_cons, List.map_cons, ih, completedNext, names_completed]

end Drawing

end Execution

open Execution Fields

/-- **What an insert stores and draws**, on an engine that reports no fault. It runs a statement for
each record, completed with what is drawn for it, and reads the row back by its identifier if rows
are asked for. The columns are those of the record, and then those of an identifier and of the
stamps that the record lacked; none repeats. For each record an instant is drawn, and one identifier
for each that lacked one: the next ones in their order, so that none repeats if they are told
apart. -/
theorem inserts_completed_records (sources : Sources) (schema : Schema) (query : Query)
    (request : Request) (checked : query.check = .ok request) (inserts : request.method = .insert)
    (script : List ScriptedReply) (faultless : ScriptedReply.Faultless script) (registered : Bool)
    (draws : Draws) :
    let traits := schema.traits request.table
    let stored := completedRecords sources traits draws request.records
    let fresh := freshIdentifiers traits request.records stored
    let done := query.execute Transcript.engine sources schema
      ⟨Transcript.start script registered, draws⟩
    Event.given done.2.state.events =
        (stored.flatMap (recordStatements request)).map (·.given) ∧
      (stored.map names = request.records.map fun record =>
        names record ++ (suppliedNames traits).filter (· ∉ names record)) ∧
      (∀ fields ∈ stored, (names fields).Nodup ∧ ∃ id, get? fields "id" = some id) ∧
      done.2.draws = ⟨draws.instants + request.records.length,
        draws.identifiers + request.records.countP (lacksId traits)⟩ ∧
      (fresh = (List.range' draws.identifiers (request.records.countP (lacksId traits))).map
        fun n => some (.string (sources.identifier n))) ∧
      (Set.InjOn sources.identifier (Set.Ico draws.identifiers done.2.draws.identifiers) →
        fresh.Nodup) := by
  intro traits stored fresh done
  have distinct : ∀ record ∈ request.records, (names record).Nodup :=
    fun record mem => Request.nodup_of_mem_records mem
  obtain ⟨answer, later, ran, -, drew, given⟩ := attend_ends sources schema request inserts distinct
    ⟨Transcript.start script registered, draws⟩ faultless
  have left : done.2 = later := by
    show (query.execute Transcript.engine sources schema _).2 = _
    rw [execute_eq Transcript.engine sources schema request checked, ran]
  rw [left, given, drew]
  refine ⟨rfl, map_names_completedRecords sources request.records, fun fields mem => ?_, rfl,
    freshIdentifiers_eq sources request.records distinct,
    nodup_freshIdentifiers sources request.records distinct⟩
  obtain ⟨record, mem', identifier, now, rfl⟩ :=
    exists_of_mem_completedRecords sources _ fields mem
  exact ⟨nodup_names_completed (distinct record mem') identifier now,
    exists_id_completed identifier now⟩

/-! ### A batch of notes -/

/-- A schema that takes the identifiers of notes for truth values. -/
def noteSchema : Schema := .build [("notes", ["id"])] [] ["notes"]

/-- Three notes. The stored identifier of the first one counts as false, and the second one has
none; the third one has a stamp of its own. -/
def notes : List Fields := [
  [("id", .string ""), ("text", .string "a")],
  [("created_at", .null), ("text", .string "b")],
  [("text", .string "c"), ("id", .string "n-3"), ("updated_at", .string "today")]]

/-- A request to insert the notes and to read them back. -/
def insertNotes : Request where
  table := "notes"
  method := .insert
  columns := some "id"
  body := .records (notes.map Record.ofPairs)
  filters := []
  order := []
  limit := none
  single := false
  maybeSingle := false

/-- Two identifiers are drawn for the three notes, and an instant for each. -/
theorem inserts_completed_records_notes :
    let sources := Sources.steady 0 1
    let traits := noteSchema.traits insertNotes.table
    let stored := completedRecords sources traits Draws.none insertNotes.records
    let done := (Query.request insertNotes).execute Transcript.engine sources noteSchema
      ⟨Transcript.start [] false, Draws.none⟩
    Event.given done.2.state.events =
        (stored.flatMap (recordStatements insertNotes)).map (·.given) ∧
      (stored.map names = [["id", "text", "created_at", "updated_at"],
        ["created_at", "text", "id", "updated_at"], ["text", "id", "updated_at", "created_at"]]) ∧
      done.2.draws = ⟨3, 2⟩ ∧
      (freshIdentifiers traits insertNotes.records stored).Nodup ∧
      (stored.map (get? · "id") = [some (.string "00000000-0000-4000-8000-000000000001"),
        some (.string "00000000-0000-4000-8000-000000000002"), some (.integer 1)]) := by
  intro sources traits stored done
  have faultless : ScriptedReply.Faultless [] := fun _ => List.not_mem_nil
  obtain ⟨given, named, -, drew, -, apart⟩ := inserts_completed_records sources noteSchema
    (.request insertNotes) insertNotes rfl rfl [] faultless false Draws.none
  have same : (Query.request insertNotes).execute Transcript.engine sources noteSchema
      ⟨Transcript.start [] false, Draws.none⟩ = done := rfl
  rw [same] at given drew apart
  have two : done.2.draws = ⟨3, 2⟩ := drew.trans (by decide)
  refine ⟨given, named.trans (by decide), two, apart ?_, by decide +kernel⟩
  refine (Sources.steady_identifier_injOn 0 1).mono fun n mem => ?_
  have few : n < 2 := by
    have below := mem.2
    rwa [two] at below
  exact few.trans (by decide)

end RowQuery
