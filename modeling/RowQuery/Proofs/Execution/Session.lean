import RowQuery.Proofs.Execution.LateError
import RowQuery.Proofs.Store.Integrity

/-!
# Sessions

What holds of a store after any number of queries.

* `Run.Maintains` says that a computation hands on a property of the engine, and what it yields.
* `Request.Preserves` — the statements by which a request changes tables hand on a rule;
  `Execution.execute_maintains` says that the request does so too. Of `Request.Heeds` it follows.
* `Reached` are the worlds to which queries of some kind lead from a new store;
  `Reached.holds_of_preserves` and `Reached.holds` say what holds of all of them.
* `integrity_of_reached` — references lead to rows, and no key repeats.
-/

namespace RowQuery

/-! ### Computations that hand on a property -/

namespace Run

variable {σ α β : Type}

/-- A computation that hands on a property of the engine, whether or not it stops, and yields what a
predicate says. -/
def Maintains (holds : σ → Prop) (run : Run σ α) (yields : α → Prop) : Prop :=
  ∀ world, holds world.state →
    holds (run world).2.state ∧ ∀ a, (run world).1 = .ok a → yields a

namespace Maintains

variable {holds : σ → Prop} {first : Run σ α} {next : α → Run σ β} {yields : α → Prop}
  {later : β → Prop}

protected theorem pure {a : α} (h : yields a) : Maintains holds (pure a : Run σ α) yields := by
  refine fun world held => ⟨held, ?_⟩
  rintro _ ⟨⟩
  exact h

protected theorem bind (h : Maintains holds first yields)
    (h' : ∀ a, yields a → Maintains holds (next a) later) :
    Maintains holds (first >>= next) later := by
  intro world held
  obtain ⟨kept, yielded⟩ := h world held
  rw [bind_apply]
  rcases ran : first world with ⟨fault | a, between⟩
  · rw [ran] at kept
    refine ⟨kept, ?_⟩
    rintro _ ⟨⟩
  · rw [ran] at kept yielded
    exact h' a (yielded a rfl) between kept

theorem of_silent (h : Silent first yields) : Maintains holds first yields := by
  intro world held
  obtain ⟨same, a, outcome, yielded⟩ := h world
  refine ⟨?_, fun b found => ?_⟩
  · rw [same]
    exact held
  · rw [outcome] at found
    cases found
    exact yielded

end Maintains

end Run

/-- What a session relies on: references are enforced, the database is sound and obeys a rule. -/
structure Connection.Holds (rule : Rule) (connection : Connection) : Prop where
  enforced : connection.enforced = true
  sound : connection.database.Sound
  obeys : connection.database.Obeys rule

/-- Where all that a session relies on holds, a statement hands on the rule. -/
def Sql.Statement.Preserves (rule : Rule) (statement : Sql.Statement) : Prop :=
  ∀ connection : Connection, connection.Holds rule →
    (connection.run statement).2.database.Obeys rule

/-- A statement that reads hands on everything. -/
theorem Sql.Statement.preserves_select {rule : Rule} {projection : Sql.Projection} {table : String}
    {conditions : List Sql.Condition} {order : List OrderTerm} {limit : Option Int} :
    (select projection table conditions order limit).Preserves rule := by
  intro connection held
  rw [Connection.database_of_select]
  exact held.obeys

theorem Sql.Statement.Heeds.preserves {rule : Rule} {statement : Sql.Statement}
    (heeds : statement.Heeds rule) (natural : rule.Natural) : statement.Preserves rule :=
  fun _ held => Connection.run_obeys natural.emptied (heeds.fills natural) held.enforced held.sound
    held.obeys

/-- The statements by which a request changes tables hand on a rule, whatever identifiers and
instants are drawn. -/
def Request.Preserves (rule : Rule) (schema : Schema) (request : Request) : Prop :=
  let traits := schema.traits request.table
  match request.method with
  | .insert => ∀ record ∈ request.records, ∀ identifier now, Sql.Statement.Preserves rule
      (.insert request.table (Execution.storedRecord traits record identifier now))
  | .update => ∀ now conditions, Sql.Statement.Preserves rule
      (.update request.table (Execution.changedRecord traits request.firstRecord now) conditions)
  | .delete => ∀ conditions, Sql.Statement.Preserves rule (.delete request.table conditions)
  | .select => True

/-- The values that a request writes heed a rule, whatever identifiers and instants are drawn. -/
def Request.Heeds (rule : Rule) (schema : Schema) (request : Request) : Prop :=
  let traits := schema.traits request.table
  match request.method with
  | .insert => ∀ record ∈ request.records, ∀ identifier now, Sql.Statement.Heeds rule
      (.insert request.table (Execution.storedRecord traits record identifier now))
  | .update => ∀ now conditions, Sql.Statement.Heeds rule
      (.update request.table (Execution.changedRecord traits request.firstRecord now) conditions)
  | .select | .delete => True

theorem Request.heeds_admits (request : Request) (schema : Schema) :
    request.Heeds Column.Admits schema := by
  unfold Request.Heeds
  cases request.method with
  | select => exact trivial
  | delete => exact trivial
  | insert => exact fun _ _ _ _ => Sql.Statement.heeds_admits _
  | update => exact fun _ _ => Sql.Statement.heeds_admits _

theorem Request.Heeds.preserves {rule : Rule} {schema : Schema} {request : Request}
    (heeds : request.Heeds rule schema) (natural : rule.Natural) :
    request.Preserves rule schema := by
  rw [Request.Heeds] at heeds
  rw [Request.Preserves]
  cases method : request.method with
  | select => exact trivial
  | insert =>
    rw [method] at heeds
    exact fun record mem identifier now => (heeds record mem identifier now).preserves natural
  | update =>
    rw [method] at heeds
    exact fun now conditions => (heeds now conditions).preserves natural
  | delete =>
    have heeds (conditions : List Sql.Condition) :
        (Sql.Statement.delete request.table conditions).Heeds rule := trivial
    exact fun conditions => (heeds conditions).preserves natural

namespace Execution

open Run (Maintains)

variable {rule : Rule} {sources : Sources} {schema : Schema} {request : Request}

theorem query_maintains {statement : Sql.Statement} (preserves : statement.Preserves rule) :
    Maintains (Connection.Holds rule) (Run.query Connection.engine statement) fun _ => True := by
  refine fun world held => ⟨?_, fun _ _ => trivial⟩
  rw [query_apply]
  exact ⟨(Connection.enforced_run statement world.state).trans held.enforced,
    Connection.run_sound held.enforced held.sound, preserves world.state held⟩

theorem write_maintains {statement : Sql.Statement} (preserves : statement.Preserves rule) :
    Maintains (Connection.Holds rule) (Run.write Connection.engine statement) fun _ => True := by
  refine (query_maintains preserves).bind fun _ _ world held => ⟨?_, fun _ _ => trivial⟩
  show Connection.Holds rule (if world.state.inTransaction then _ else _)
  split
  · exact ⟨held.enforced, held.sound, held.obeys⟩
  · exact held

/-- Reading hands on everything. -/
theorem fetch_maintains {projection : Sql.Projection} {name table : String}
    {conditions : List Sql.Condition} {order : List OrderTerm} {limit : Option Int} :
    Maintains (Connection.Holds rule) (fetch Connection.engine schema name
      (.select projection table conditions order limit)) fun _ => True :=
  (query_maintains Sql.Statement.preserves_select).bind fun _ _ => .pure trivial

theorem insertRecord_maintains {record : Fields}
    (preserves : ∀ identifier now, Sql.Statement.Preserves rule (.insert request.table
      (storedRecord (schema.traits request.table) record identifier now))) :
    Maintains (Connection.Holds rule) (insertRecord Connection.engine sources schema request record)
      fun _ => True := by
  refine (Maintains.of_silent (identify_silent sources _)).bind fun identified made => ?_
  obtain ⟨identifier, rfl⟩ := made
  refine (Maintains.of_silent (Run.instant_silent sources)).bind fun now _ => ?_
  refine (write_maintains (preserves identifier now)).bind fun _ _ => ?_
  split
  · exact fetch_maintains.bind fun _ _ => .pure trivial
  · exact .pure trivial

/-- The records are inserted one after the other. -/
theorem insertRecords_maintains {records : List Fields}
    (preserves : ∀ record ∈ records, ∀ identifier now, Sql.Statement.Preserves rule
      (.insert request.table
        (storedRecord (schema.traits request.table) record identifier now))) :
    Maintains (Connection.Holds rule)
      (insertRecords Connection.engine sources schema request records)
      fun _ => True := by
  induction records with
  | nil => exact .pure trivial
  | cons record rest ih =>
    refine (insertRecord_maintains (preserves record List.mem_cons_self)).bind fun _ _ => ?_
    refine (ih fun other mem => preserves other (List.mem_cons_of_mem _ mem)).bind fun _ _ => ?_
    exact .pure trivial

theorem update_maintains
    (preserves : ∀ now conditions, Sql.Statement.Preserves rule (.update request.table
      (changedRecord (schema.traits request.table) request.firstRecord now) conditions)) :
    Maintains (Connection.Holds rule) (update Connection.engine sources schema request)
      fun _ => True := by
  refine (Maintains.of_silent (changes_silent sources schema request)).bind fun values made => ?_
  obtain ⟨now, rfl⟩ := made
  split
  · exact .pure trivial
  · refine (write_maintains (preserves now _)).bind fun _ _ => ?_
    split
    · exact fetch_maintains.bind fun _ _ => .pure trivial
    · exact .pure trivial

theorem respond_maintains (preserves : request.Preserves rule schema) :
    Maintains (Connection.Holds rule) (respond Connection.engine sources schema request)
      fun _ => True := by
  rw [respond]
  rw [Request.Preserves] at preserves
  cases method : request.method with
  | select => exact fetch_maintains.bind fun _ _ => .pure trivial
  | insert =>
    rw [method] at preserves
    exact (insertRecords_maintains preserves).bind fun _ _ => .pure trivial
  | update =>
    rw [method] at preserves
    exact update_maintains preserves
  | delete =>
    rw [method] at preserves
    exact (write_maintains (preserves (conditions schema request))).bind fun _ _ => .pure trivial

/-- A query on a connection is answered by the run of its request, which needs no preparation. -/
theorem execute_respond {query : Query} (checked : query.check = .ok request)
    (world : World Connection) : query.execute Connection.engine sources schema world =
      (conclude (respond Connection.engine sources schema request world).1,
        (respond Connection.engine sources schema request world).2) :=
  execute_eq Connection.engine sources schema request checked world

/-- **A query hands on what a session relies on**, if the statements of the request that it amounts
to hand on the rule. -/
theorem execute_maintains {query : Query}
    (preserves : ∀ request, query.check = .ok request → request.Preserves rule schema)
    {world : World Connection} (held : world.state.Holds rule) :
    (query.execute Connection.engine sources schema world).2.state.Holds rule := by
  cases checked : query.check with
  | error failure =>
    rw [Query.execute, checked]
    exact held
  | ok request =>
    rw [execute_eq Connection.engine sources schema request checked, attend_apply]
    exact (respond_maintains (preserves request checked) world held).1

end Execution

/-! ### Worlds that are reached -/

/-- The world after queries one after the other, whether or not they fail. -/
def Query.executeAll {σ : Type} (engine : Engine σ) (sources : Sources) (schema : Schema)
    (queries : List Query) (world : World σ) : World σ :=
  queries.foldl (fun world query => (query.execute engine sources schema world).2) world

/-- The worlds to which calls lead from a new store, the queries being of some kind. The declared
tables may be created again at any time. -/
inductive Reached (sources : Sources) (kind : Schema → Request → Prop) :
    World Connection → Prop where
  | new : Reached sources kind Execution.newStore
  | create {world : World Connection} (reached : Reached sources kind world) :
    Reached sources kind
      { world with state := { world.state with database := world.state.database.create } }
  | query {world : World Connection} (reached : Reached sources kind world) (schema : Schema)
    (query : Query) (fitting : ∀ request, query.check = .ok request → kind schema request) :
    Reached sources kind (query.execute Connection.engine sources schema world).2

namespace Reached

variable {sources : Sources} {kind : Schema → Request → Prop} {world : World Connection}

/-- What queries hand on holds of every world that is reached. -/
theorem holds_of_preserves {rule : Rule}
    (preserves : ∀ schema request, kind schema request → request.Preserves rule schema)
    (reached : Reached sources kind world) : world.state.Holds rule := by
  induction reached with
  | new => exact ⟨rfl, Database.sound_create_empty, Database.obeys_create_empty rule⟩
  | create _ ih =>
    have same := ih.sound.create_eq
    refine ⟨ih.enforced, ?_, ?_⟩
    · show Database.Sound (Database.create _)
      rw [same]
      exact ih.sound
    · show Database.Obeys rule (Database.create _)
      rw [same]
      exact ih.obeys
  | query _ schema query fitting ih =>
    exact Execution.execute_maintains
      (fun request checked => preserves schema request (fitting request checked)) ih

theorem holds {rule : Rule} (natural : rule.Natural)
    (heeds : ∀ schema request, kind schema request → request.Heeds rule schema)
    (reached : Reached sources kind world) : world.state.Holds rule :=
  reached.holds_of_preserves fun schema request fitting =>
    (heeds schema request fitting).preserves natural

/-- Queries one after the other lead from a world that is reached to another one. -/
theorem queries (reached : Reached sources kind world) (schema : Schema) (queries : List Query)
    (fitting : ∀ query ∈ queries, ∀ request, query.check = .ok request → kind schema request) :
    Reached sources kind (Query.executeAll Connection.engine sources schema queries world) := by
  induction queries generalizing world with
  | nil => exact reached
  | cons query rest ih =>
    refine ih (reached.query schema query (fitting query List.mem_cons_self)) ?_
    exact fun other mem => fitting other (List.mem_cons_of_mem _ mem)

/-- Whatever the queries are, the database is sound, and its columns of text hold texts. -/
theorem holds_admits (reached : Reached sources kind world) : world.state.Holds Column.Admits :=
  reached.holds Rule.natural_admits fun schema request _ => request.heeds_admits schema

end Reached

/-! ### Integrity -/

/-- What the declarations promise of the rows of a database: it has the declared tables, in which
rows have a cell for each column; references lead to rows; and neither an identifier nor another key
repeats, nulls aside. -/
structure Database.Integrity (db : Database) : Prop where
  declared : db.tables.map (·.declaration) = Catalog.tables
  shaped : ∀ table ∈ db.tables, ∀ row ∈ table.rows,
    row.cells.length = table.declaration.columns.length
  linked : ∀ table ∈ db.tables, ∀ row ∈ table.rows, ∀ column cell,
    (column, cell) ∈ table.declaration.columns.zip row.cells →
      ∀ target action, column.references = some (target, action) → cell ≠ .null →
        ∃ other ∈ db.tables, other.name = target ∧ cell ∈ other.ids
  identified : ∀ table ∈ db.tables, table.rows.Pairwise fun a b =>
    table.cell a "id" ≠ .null → table.cell a "id" ≠ table.cell b "id"
  keyed : ∀ table ∈ db.tables, ∀ key ∈ table.declaration.uniqueKeys,
    table.rows.Pairwise fun a b =>
      ∃ name ∈ key, table.cell a name = .null ∨ table.cell a name ≠ table.cell b name

/-- **Integrity is never lost.** After any number of queries, whatever they are and whether or not
they fail, references lead to rows and no key repeats. -/
theorem integrity_of_reached (sources : Sources) (kind : Schema → Request → Prop)
    (world : World Connection) (reached : Reached sources kind world) :
    world.state.database.Integrity := by
  obtain ⟨-, sound, obeys⟩ := reached.holds_admits
  have keyed : ∀ table ∈ world.state.database.tables, ∀ key ∈ table.declaration.uniqueKeys,
      table.rows.Pairwise fun a b =>
        ∃ name ∈ key, table.cell a name = .null ∨ table.cell a name ≠ table.cell b name := by
    intro table mem key listed
    refine ((sound.tables table mem).distinct key listed).imp fun {a b} apart => ?_
    by_contra all
    push Not at all
    exact Bool.eq_false_iff.mp apart (Table.agree_iff.mpr all)
  refine ⟨sound.declared, fun table mem row inside => (obeys table mem row inside).length_eq,
    ?_, fun table mem => ?_, keyed⟩
  · intro table mem row inside column cell paired target action refers filled
    have leads := Database.satisfied_iff.mp sound.satisfied table mem row inside
    have found := Database.rowSatisfied_iff.mp leads target action cell
      (Database.references_mem.mpr ⟨column, paired, refers, filled⟩)
    obtain ⟨other, member, named, row', inside', same⟩ := Database.hasId_iff.mp found
    exact ⟨other, member, named, List.mem_map.mpr ⟨row', inside', same⟩⟩
  · have unique := Catalog.id_unique _ (sound.declared_of_mem mem)
    refine (keyed table mem ["id"] unique).imp fun {a b} ⟨name, listed, apart⟩ filled => ?_
    rw [List.mem_singleton.mp listed] at apart
    exact apart.resolve_left filled

/-- A request to write records into a table, or to delete rows of it. -/
def plainRequest (method : Method) (table : String) (records : List Fields)
    (filters : List Filter) : Request where
  table := table
  method := method
  columns := none
  body := .records (records.map Record.ofPairs)
  filters := filters
  order := []
  limit := none
  single := false
  maybeSingle := false

/-- A family is recorded, one record of the first insert being refused. Then the family gets another
identifier, which is refused because of its child, and at last its father is deleted. -/
def householdQueries : List Query := [
  .request (plainRequest .insert "people" [
    [("id", .string "p-1"), ("display_name", .string "An")],
    [("id", .string "p-2"), ("display_name", .string "Binh")],
    [("id", .string "p-1"), ("display_name", .string "Chi")]] []),
  .request (plainRequest .insert "families" [
    [("id", .string "f-1"), ("father_id", .string "p-1"), ("mother_id", .string "p-2")]] []),
  .request (plainRequest .insert "children" [
    [("id", .string "c-1"), ("family_id", .string "f-1"), ("person_id", .string "p-2")]] []),
  .request (plainRequest .update "families" [[("id", .string "f-2")]] []),
  .request (plainRequest .delete "people" [] [.equals "id" (.string "p-1")])]

/-- The world after these queries. -/
def household : World Connection :=
  Query.executeAll Connection.engine (.steady 0 1) Catalog.schema householdQueries
    Execution.newStore

/-- The family has lost its father, and nothing else. -/
theorem integrity_of_reached_household :
    Reached (.steady 0 1) (fun _ _ => True) household ∧ household.state.database.Integrity ∧
      ["people", "families", "children"].map (fun name =>
        (household.state.database.table? name).map (·.rows.map (·.cells.take 3))) =
        [some [[.text "p-2", .null, .text "Binh"]], some [[.text "f-1", .null, .text "p-2"]],
          some [[.text "c-1", .text "f-1", .text "p-2"]]] := by
  have reached : Reached (.steady 0 1) (fun _ _ => True) household :=
    Reached.new.queries Catalog.schema householdQueries fun _ _ _ _ => trivial
  exact ⟨reached, integrity_of_reached _ _ household reached, by decide +kernel⟩

end RowQuery
