import RowQuery.Proofs.Execution.Statements
import RowQuery.Proofs.Execution.Supplied

/-!
# What is inserted is what is read

An insert that asks for all columns reads the new row back by its identifier.

* `Execution.insert_cases` — such an insert changes nothing, or its answer is the new row, which is
  the only one with its identifier from then on.
* `inserted_is_read` — this row is told by the record that was inserted, and a select with its
  identifier is answered with it next.
-/

namespace RowQuery

/-- A request to insert one record into a table and to read back all columns. -/
structure Request.Inserts (request : Request) (table : String) (record : Fields) : Prop where
  method : request.method = .insert
  table : request.table = table
  columns : request.columns = some "*"
  records : request.records = [record]

theorem Request.Inserts.wantsRows {request : Request} {table : String} {record : Fields}
    (inserts : request.Inserts table record) : request.wantsRows = true := by
  rw [Request.wantsRows, inserts.columns]
  rfl

theorem Request.Inserts.projection {request : Request} {table : String} {record : Fields}
    (inserts : request.Inserts table record) : Execution.projection request = [.all] := by
  rw [Execution.projection, inserts.columns]
  rfl

/-- The answer to a request that yields one row. -/
def Request.presents (request : Request) (row : Json) : Answer :=
  .ok (if request.single then row else .array [row])

namespace Execution

open Connection (Harmless)

variable {sources : Sources} {schema : Schema} {request : Request} {rule : Rule}
  {world : World Connection} {query : Query} {record values : Fields} {s : String}

/-- A comparison with an identifier is no obstacle. -/
theorem harmless_id (s : String) : Harmless [.compare ⟨"id", .eq, .string s⟩] :=
  Connection.harmless_compare (by decide) .eq
    (show Cell.ofJson (.string s) = .ok (.text s) from rfl)

/-- A row of a table that is the only one with its identifier. -/
def Alone (db : Database) (table : Table) (row : Row) (s : String) : Prop :=
  table ∈ db.tables ∧
    table.rows.filter (table.selects [.compare ⟨"id", .eq, .string s⟩]) = [row]

/-- What is read of a row that is the only one with its identifier. -/
theorem fetch_alone (schema : Schema) (held : world.state.Holds rule) {table : Table} {row : Row}
    (alone : Alone world.state.database table row s) :
    fetch Connection.engine schema table.name
      (.select [.all] table.name [.compare ⟨"id", .eq, .string s⟩] [] none) world =
        (.ok [table.logical schema row], world) := by
  obtain ⟨rows, fetched, found⟩ := fetch_select schema held alone.1 (harmless_id s)
  rw [alone.2, List.map_singleton] at found
  rw [fetched, List.perm_singleton.mp found]

/-- A select of a single row by an identifier that one row has. -/
theorem select_alone (held : world.state.Holds rule) {table : Table} {row : Row}
    (alone : Alone world.state.database table row s) (checked : query.check = .ok request)
    (reads : request.ReadsAll table.name) (filters : request.filters = [.equals "id" (.string s)])
    (single : request.single = true) :
    query.execute Connection.engine sources schema world =
      (.ok (table.logical schema row), world) := by
  have conds : conditions schema request = [.compare ⟨"id", .eq, .string s⟩] := by
    rw [conditions, filters]
    rfl
  have told : ∃ rows, query.execute Connection.engine sources schema world =
        (cardinality request rows, world) ∧
      rows.Perm ((table.rows.filter (table.selects (conditions schema request))).map
        (table.logical schema)) :=
    execute_select held alone.1 checked reads (conds ▸ harmless_id s)
  obtain ⟨rows, selected, found⟩ := told
  rw [conds, alone.2, List.map_singleton] at found
  rw [selected, List.perm_singleton.mp found, cardinality, if_pos single]

/-- An insert changes nothing, or there is a new row in the end, which is the only one with its
identifier. -/
theorem write_insert (held : world.state.Holds Column.Admits) {declaration : Declaration}
    (declared : declaration ∈ Catalog.tables)
    (identified : Table.newCell (.ofFields values) Catalog.id = .text s) :
    (∃ fault later, Run.write Connection.engine (.insert declaration.name values) world =
        (.error fault, later) ∧ later.state.database = world.state.database) ∨
      ∃ table row later, Run.write Connection.engine (.insert declaration.name values) world =
          (.ok (), later) ∧ later.state.Holds Column.Admits ∧ table.declaration = declaration ∧
        row.cells = Table.newCells declaration (.ofFields values) ∧
          Alone later.state.database table row s := by
  rcases write_cases (.insert declaration.name values) world with
    failed | ⟨reply, between, later, ran, wrote, same⟩
  · exact .inl failed
  · obtain ⟨table, fit, performed⟩ := Connection.performed_of_run ran
    obtain ⟨mem, named⟩ := Database.mem_of_table? (Connection.table?_of_findTable rfl fit.found)
    obtain rfl : table.declaration = declaration := by
      obtain ⟨other, member, rfl⟩ := held.sound.exists_table declared
      rw [held.sound.eq_of_sameName mem member named]
    have kept : later.state.Holds Column.Admits := by
      have heeds := Sql.Statement.heeds_admits (.insert table.declaration.name values)
      have maintained := (write_maintains (heeds.preserves Rule.natural_admits) world held).1
      rw [wrote] at maintained
      exact maintained
    obtain ⟨row, made, -, put⟩ :=
      Database.exists_put_of_insert (Connection.insert_of_perform performed)
    obtain ⟨cells, -⟩ := Table.newRow_ok made
    have mem' : table.insertRow row ∈ later.state.database.tables := by
      rw [same, put]
      exact Database.mem_put_self mem rfl
    have id := Table.cell_id_of_new declared cells
    rw [identified] at id
    refine .inr ⟨table.insertRow row, row, later, wrote, kept, rfl, cells, mem', ?_⟩
    exact Table.filter_id (kept.sound.tables _ mem') declared (kept.obeys _ mem')
      (Table.mem_insertRow.mpr (.inl rfl)) id

/-- Reading back yields a row that is the only one with its identifier. -/
theorem readBack_alone (schema : Schema) (present : List Json → Answer)
    (held : world.state.Holds rule) {table : Table} {row : Row}
    (alone : Alone world.state.database table row s) (about : request.table = table.name)
    (wanted : request.wantsRows = true) (all : projection request = [.all]) :
    readBack Connection.engine schema request present [.compare ⟨"id", .eq, .string s⟩] world =
      (.ok (present [table.logical schema row]), world) := by
  rw [readBack, if_pos wanted, readBackStatement, all, about, Run.bind_apply,
    fetch_alone schema held alone]
  rfl

theorem insertAnswer_singleton (wanted : request.wantsRows = true) (row : Json) :
    insertAnswer request [row] = request.presents row := by
  rw [Request.presents]
  cases single : request.single <;> simp [insertAnswer, single, wanted]

/-- **An insert that asks for all columns** fails and changes nothing, or it is answered with a new
row, which is as the record says and the only one with its identifier. -/
theorem insert_cases (held : world.state.Holds Column.Admits) {declaration : Declaration}
    (declared : declaration ∈ Catalog.tables) (suits : record.Suits declaration)
    (inserts : request.Inserts declaration.name record) (checked : query.check = .ok request) :
    let done := query.execute Connection.engine sources Catalog.schema world
    let row := Json.object (declaration.inserted record
      (sources.identifier world.draws.identifiers) (sources.instant world.draws.instants))
    ((∃ failure, done.1 = .error failure) ∧ done.2.state.database = world.state.database) ∨
      done.1 = request.presents row ∧ done.2.state.Holds Column.Admits ∧
        ∃ table new s, table.declaration = declaration ∧ table.logical Catalog.schema new = row ∧
          row.field? "id" = some (.string s) ∧ Alone done.2.state.database table new s := by
  intro done
  obtain ⟨draws, made⟩ := filled_apply sources Catalog.schema request record world
  have run : done = _ := execute_eq Connection.engine sources Catalog.schema request checked world
  have responds : attend Connection.engine sources Catalog.schema request world =
      insert Connection.engine sources Catalog.schema request world := by
    show respond _ _ _ _ world = _
    rw [respond, inserts.method]
  rw [inserts.table, Catalog.traits_eq _ declared] at made
  generalize sources.identifier world.draws.identifiers = identifier,
    sources.instant world.draws.instants = now at made ⊢
  intro row
  obtain ⟨s, stored, kept, read⟩ := exists_identifier declared suits identifier now
  generalize values_eq : storedRecord declaration.traits record identifier now = values at *
  have same : sameId values = [.compare ⟨"id", .eq, .string s⟩] := by
    rw [sameId, stored]
    rfl
  -- The run is a write, and then a select by the identifier that has been written.
  rw [responds, insert_eq _ _ _ request inserts.records, Run.bind_apply, made] at run
  dsimp only at run
  rw [same, inserts.table, writeAndRead, Run.bind_apply] at run
  have held' : Connection.Holds Column.Admits { world with draws }.state := held
  rcases write_insert held' declared kept with
    ⟨fault, later, wrote, unchanged⟩ | ⟨table, new, later, wrote, holds, rfl, cells, alone⟩
  · rw [wrote] at run
    rw [run]
    exact .inl ⟨⟨_, rfl⟩, unchanged⟩
  · rw [wrote] at run
    dsimp only at run
    rw [readBack_alone Catalog.schema _ holds alone inserts.table inserts.wantsRows
      inserts.projection] at run
    have logical := Table.logical_of_new declared suits (values_eq ▸ cells)
    rw [run]
    refine .inr ⟨?_, holds, table, new, s, rfl, logical, read, alone⟩
    rw [← insertAnswer_singleton inserts.wantsRows]
    exact congrArg (insertAnswer request [·]) logical

end Execution

/-- **What is inserted is what is read.** In any store that is reached, an insert that succeeds and
asks for all columns is answered with one row, which is told by the record: values are as they were
supplied, truth values being no more than that; an identifier and stamps that are missing or count
as false are those that have been drawn; and what is left out is as it is preset. A select of a
single row with this identifier is answered with the same row. -/
theorem inserted_is_read (sources : Sources) (kind : Schema → Request → Prop)
    (world : World Connection) (reached : Reached sources kind world) (declaration : Declaration)
    (declared : declaration ∈ Catalog.tables) (record : Fields)
    (suits : record.Suits declaration) (query : Query) (request : Request)
    (checked : query.check = .ok request) (inserts : request.Inserts declaration.name record) :
    let done := query.execute Connection.engine sources Catalog.schema world
    let row := Json.object (declaration.inserted record
      (sources.identifier world.draws.identifiers) (sources.instant world.draws.instants))
    ∀ data, done.1 = .ok data →
      data = (if request.single then row else .array [row]) ∧
        ∃ id, row.field? "id" = some id ∧
          ∀ (next : Query) (reading : Request), next.check = .ok reading →
            reading.ReadsAll declaration.name → reading.filters = [.equals "id" id] →
              reading.single = true →
                next.execute Connection.engine sources Catalog.schema done.2 =
                  (.ok row, done.2) := by
  intro done row data answered
  rcases Execution.insert_cases reached.holds_admits declared suits inserts checked with
    ⟨⟨failure, failed⟩, -⟩ | ⟨presented, held, table, new, s, rfl, logical, identified, alone⟩
  · cases answered.symm.trans failed
  · refine ⟨Except.ok.inj (answered.symm.trans presented), .string s, identified, ?_⟩
    intro next reading checked' reads filters single
    have same : row = table.logical Catalog.schema new := logical.symm
    rw [same]
    exact Execution.select_alone held alone checked' reads filters single

/-- A contribution without an identifier, with a stamp that counts as false. -/
def contribution : Fields := [
  ("change_type", .string "update"),
  ("changes", .object [("name", .string "An \"Binh\""), ("years", .array [.integer 1901, .null]),
    ("share", .float (.ofDecimal false 15 (-1)))]),
  ("created_at", .string "")]

/-- The row that is read of it. -/
def contributionRow : Json := .object [
  ("id", .string "00000000-0000-4000-8000-000000000001"),
  ("author_id", .null),
  ("target_person", .null),
  ("change_type", .string "update"),
  ("changes", .object [("name", .string "An \"Binh\""), ("years", .array [.integer 1901, .null]),
    ("share", .float (.ofDecimal false 15 (-1)))]),
  ("status", .string "pending"),
  ("created_at", .string "1970-01-01T00:00:00.000Z")]

/-- A request to insert the contribution and to read it back. -/
def contribute : Request where
  table := "contributions"
  method := .insert
  columns := some "*"
  body := .record (.ofPairs contribution)
  filters := []
  order := []
  limit := none
  single := false
  maybeSingle := false

/-- A request to read the contribution by its identifier. -/
def findContribution : Request where
  table := "contributions"
  method := .select
  columns := some "*"
  body := .absent
  filters := [.equals "id" (.string "00000000-0000-4000-8000-000000000001")]
  order := []
  limit := none
  single := true
  maybeSingle := false

theorem contribution_suits : contribution.Suits Catalog.contributions := by
  have reads : Binary64.ReadsBack (.ofDecimal false 15 (-1)) := by
    rw [Binary64.ReadsBack]
    decide +kernel
  intro field mem
  simp only [contribution, List.mem_cons, List.not_mem_nil, or_false] at mem
  rcases mem with rfl | rfl | rfl
  · exact ⟨Catalog.requiredText "change_type", by decide, rfl, .inr ⟨_, rfl⟩⟩
  · refine ⟨{ name := "changes", type := .document }, by decide, rfl, .inr ⟨_, rfl⟩, ?_⟩
    have short : Json.digitCount 1901 ≤ Json.maxIntegerDigits := by decide
    exact ⟨by decide, trivial, ⟨short, trivial, trivial⟩, reads, trivial⟩
  · exact ⟨Catalog.created, by decide, rfl, .inr ⟨_, rfl⟩⟩

theorem inserted_is_read_contribution :
    let done := (Query.request contribute).execute Connection.engine (.steady 0 1) Catalog.schema
      Execution.newStore
    done.1 = .ok (.array [contributionRow]) ∧
      (Query.request findContribution).execute Connection.engine (.steady 0 1) Catalog.schema
        done.2 = (.ok contributionRow, done.2) := by
  intro done
  have reached : Reached (.steady 0 1) (fun _ _ => True) Execution.newStore := .new
  have declared : Catalog.contributions ∈ Catalog.tables := by decide
  have inserts : contribute.Inserts "contributions" contribution := ⟨rfl, rfl, rfl, rfl⟩
  have changed : done.2.state.database ≠ Execution.newStore.state.database := by decide +kernel
  have row : Json.object (Catalog.contributions.inserted contribution
      ((Sources.steady 0 1).identifier Execution.newStore.draws.identifiers)
      ((Sources.steady 0 1).instant Execution.newStore.draws.instants)) = contributionRow := by
    decide +kernel
  have checked : (Query.request contribute).check = .ok contribute := rfl
  obtain ⟨data, answered⟩ : ∃ data, done.1 = .ok data := by
    rcases Execution.insert_cases reached.holds_admits declared contribution_suits inserts
      checked with ⟨-, same⟩ | ⟨presented, -⟩
    · exact absurd same changed
    · exact ⟨_, presented⟩
  obtain ⟨data_eq, id, identified, next⟩ := inserted_is_read (.steady 0 1) (fun _ _ => True)
    Execution.newStore reached Catalog.contributions declared contribution contribution_suits
    (.request contribute) contribute checked inserts data answered
  rw [row] at data_eq identified next
  have id_eq : id = .string "00000000-0000-4000-8000-000000000001" :=
    Option.some.inj identified.symm
  have read := next (.request findContribution) findContribution rfl
    ⟨rfl, rfl, by decide, rfl, rfl⟩ (by rw [id_eq]; rfl) rfl
  exact ⟨answered.trans (congrArg _ data_eq), read⟩

end RowQuery
