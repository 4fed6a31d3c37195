import RowQuery.Proofs.Execution.Session
import RowQuery.Proofs.Store.Breach
import RowQuery.Proofs.Store.Projection
import RowQuery.Proofs.Store.Sorting
import Mathlib.Data.List.Permutation

/-!
# What a select lists

A select filters, sorts, cuts, projects and decodes, in this order.

* `Table.shown` is a row as an answer shows it: what a projection has of it, in logical form.
* `Execution.exists_fetched` — what is fetched from a declared table.
* `Request.Takes` says which rows a select takes, and in which order.
* `lists_first_in_order` — the answer of a select, row by row.

## Design notes

Rows that no order term tells apart may come in any order, which depends on the path on which the
rows are looked up. So the answer is told by what holds of every such order.
-/

namespace RowQuery

/-! ### Rows that are shown -/

namespace Table

variable {table : Table} {traits : Traits} {projection : Sql.Projection}

/-- A row as an answer shows it. -/
def shown (traits : Traits) (table : Table) (projection : Sql.Projection) (row : Row) : Json :=
  .object (traits.toLogical (table.projected projection row))

/-- Of a row of columns that exist, each is shown under its name, in logical form. -/
theorem shown_eq (declared : table.declaration ∈ Catalog.tables)
    (known : ∀ name, .column name ∈ projection → (table.declaration.columnIndex? name).isSome)
    (row : Row) :
    table.shown traits projection row = .object ((table.listed projection).map fun name =>
      (name, traits.logicalValue name (table.cell row name).json)) := by
  rw [shown, projected_eq declared known, Traits.toLogical, List.map_map]
  rfl

end Table

namespace Execution

variable {world later : World Connection} {schema : Schema} {declaration : Declaration}

/-- **What is fetched from a declared table** are the rows that the conditions select, in some
order, then sorted and cut, and each of them is shown. -/
theorem exists_fetched {name : String} {projection : Sql.Projection}
    {conditions : List Sql.Condition} {order : List OrderTerm} {limit : Option Int}
    {rows : List Json} (sound : world.state.database.Sound)
    (declared : declaration ∈ Catalog.tables) (about : sameName declaration.name name = true)
    (fetched : fetch Connection.engine schema name (.select projection name conditions order limit)
      world = (.ok rows, later)) :
    later = world ∧ ∃ table ∈ world.state.database.tables, table.declaration = declaration ∧
      ∃ found : List Row, found.Perm (table.rows.filter (table.selects conditions)) ∧
        rows = (Table.cut limit (table.sort order found)).map
          (table.shown (schema.traits name) projection) := by
  rw [fetch, Run.bind_apply, query_apply] at fetched
  rcases ran : world.state.run (.select projection name conditions order limit) with
    ⟨fault | reply, between⟩
  · rw [ran] at fetched
    cases fetched
  · obtain ⟨table, fit⟩ := Connection.fit_of_run (congrArg Prod.fst ran)
    obtain ⟨own, known, mem, declares⟩ := sound.exists_table? declared about
    have found : world.state.findTable (.select projection name conditions order limit) =
        .ok own := Connection.findTable_eq known
    rw [fit.found] at found
    cases found
    have begun : world.state.begun (.select projection name conditions order limit) =
        world.state := by simp [Connection.begun, Connection.writes]
    rw [ran] at fetched
    rw [fit.run_eq, begun] at ran
    cases ran
    cases fetched
    obtain ⟨found, perm, records⟩ := table.exists_found projection conditions order limit
    refine ⟨rfl, table, mem, declares, found, perm, ?_⟩
    rw [records, List.map_map]
    rfl

end Execution

/-! ### Rows that are taken -/

open Classical in
/-- What a select takes of a table, and what it leaves: of the rows of which all its filters hold,
the first ones in its order. -/
structure Request.Takes (request : Request) (schema : Schema) (table : Table)
    (taken left : List Row) : Prop where
  /-- Each of these rows is either taken or left, once. -/
  rows : (taken ++ left).Perm (table.rows.filter fun row =>
    ∀ filter ∈ request.filters, filter.Holds schema request.table table row)
  /-- They are as many as the limit allows, where there is one and it is not below zero. -/
  count : taken.length = request.limit.elim (taken ++ left).length fun limit =>
    if limit < 0 then (taken ++ left).length else min limit.toNat (taken ++ left).length
  ordered : taken.Pairwise fun a b => ¬table.Precedes request.order b a
  first : ∀ row ∈ taken, ∀ other ∈ left, ¬table.Precedes request.order other row

namespace Table

/-- What is cut off comes after what is kept. -/
theorem cut_append (limit : Option Int) (rows : List Row) :
    cut limit rows ++ rows.drop (cut limit rows).length = rows := by
  cases limit with
  | none => rw [cut, List.drop_length, List.append_nil]
  | some limit =>
    rw [cut]
    split
    · rw [List.drop_length, List.append_nil]
    · exact List.prefix_iff_eq_append.mp (List.take_prefix _ _)

theorem length_cut (limit : Option Int) (rows : List Row) :
    (cut limit rows).length =
      limit.elim rows.length fun limit =>
        if limit < 0 then rows.length else min limit.toNat rows.length := by
  cases limit with
  | none => rfl
  | some limit =>
    rw [cut, Option.elim_some, apply_ite List.length, List.length_take]

end Table

open Classical in
/-- Of the rows of which the filters hold, sorted, the first ones are taken. -/
theorem Request.Takes.cut {request : Request} {schema : Schema} {table : Table} {found : List Row}
    (perm : found.Perm (table.rows.filter fun row =>
      ∀ filter ∈ request.filters, filter.Holds schema request.table table row))
    (sorts : ∀ term ∈ request.order, (table.declaration.columnIndex? term.column).isSome) :
    let sorted := table.sort request.order found
    let taken := Table.cut request.limit sorted
    request.Takes schema table taken (sorted.drop taken.length) := by
  intro sorted taken
  have whole : taken ++ sorted.drop taken.length = sorted := Table.cut_append request.limit sorted
  have ordered := table.sort_ordered found sorts
  change sorted.Pairwise _ at ordered
  rw [← whole, List.pairwise_append] at ordered
  obtain ⟨inside, -, across⟩ := ordered
  refine ⟨?_, ?_, inside, across⟩
  · rw [whole]
    exact (List.mergeSort_perm _ _).trans perm
  · rw [whole]
    exact Table.length_cut request.limit sorted

open Classical in
/-- The rows that the conditions of a request select are those of which its filters hold. -/
theorem Request.filter_selects {request : Request} {schema : Schema} {table : Table}
    (present : ∀ filter ∈ request.filters, ∀ column ∈ filter.columns,
      (table.declaration.columnIndex? column).isSome) :
    table.rows.filter (table.selects (Execution.conditions schema request)) =
      table.rows.filter fun row =>
        ∀ filter ∈ request.filters, filter.Holds schema request.table table row :=
  List.filter_congr fun _ _ =>
    Bool.eq_iff_iff.mpr ((Filter.selects_iff_holds present).trans decide_eq_true_iff.symm)

/-- What a select answers with are the rows that it takes, unless its statement fails. -/
theorem Execution.exists_taken {sources : Sources} {world : World Connection}
    {declaration : Declaration} {schema : Schema} {query : Query} {request : Request}
    (sound : world.state.database.Sound) (declared : declaration ∈ Catalog.tables)
    (checked : query.check = .ok request) (method : request.method = .select)
    (about : sameName declaration.name request.table = true)
    (present : ∀ filter ∈ request.filters, ∀ column ∈ filter.columns,
      (declaration.columnIndex? column).isSome)
    (sorts : ∀ term ∈ request.order, (declaration.columnIndex? term.column).isSome) :
    let done := query.execute Connection.engine sources schema world
    (∃ fault, done.1 = .error (.ofFault fault)) ∨
      done.2 = world ∧ ∃ table ∈ world.state.database.tables, table.declaration = declaration ∧
        ∃ taken left, request.Takes schema table taken left ∧
          done.1 = cardinality request
            (taken.map (table.shown (schema.traits request.table) (projection request))) := by
  intro done
  have run : done = _ := execute_respond checked world
  simp only [respond, method, select, Run.bind_apply] at run
  rcases fetched : fetch Connection.engine schema request.table (selectStatement schema request)
    world with ⟨fault | rows, later⟩
  · rw [fetched] at run
    exact .inl ⟨fault, congrArg Prod.fst run⟩
  · rw [fetched] at run
    obtain ⟨rfl, table, mem, rfl, found, perm, rfl⟩ := exists_fetched sound declared about fetched
    rw [Request.filter_selects present] at perm
    have takes : request.Takes schema table _ _ := .cut perm sorts
    exact .inr ⟨congrArg Prod.snd run, table, mem, rfl, _, _, takes, congrArg Prod.fst run⟩

/-- **What a select lists.** In any store that is reached, a select of columns of a declared table
that succeeds, with columns that exist in its filters and in its order, lists each row that it
takes: the values of the columns that it asks for, in logical form. It takes, of the rows of which
all filters hold, as many as its limit allows, in its order, and none that it leaves precedes one
that it takes. The world is as it was. -/
theorem lists_first_in_order (sources : Sources) (kind : Schema → Request → Prop)
    (world : World Connection) (reached : Reached sources kind world) (declaration : Declaration)
    (declared : declaration ∈ Catalog.tables) (schema : Schema) (query : Query) (request : Request)
    (checked : query.check = .ok request) (method : request.method = .select)
    (about : sameName declaration.name request.table = true) (many : request.single = false)
    (many' : request.maybeSingle = false)
    (present : ∀ filter ∈ request.filters, ∀ column ∈ filter.columns,
      (declaration.columnIndex? column).isSome)
    (sorts : ∀ term ∈ request.order, (declaration.columnIndex? term.column).isSome)
    (known : ∀ name, .column name ∈ Execution.projection request →
      (declaration.columnIndex? name).isSome) :
    let done := query.execute Connection.engine sources schema world
    ∀ data, done.1 = .ok data → done.2 = world ∧
      ∃ table ∈ world.state.database.tables, table.declaration = declaration ∧
        ∃ taken left, request.Takes schema table taken left ∧
          data = .array (taken.map fun row =>
            .object ((table.listed (Execution.projection request)).map fun name => (name,
              (schema.traits request.table).logicalValue name (table.cell row name).json))) := by
  intro done data answered
  have sound := reached.holds_admits.sound
  rcases Execution.exists_taken sound declared checked method about present sorts with
    ⟨fault, failed⟩ | ⟨same, table, mem, rfl, taken, left, takes, listed⟩
  · cases answered.symm.trans failed
  · refine ⟨same, table, mem, rfl, taken, left, takes, ?_⟩
    have shown : data = .array (taken.map
        (table.shown (schema.traits request.table) (Execution.projection request))) := by
      simp only [Execution.cardinality, many, many'] at listed
      cases answered.symm.trans listed
      rfl
    rw [shown]
    exact congrArg Json.array (List.map_congr_left fun row _ => Table.shown_eq declared known row)

/-- Five people, one of whom is dead. -/
def neighbours : World Connection :=
  Query.executeAll Connection.engine (.steady 0 1) Catalog.schema [
    .request (plainRequest .insert "people" [
      [("id", .string "p-1"), ("display_name", .string "An"), ("birth_year", .integer 1920)],
      [("id", .string "p-2"), ("display_name", .string "Binh")],
      [("id", .string "p-3"), ("display_name", .string "Chi"), ("birth_year", .integer 1950)],
      [("id", .string "p-4"), ("display_name", .string "Anh"), ("birth_year", .integer 1920)],
      [("id", .string "p-5"), ("display_name", .string "Dung"), ("is_living", .bool false)]]
      [])] Execution.newStore

/-- A request for the first three of the living, by years and then backwards by names. -/
def eldest : Request where
  table := "people"
  method := .select
  columns := some " display_name,, is_living ,ID,display_name"
  body := .absent
  filters := [.equals "is_living" (.bool true)]
  order := [⟨"birth_year", true⟩, ⟨"display_name", false⟩]
  limit := some 3
  single := false
  maybeSingle := false

/-- The one without a year is first, and of those with the same year the one with the later name:
this is the only answer that the order allows. -/
theorem lists_first_in_order_eldest :
    let done := (Query.request eldest).execute Connection.engine (.steady 0 1) Catalog.schema
      neighbours
    done.2 = neighbours ∧
      done.1 = .ok (.array ([("Binh", "p-2"), ("Anh", "p-4"), ("An", "p-1")].map fun person =>
        .object [("display_name", .string person.1), ("is_living", .bool true),
          ("id", .string person.2)])) := by
  intro done
  have reached : Reached (.steady 0 1) (fun _ _ => True) neighbours :=
    Reached.new.queries Catalog.schema _ fun _ _ _ _ => trivial
  have known : ∀ name, .column name ∈ Execution.projection eldest →
      (Catalog.people.columnIndex? name).isSome := by
    have columns : Execution.projection eldest =
      ["display_name", "is_living", "ID", "display_name"].map .column := by decide +kernel
    have all : ∀ name ∈ ["display_name", "is_living", "ID", "display_name"],
      (Catalog.people.columnIndex? name).isSome := by decide +kernel
    intro name mem
    rw [columns] at mem
    obtain ⟨other, listed, same⟩ := List.mem_map.mp mem
    cases same
    exact all name listed
  have present : ∀ filter ∈ eldest.filters, ∀ column ∈ filter.columns,
      (Catalog.people.columnIndex? column).isSome := by decide +kernel
  have sorts : ∀ term ∈ eldest.order, (Catalog.people.columnIndex? term.column).isSome := by
    decide +kernel
  have succeeds : done.1.isOk = true := by decide +kernel
  cases answered : done.1 with
  | error failure =>
    rw [answered] at succeeds
    cases succeeds
  | ok data =>
    obtain ⟨same, table, mem, declares, taken, left, takes, rfl⟩ :=
      lists_first_in_order (.steady 0 1) (fun _ _ => True) neighbours reached Catalog.people
        (by decide) Catalog.schema (.request eldest) eldest rfl rfl (by decide) rfl rfl present
        sorts known data answered
    -- However the four rows that match are arranged, these three are to be taken.
    have pinned : ∀ table ∈ neighbours.state.database.tables, table.declaration = Catalog.people →
        let matching :=
          table.rows.filter (table.selects (Execution.conditions Catalog.schema eldest))
        matching.length = 4 ∧ ∀ rows ∈ matching.permutations',
          (rows.take 3).Pairwise (fun a b => ¬table.Precedes eldest.order b a) →
          (∀ row ∈ rows.take 3, ∀ other ∈ rows.drop 3, ¬table.Precedes eldest.order other row) →
          (rows.take 3).map (table.shown (Catalog.schema.traits "people")
            (Execution.projection eldest)) =
              [("Binh", "p-2"), ("Anh", "p-4"), ("An", "p-1")].map fun person =>
                .object [("display_name", .string person.1), ("is_living", .bool true),
                  ("id", .string person.2)] := by
      decide +kernel
    obtain ⟨four, pinned⟩ := pinned table mem declares
    rw [← declares] at present
    rw [Request.filter_selects present] at four pinned
    have three : taken.length = 3 := by
      have count := takes.count
      rw [takes.rows.length_eq.trans four] at count
      exact count
    have first : (taken ++ left).take 3 = taken := List.take_left' three
    have rest : (taken ++ left).drop 3 = left := List.drop_left' three
    have shown := pinned (taken ++ left) (List.mem_permutations'.2 takes.rows)
    rw [first, rest] at shown
    rw [← shown takes.ordered takes.first]
    refine ⟨same, congrArg (Except.ok ∘ Json.array) (List.map_congr_left fun row _ => ?_)⟩
    exact (Table.shown_eq (declares ▸ by decide) (declares ▸ known) row).symm

end RowQuery
