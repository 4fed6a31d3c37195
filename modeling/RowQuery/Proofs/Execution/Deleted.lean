import RowQuery.Proofs.Execution.Session
import RowQuery.Proofs.Store.Cascade
import RowQuery.Proofs.Store.Restriction

/-!
# What a delete removes

A delete removes the rows of which its filters hold and all that goes with them, and nothing refuses
it but its own filters.

* `Execution.delete_cases` — a delete fails exactly if something is wrong with its restriction.
* `deleted_exactly` — the tables after a delete.
-/

namespace RowQuery

namespace Execution

variable {schema : Schema} {request : Request} {world : World Connection} {table : Table}

/-- A delete fails if something is wrong with its restriction, and otherwise the rows that it
selects are removed. -/
theorem delete_cases (sources : Sources) {query : Query} (checked : query.check = .ok request)
    (method : request.method = .delete)
    (found : world.state.database.table? request.table = some table)
    (named : '\x00' ∉ Sql.nameChars request.table)
    (readable : '\x00' ∉ Sql.clause (Sql.whereChars (conditions schema request))) :
    let done := query.execute Connection.engine sources schema world
    table.Obstructs (conditions schema request) ∧ (∃ failure, done.1 = .error failure) ∨
      ¬table.Obstructs (conditions schema request) ∧ done.1 = .ok .null ∧
        done.2.state.database = world.state.database.delete world.state.enforced table
          (conditions schema request) := by
  intro done
  have fit_iff := Connection.fit_delete_iff found named readable
  have run : done = _ := execute_respond checked world
  simp only [respond, method, delete, Run.bind_apply] at run
  rcases write_cases (.delete request.table (conditions schema request)) world with
    ⟨fault, later, wrote, -⟩ | ⟨reply, between, later, ran, wrote, same⟩
  · rw [wrote] at run
    refine .inl ⟨?_, _, congrArg Prod.fst run⟩
    -- If nothing were wrong, the statement would have been performed.
    by_contra free
    have failed := error_of_write (congrArg Prod.fst wrote)
    rw [(fit_iff.mpr free).run_eq] at failed
    cases failed
  · rw [wrote] at run
    obtain ⟨other, fit, performed⟩ := Connection.performed_of_run ran
    have own : some other = some table :=
      (Connection.table?_of_findTable rfl fit.found).symm.trans found
    cases own
    refine .inr ⟨fit_iff.mp fit, congrArg Prod.fst run, ?_⟩
    have removed : (Connection.written, world.state.database.delete world.state.enforced table
        (conditions schema request)) = (reply, between.database) := Except.ok.inj performed
    rw [run]
    exact same.trans (congrArg Prod.snd removed).symm

end Execution

/-- **What a delete removes.** In any store that is reached, a delete of rows of a declared table,
with columns that exist in its filters, fails if and only if something is wrong with a value, the
height or a pattern of its filters. Otherwise it leaves the tables without the rows that go with
those of which all filters hold, and changes nothing else. If people are deleted, that is what names
one of them as its own, and of families the places of parents are emptied. -/
theorem deleted_exactly (sources : Sources) (kind : Schema → Request → Prop)
    (world : World Connection) (reached : Reached sources kind world) (declaration : Declaration)
    (declared : declaration ∈ Catalog.tables) (schema : Schema) (query : Query) (request : Request)
    (checked : query.check = .ok request) (method : request.method = .delete)
    (about : sameName declaration.name request.table = true)
    (present : ∀ filter ∈ request.filters, ∀ column ∈ filter.columns,
      (declaration.columnIndex? column).isSome) :
    let db := world.state.database
    let done := query.execute Connection.engine sources schema world
    ∃ table ∈ db.tables, table.declaration = declaration ∧
      let picked := fun row => ∀ filter ∈ request.filters,
        filter.Holds schema request.table table row
      ((∃ failure, done.1 = .error failure) ↔
        table.Obstructs (Execution.conditions schema request)) ∧
      ∀ data, done.1 = .ok data → data = .null ∧
        done.2.state.database = db.without (fun other row => other = table ∧ picked row) ∧
        (declaration = Catalog.people → done.2.state.database =
          ⟨db.tables.map fun other => ⟨other.declaration, table.bereft picked other⟩⟩) := by
  intro db done
  obtain ⟨enforced, sound, obeys⟩ := reached.holds_admits
  obtain ⟨table, found, mem, rfl⟩ := sound.exists_table? declared about
  have named : '\x00' ∉ Sql.nameChars request.table := by
    have own := (Catalog.readable _ declared).1
    rw [Sql.null_mem_nameChars_iff] at own ⊢
    exact null_not_mem_of_sameName about own
  have readable : '\x00' ∉ Sql.clause (Sql.whereChars (Execution.conditions schema request)) :=
    Filter.readable_restriction declared present
  have shaped : ∀ table ∈ db.tables, ∀ row ∈ table.rows,
      row.cells.length = table.declaration.columns.length :=
    fun table mem row inside => (obeys table mem row inside).length_eq
  refine ⟨table, mem, rfl, ?_⟩
  intro picked
  rcases Execution.delete_cases sources checked method found named readable with
    ⟨obstructed, failed⟩ | ⟨free, answered, removed⟩
  · refine ⟨iff_of_true failed obstructed, fun data answered => ?_⟩
    obtain ⟨failure, failed⟩ := failed
    rw [failed] at answered
    cases answered
  · refine ⟨iff_of_false (fun failed => ?_) free, fun data answered' => ?_⟩
    · obtain ⟨failure, failed⟩ := failed
      have clash := answered.symm.trans failed
      cases clash
    -- The table is told by its name, and the rows that are selected by the filters.
    have picks : ∀ other ∈ db.tables, ∀ row ∈ other.rows,
        other.name = table.name ∧ table.selects (Execution.conditions schema request) row = true ↔
          other = table ∧ picked row := by
      intro other mem' row _
      refine and_congr ⟨fun same => ?_, fun same => same ▸ rfl⟩ (Filter.selects_iff_holds present)
      exact sound.eq_of_sameName mem' mem (same ▸ sameName_self _)
    have without : done.2.state.database =
        db.without fun other row => other = table ∧ picked row := by
      rw [removed, Database.delete, if_pos enforced, sound.remove_eq shaped]
      exact Database.without_congr picks
    refine ⟨Except.ok.inj (answered'.symm.trans answered), without, fun people => ?_⟩
    rw [without]
    exact sound.without_people shaped mem people

/-- Three people, a family of them, and what goes with people. -/
def clan : World Connection :=
  Query.executeAll Connection.engine (.steady 0 1) Catalog.schema [
    .request (plainRequest .insert "people" [
      [("id", .string "p-1"), ("display_name", .string "An")],
      [("id", .string "p-2"), ("display_name", .string "Binh")],
      [("id", .string "p-3"), ("display_name", .string "Chi")]] []),
    .request (plainRequest .insert "families" [
      [("id", .string "f-1"), ("father_id", .string "p-1"), ("mother_id", .string "p-2")]] []),
    .request (plainRequest .insert "children" [
      [("id", .string "c-1"), ("family_id", .string "f-1"), ("person_id", .string "p-3")],
      [("id", .string "c-2"), ("family_id", .string "f-1"), ("person_id", .string "p-1")]] []),
    .request (plainRequest .insert "events" [
      [("id", .string "e-1"), ("title", .string "feast"), ("person_id", .string "p-1")],
      [("id", .string "e-2"), ("title", .string "market")]] [])] Execution.newStore

/-- A request to delete those whose names begin alike. -/
def bury : Request := plainRequest .delete "people" [] [.matchesPattern "display_name" "a%"]

/-- The identifiers in a table. -/
def idsOf (world : World Connection) (name : String) : Option (List Cell) :=
  (world.state.database.table? name).map Table.ids

/-- The family remains without its father, and the other child and the other event remain. -/
theorem deleted_exactly_clan :
    let done := (Query.request bury).execute Connection.engine (.steady 0 1) Catalog.schema clan
    done.1 = .ok .null ∧
      (∃ people ∈ clan.state.database.tables, people.declaration = Catalog.people ∧
        done.2.state.database = ⟨clan.state.database.tables.map fun other =>
          ⟨other.declaration, people.bereft (fun row => ∀ filter ∈ bury.filters,
            filter.Holds Catalog.schema bury.table people row) other⟩⟩) ∧
      ["people", "families", "children", "events"].map (idsOf done.2) =
        [some [.text "p-2", .text "p-3"], some [.text "f-1"], some [.text "c-1"],
          some [.text "e-2"]] ∧
      (done.2.state.database.table? "families").map (·.rows.map (·.cells.take 3)) =
        some [[.text "f-1", .null, .text "p-2"]] := by
  intro done
  have reached : Reached (.steady 0 1) (fun _ _ => True) clan :=
    Reached.new.queries Catalog.schema _ fun _ _ _ _ => trivial
  have present : ∀ filter ∈ bury.filters, ∀ column ∈ filter.columns,
      (Catalog.people.columnIndex? column).isSome := by decide +kernel
  have told : done.1 = .ok .null ∧
      ["people", "families", "children", "events"].map (idsOf done.2) =
        [some [.text "p-2", .text "p-3"], some [.text "f-1"], some [.text "c-1"],
          some [.text "e-2"]] ∧
      (done.2.state.database.table? "families").map (·.rows.map (·.cells.take 3)) =
        some [[.text "f-1", .null, .text "p-2"]] := by decide +kernel
  obtain ⟨answered, left⟩ := told
  obtain ⟨people, mem, declares, -, removed⟩ := deleted_exactly (.steady 0 1) (fun _ _ => True) clan
    reached Catalog.people (by decide) Catalog.schema (.request bury) bury rfl rfl (by decide)
    present
  have same : (Query.request bury).execute Connection.engine (.steady 0 1) Catalog.schema clan =
    done := rfl
  rw [same] at removed
  exact ⟨answered, ⟨people, mem, declares, (removed .null answered).2.2 rfl⟩, left⟩

end RowQuery
