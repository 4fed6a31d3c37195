import RowQuery.Proofs.Execution.Faultless
import RowQuery.Proofs.Execution.Listing

/-!
# A single row that is asked for

A select of a single row should be answered with the row if there is exactly one, and with a failure
otherwise. It is answered with the first row if there are several.

* `Answer.OfSingle` is what is promised of a single row.
* `single_kept_iff` — on any engine, the promise is kept if and only if the reply has one row at
  most.
* `single_kept_in_store` — in a store, it is kept where the filters leave one row at most, or the
  limit does.
-/

namespace RowQuery

variable {σ : Type}

/-- What is promised of a single row: the answer is the row if there is exactly one, and else the
failure of a missing row. -/
def Answer.OfSingle (rows : List Json) (answer : Answer) : Prop :=
  match rows with
  | [row] => answer = .ok row
  | _ => answer = .error .noRow

/-- Of an answer with a single row the rows are told by the first one only. -/
theorem Execution.cardinality_of_single {request : Request} (single : request.single = true)
    (rows : List Json) : cardinality request rows = rows.head?.elim (.error .noRow) .ok := by
  rw [cardinality.eq_def, if_pos single]
  cases rows <;> rfl

/-- So the promise is kept if there is one row at most. -/
theorem Execution.ofSingle_cardinality_iff {request : Request} (single : request.single = true)
    (rows : List Json) : (cardinality request rows).OfSingle rows ↔ rows.length ≤ 1 := by
  rw [cardinality_of_single single]
  match rows with
  | [] => exact iff_of_true rfl (Nat.zero_le 1)
  | [row] => exact iff_of_true rfl (Nat.le_refl 1)
  | row :: other :: rest =>
    refine iff_of_false (fun kept => ?_) (by simp)
    cases kept

/-! ### Any engine -/

/-- **A single row is the first one of the reply.** Whatever an engine replies to a select of a
single row, and whatever else the request asks for, the answer is the failure of a missing row if
the reply has no row, and else the first row, in logical form. So a reply is answered as promised if
and only if it has one row at most. -/
theorem single_kept_iff (engine : Engine σ) (sources : Sources) (schema : Schema) (query : Query)
    (request : Request) (checked : query.check = .ok request) (method : request.method = .select)
    (single : request.single = true) (world : World σ) :
    let answer := (query.execute engine sources schema world).1
    let outcome := (engine.run (Execution.selectStatement schema request)
      (engine.openCursor (engine.prepare world.state))).1
    (∀ fault, outcome = .error fault → answer = .error (.ofFault fault)) ∧
      ∀ reply, outcome = .ok reply →
        let rows := reply.records.map fun record =>
          Json.object ((schema.traits request.table).toLogical record)
        rows.length = reply.rows.length ∧
          (answer = .error .noRow ↔ rows = []) ∧
          (∀ data, answer = .ok data ↔ ∃ rest, rows = data :: rest) ∧
          (answer.OfSingle rows ↔ rows.length ≤ 1) ∧
          Failure.noRow.code = some "PGRST116" ∧
          Answer.document (.error .noRow) =
            .object [("data", .null), ("error", Failure.noRow.document)] := by
  intro answer outcome
  have answered : answer = _ := Execution.execute_of_select checked method world
  refine ⟨fun fault failed => ?_, fun reply replied => ?_⟩
  · rw [answered, Execution.select_apply_fault (Prod.ext failed rfl)]
    rfl
  · intro rows
    have listed : answer = Execution.cardinality request rows := by
      rw [answered, Execution.select_apply (Prod.ext replied rfl)]
      rfl
    refine ⟨?_, ?_, fun data => ?_, ?_, rfl, rfl⟩
    · rw [List.length_map, Reply.records, List.length_map]
    · rw [listed, Execution.cardinality_of_single single]
      cases rows <;> simp
    · rw [listed, Execution.cardinality_of_single single]
      cases rows <;> simp [eq_comm]
    · rw [listed]
      exact Execution.ofSingle_cardinality_iff single rows

/-- A request for the identifier of a single person. -/
def onePerson : Request :=
  { plainRequest .select "people" [] [] with columns := some "id", single := true }

/-- An engine that replies with rows of identifiers. -/
def repliesWith (rows : List (List Json)) : World Transcript :=
  ⟨Transcript.start [.rows ⟨["id"], rows⟩ none] false, Draws.none⟩

/-- One row is answered with as promised. -/
theorem single_kept_iff_onePerson :
    let answer := ((Query.request onePerson).execute Transcript.engine (.steady 0 1) Catalog.schema
      (repliesWith [[.string "p-1"]])).1
    answer = .ok (.object [("id", .string "p-1")]) ∧
      answer.OfSingle [.object [("id", .string "p-1")]] := by
  intro answer
  obtain ⟨-, -, data, kept, -⟩ := (single_kept_iff Transcript.engine (.steady 0 1) Catalog.schema
    (.request onePerson) onePerson rfl rfl rfl (repliesWith [[.string "p-1"]])).2
    ⟨["id"], [[.string "p-1"]]⟩ rfl
  exact ⟨(data _).mpr ⟨[], rfl⟩, kept.mpr (Nat.le_refl 1)⟩

/-- **Of two rows the second one is not noticed.** The engine replies with two people, and the
answer is one of them. -/
theorem execute_single_of_two :
    let world := repliesWith [[.string "p-1"], [.string "p-2"]]
    (Transcript.engine.run (Execution.selectStatement Catalog.schema onePerson)
      (Transcript.engine.openCursor (Transcript.engine.prepare world.state))).1 =
        .ok ⟨["id"], [[.string "p-1"], [.string "p-2"]]⟩ ∧
      ((Query.request onePerson).execute Transcript.engine (.steady 0 1) Catalog.schema world).1 =
        .ok (.object [("id", .string "p-1")]) ∧
      ¬((Query.request onePerson).execute Transcript.engine (.steady 0 1) Catalog.schema
        world).1.OfSingle [.object [("id", .string "p-1")], .object [("id", .string "p-2")]] := by
  intro world
  have answered : ((Query.request onePerson).execute Transcript.engine (.steady 0 1) Catalog.schema
      world).1 = .ok (.object [("id", .string "p-1")]) := by decide +kernel
  refine ⟨by decide +kernel, answered, fun promise => ?_⟩
  cases answered.symm.trans promise

/-! ### A store -/

/-- **In a store, a single row is the first of those that are taken.** A select of a single row
fails as its statement does, or it is answered with the first row of those that meet its filters, in
its order. It is answered as promised if and only if its filters leave one row at most, or its limit
allows no more. -/
theorem single_kept_in_store (sources : Sources) (kind : Schema → Request → Prop)
    (world : World Connection) (reached : Reached sources kind world) (declaration : Declaration)
    (declared : declaration ∈ Catalog.tables) (schema : Schema) (query : Query) (request : Request)
    (checked : query.check = .ok request) (method : request.method = .select)
    (single : request.single = true) (about : sameName declaration.name request.table = true)
    (present : ∀ filter ∈ request.filters, ∀ column ∈ filter.columns,
      (declaration.columnIndex? column).isSome)
    (sorts : ∀ term ∈ request.order, (declaration.columnIndex? term.column).isSome) :
    let answer := (query.execute Connection.engine sources schema world).1
    (∃ fault, answer = .error (.ofFault fault)) ∨
      ∃ table ∈ world.state.database.tables, table.declaration = declaration ∧
        ∃ taken left, request.Takes schema table taken left ∧
          let rows := taken.map
            (table.shown (schema.traits request.table) (Execution.projection request))
          answer = rows.head?.elim (.error .noRow) .ok ∧
            (answer.OfSingle rows ↔ (taken ++ left).length ≤ 1 ∨
              ∃ limit, request.limit = some limit ∧ 0 ≤ limit ∧ limit ≤ 1) := by
  intro answer
  rcases Execution.exists_taken reached.holds_admits.sound declared checked method about present
    sorts with failed | ⟨-, table, mem, declares, taken, left, takes, listed⟩
  · exact .inl failed
  · refine .inr ⟨table, mem, declares, taken, left, takes, ?_, ?_⟩
    · rw [← Execution.cardinality_of_single single]
      exact listed
    · have listed : answer = _ := listed
      have count := takes.count
      rw [listed, Execution.ofSingle_cardinality_iff single, List.length_map, count]
      cases request.limit with
      | none => simp
      | some limit =>
        simp only [Option.elim_some, Option.some.injEq, exists_eq_left']
        split <;> omega

end RowQuery
