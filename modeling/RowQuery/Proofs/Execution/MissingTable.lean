import Mathlib.Data.List.Find
import RowQuery.Proofs.Execution.Answer
import RowQuery.Proofs.Execution.Session
import RowQuery.Proofs.Store.Begun
import RowQuery.Proofs.Store.Refusal

/-!
# Tables that are missing

A select from a table that does not exist fails, and the failure quotes the name of the table. Its
code is looked for in the text that quotes the name, so the name can have a part in it.

* `StoreFault.code?_noTable_eq` — the code of the fault is that of a broken constraint if the name
  tells of one, and that of a missing table else.
* `Connection.run_of_lacks` and `Connection.lacks_of_code?` — a select that the store can read fails
  for its table if that is missing, and has the code of a missing table only then.
* `Execution.undefinedTable_iff` — when the answer to a select has the code of a missing table.
-/

namespace RowQuery

/-- A part that begins with a character which does not come up in front is found behind the front or
not at all. -/
theorem Text.contains_append_of_not_mem {c : Char} {front : List Char} (absent : c ∉ front)
    (part rest : List Char) :
    contains (c :: part) (front ++ rest) = contains (c :: part) rest := by
  induction front with
  | nil => rfl
  | cons d front ih =>
    rw [List.mem_cons, not_or] at absent
    have here : (c :: part).isPrefixOf (d :: (front ++ rest)) = false := by
      rw [List.isPrefixOf, beq_eq_false_iff_ne.mpr absent.1, Bool.false_and]
    rw [List.cons_append, contains, here, Bool.false_or, ih absent.2]

/-! ### The code of the fault -/

namespace Fault

/-- The code of a missing table. -/
def undefinedTable : String := "42P01"

/-- The markers of broken constraints, which are looked for before that of a missing table. -/
def constraintMarkers : List (String × String) := markers.take 4

/-- The code of the failure of a select from a missing table, by the name of the table. -/
def missingTableCode (name : String) : String :=
  ((constraintMarkers.find? fun marker => mentions name marker.1).map (·.2)).getD undefinedTable

theorem missingTableCode_eq_iff {name : String} : missingTableCode name = undefinedTable ↔
    ∀ marker ∈ constraintMarkers, mentions name marker.1 = false := by
  have others : ∀ marker ∈ constraintMarkers, marker.2 ≠ undefinedTable := by decide
  rw [missingTableCode]
  cases found : constraintMarkers.find? fun marker => mentions name marker.1 with
  | none =>
    refine iff_of_true rfl fun marker mem => ?_
    exact Bool.eq_false_iff.mpr (List.find?_eq_none.mp found marker mem)
  | some marker =>
    have mem := List.mem_of_find?_eq_some found
    have mentioned : mentions name marker.1 = true := by simpa using List.find?_some found
    refine iff_of_false (others marker mem) fun none => ?_
    exact absurd (none marker mem) (by simp [mentioned])

end Fault

namespace StoreFault

open Fault

theorem text_noTable (name : String) : (noTable name).fault.text = "no such table: " ++ name := by
  refine text_of_mem (c := 'n') ?_
  show 'n' ∈ ("no such table: " ++ name).toList
  rw [String.toList_append]
  exact List.mem_append_left _ (by decide)

/-- Of the markers of broken constraints the text has those that the name of the table has. -/
theorem mentions_noTable (name : String) : ∀ marker ∈ constraintMarkers,
    mentions (noTable name).fault.text marker.1 = mentions name marker.1 := by
  -- Each of them begins with a capital letter, and the words in front of the name have none.
  have capital : ∀ marker ∈ constraintMarkers, marker.1.toList ≠ [] ∧
      marker.1.toList.headD ' ' ∉ "no such table: ".toList := by decide
  intro marker mem
  obtain ⟨filled, absent⟩ := capital marker mem
  obtain ⟨c, part, begins⟩ := List.exists_cons_of_ne_nil filled
  rw [begins, List.headD_cons] at absent
  rw [mentions, mentions, text_noTable, String.toList_append, begins,
    Text.contains_append_of_not_mem absent]

/-- **The name of a missing table can have a part in the code** of the fault that quotes it. -/
theorem code?_noTable_eq (name : String) :
    (noTable name).fault.code? = some (missingTableCode name) := by
  have split : markers = constraintMarkers ++ markers.drop 4 := rfl
  have quoted : mentions (noTable name).fault.text "no such table" = true := by
    rw [mentions, text_noTable, String.toList_append]
    exact Text.contains_append "no such table".toList (": ".toList ++ name.toList)
  have next : ((markers.drop 4).find? fun marker => mentions (noTable name).fault.text marker.1) =
      some ("no such table", undefinedTable) := List.find?_cons_of_pos quoted
  rw [code?, split, List.find?_append, List.find?_congr (mentions_noTable name), next,
    missingTableCode]
  cases constraintMarkers.find? fun marker => mentions name marker.1 <;> rfl

/-- Of the faults that quote no name which a statement writes, only that of a missing table has the
code of one. -/
theorem exists_noTable_of_code? {f : StoreFault} (unquoted : ¬f.QuotesName)
    (code : f.fault.code? = some undefinedTable) : ∃ name, f = noTable name := by
  revert code
  refine not_imp_not.mp fun other => ?_
  cases f with
  | readOnly _ | noColumn _ | noInsertColumn _ _ => exact absurd trivial unquoted
  | noTable name => exact absurd ⟨name, rfl⟩ other
  | tooDeep limit => exact code?_tooDeep limit (by decide)
  | notNull table column => exact code?_notNull table column (by decide)
  | notUnique table columns => exact code?_notUnique table columns (by decide)
  | unsupported position kind =>
    refine code?_unsupported position (Decidable.or_iff_not_imp_left.mpr fun list => ?_) (by decide)
    exact Decidable.byContradiction fun dict => unquoted ⟨list, dict⟩
  | nullCharacter | noColumns | tooManyParams | tooManyAssigned | notDatabase | tooManyColumns
  | tooManyTerms | hugeInteger | patternTooComplex | mismatch | dangling => decide

end StoreFault

/-! ### Statements -/

namespace Connection

open Fault

variable {connection : Connection}

/-- A statement that the store can read fails for its table if that is missing. -/
theorem run_of_lacks {statement : Sql.Statement} (text : textRefusal? statement = none)
    (lacks : connection.Lacks (tableName statement)) :
    connection.run statement =
      (.error (StoreFault.noTable (tableName statement)).fault, connection) := by
  have missing : connection.findTable statement = .error (.noTable (tableName statement)) := by
    rw [findTable]
    simp only [lacks.1, lacks.2]
  refine run_of_prepare_error ?_
  rw [prepare]
  simp only [text, missing]

/-- A statement that the store cannot read fails for that. -/
theorem run_of_textRefusal? {statement : Sql.Statement} {f : StoreFault}
    (text : textRefusal? statement = some f) :
    connection.run statement = (.error f.fault, connection) := by
  refine run_of_prepare_error ?_
  rw [prepare]
  simp only [text]

/-- A statement that reads has the code of a missing table only if it is one that the store can
read, from a table that is missing. -/
theorem lacks_of_code? {statement : Sql.Statement} {fault : Fault}
    (reads : writes statement = false) (h : (connection.run statement).1 = .error fault)
    (code : fault.code? = some undefinedTable) :
    textRefusal? statement = none ∧ connection.Lacks (tableName statement) := by
  have reads' : writes statement ≠ true := by simp [reads]
  obtain ⟨f, rfl, ⟨rejected, -⟩ | ⟨stopped, -⟩⟩ := run_error (Prod.ext h rfl)
  · have unquoted : ¬f.QuotesName := by
      obtain ⟨-, _, -, column⟩ | unquoted :=
        rejected.column_or_not_quotesName fun written => absurd written reads'
      · exact absurd (columnRefusal?_fault column).1 reads'
      · exact unquoted
    obtain ⟨missing, rfl⟩ := StoreFault.exists_noTable_of_code? unquoted code
    cases rejected with
    | text refused =>
      have other : ∀ f ∈ textFaults, f ≠ .noTable missing := by
        simp [textFaults, Sql.Measure.faults]
      exact absurd rfl (other _ (textRefusal?_fault refused))
    | table text missed =>
      obtain ⟨lacks, -⟩ | ⟨written, -⟩ := findTable_fault missed
      · exact ⟨text, lacks⟩
      · exact absurd written reads'
    | column text found refused => exact absurd (columnRefusal?_fault refused).1 reads'
    | size refused => exact absurd (sizeRefusal?_fault refused) (by simp)
  · obtain ⟨missing, rfl⟩ := StoreFault.exists_noTable_of_code? stopped.not_quotesName code
    exact absurd stopped.late id

end Connection

/-! ### Requests -/

namespace Execution

open Connection Fault

/-- What the store needs of a select to read it: there is no null character in its text, it asks for
a column, its conditions are not too high, and it has not too many values. -/
structure Readable (schema : Schema) (request : Request) : Prop where
  plain : '\x00' ∉ (selectStatement schema request).chars
  asks : projection request ≠ []
  low : Sql.tooHigh (conditions schema request) = false
  few : (selectStatement schema request).params.length ≤ Sql.maxParams

variable {sources : Sources} {schema : Schema} {request : Request}

theorem textRefusal?_eq_none_iff :
    textRefusal? (selectStatement schema request) = none ↔ Readable schema request := by
  refine textRefusal?_select_eq_none_iff.trans ?_
  constructor
  · exact fun ⟨asks, plain, bounded⟩ => ⟨plain, asks, bounded.low, bounded.few⟩
  · exact fun readable => ⟨readable.asks, readable.plain, readable.low, readable.few, Nat.zero_le _⟩

/-- A select that the store refuses is answered with the failure, and changes nothing. -/
theorem execute_of_refused {query : Query} {world : World Connection} {fault : Fault}
    (checked : query.check = .ok request) (method : request.method = .select)
    (refused : world.state.run (selectStatement schema request) = (.error fault, world.state)) :
    query.execute Connection.engine sources schema world = (.error (.ofFault fault), world) := by
  have queried : Run.query Connection.engine (selectStatement schema request) world =
      (.error fault, world) := by
    rw [query_apply, refused]
  have stopped : respond Connection.engine sources schema request world =
      (.error fault, world) := by
    rw [respond, method]
    show (fetch _ _ _ _ >>= _) world = _
    rw [fetch, bind_assoc, Run.bind_apply, queried]
  rw [execute_respond checked, stopped]
  rfl

/-- What stops a select is the fault of its statement. -/
theorem run_error_of_respond {world : World Connection} {fault : Fault}
    (method : request.method = .select)
    (stopped : (respond Connection.engine sources schema request world).1 = .error fault) :
    (world.state.run (selectStatement schema request)).1 = .error fault := by
  rw [respond, method] at stopped
  change ((fetch _ _ _ _ >>= _) world).1 = _ at stopped
  rw [fetch, bind_assoc, Run.bind_apply, query_apply] at stopped
  cases ran : (world.state.run (selectStatement schema request)).1 with
  | ok reply =>
    rw [ran] at stopped
    cases stopped
  | error found =>
    rw [ran] at stopped
    cases stopped
    rfl

/-- **A select from a missing table fails**, and changes nothing. If the store can read it, the
message names the table. The code is that of a missing table if and only if the store can read the
select, the table is missing, and its name does not tell of a broken constraint; if it does, the
code is that of the constraint. -/
theorem undefinedTable_iff (sources : Sources) (schema : Schema) (query : Query) (request : Request)
    (world : World Connection) (checked : query.check = .ok request)
    (method : request.method = .select) :
    let done := query.execute Connection.engine sources schema world
    (world.state.Lacks request.table → done.2 = world ∧
        ∃ failure, done.1 = .error failure ∧ (Readable schema request →
          failure.message = "no such table: " ++ request.table ∧
            failure.code = some (missingTableCode request.table))) ∧
      ((∃ failure, done.1 = .error failure ∧ failure.code = some undefinedTable) ↔
        Readable schema request ∧ world.state.Lacks request.table ∧
          ∀ marker ∈ constraintMarkers, mentions request.table marker.1 = false) := by
  intro done
  have missed (readable : Readable schema request) (lacks : world.state.Lacks request.table) :
      done = (.error (.ofFault (StoreFault.noTable request.table).fault), world) :=
    execute_of_refused checked method (run_of_lacks (textRefusal?_eq_none_iff.mpr readable) lacks)
  refine ⟨fun lacks => ?_, ?_, fun ⟨readable, lacks, plain⟩ => ?_⟩
  · cases text : textRefusal? (selectStatement schema request) with
    | none =>
      have readable := textRefusal?_eq_none_iff.mp text
      rw [missed readable lacks]
      refine ⟨rfl, _, rfl, fun _ => ⟨?_, ?_⟩⟩
      · rw [Failure.message_ofFault, StoreFault.text_noTable]
      · rw [Failure.code_ofFault, StoreFault.code?_noTable_eq]
    | some f =>
      have refused : done = (.error (.ofFault f.fault), world) :=
        execute_of_refused checked method (run_of_textRefusal? text)
      rw [refused]
      refine ⟨rfl, _, rfl, fun readable => ?_⟩
      cases text.symm.trans (textRefusal?_eq_none_iff.mpr readable)
  · rintro ⟨failure, failed, code⟩
    have answered : (answer Connection.engine sources schema request world).1 = .error failure := by
      rw [← failed]
      show _ = (query.execute _ _ _ _).1
      rw [Query.execute, checked]
    -- Of itself a select fails only for a missing row, and that has another code.
    rcases error_of_answer answered with rfl | rfl | ⟨fault, stopped, rfl⟩
    · exact absurd code (by decide)
    · exact absurd code (by decide)
    · rw [Failure.code_ofFault] at code
      have ran := run_error_of_respond method stopped
      obtain ⟨text, lacks⟩ := lacks_of_code? rfl ran code
      have readable := textRefusal?_eq_none_iff.mp text
      refine ⟨readable, lacks, missingTableCode_eq_iff.mp ?_⟩
      have same : fault = (StoreFault.noTable request.table).fault := by
        have missing := congrArg Prod.fst (run_of_lacks text lacks)
        exact Except.error.inj (ran.symm.trans missing)
      rw [same, StoreFault.code?_noTable_eq] at code
      exact Option.some.inj code
  · refine ⟨_, congrArg Prod.fst (missed readable lacks), ?_⟩
    rw [Failure.code_ofFault, StoreFault.code?_noTable_eq, missingTableCode_eq_iff.mpr plain]

/-- A request for all that a table has. -/
def selectFrom (table : String) : Request := plainRequest .select table [] []

/-- The name of a table, with words for mistakes of other kinds. -/
def otherMistakes : String := "no such column: x, has no column named y, syntax error"

/-- The words for other mistakes make no difference in the name of a missing table. -/
theorem undefinedTable_iff_otherMistakes :
    newStore.state.Lacks otherMistakes ∧
      let done := (Query.request (selectFrom otherMistakes)).execute Connection.engine
        (.steady 0 1) Catalog.schema newStore
      done.2 = newStore ∧
        ∃ failure, done.1 = .error failure ∧ failure.code = some undefinedTable := by
  have lacks : newStore.state.Lacks otherMistakes := by decide +kernel
  have readable : Readable Catalog.schema (selectFrom otherMistakes) :=
    ⟨by decide +kernel, by decide +kernel, by decide +kernel, by decide +kernel⟩
  obtain ⟨fails, told⟩ := undefinedTable_iff (.steady 0 1) Catalog.schema
    (.request (selectFrom otherMistakes)) (selectFrom otherMistakes) newStore rfl rfl
  exact ⟨lacks, (fails lacks).1, told.mpr ⟨readable, lacks, by decide +kernel⟩⟩

/-- **A table that is missing passes for a repeated value** if its name speaks of one. -/
theorem execute_select_misleadingName :
    newStore.state.Lacks "UNIQUE constraint failed" ∧
      (Query.document (selectFrom "UNIQUE constraint failed").document).check.toOption =
        some (selectFrom "UNIQUE constraint failed") ∧
      Readable Catalog.schema (selectFrom "UNIQUE constraint failed") ∧
      ∃ failure, ((Query.document (selectFrom "UNIQUE constraint failed").document).execute
          Connection.engine (.steady 0 1) Catalog.schema newStore).1 = .error failure ∧
        failure.message = "no such table: UNIQUE constraint failed" ∧
        failure.code = some "23505" ∧ failure.code ≠ some undefinedTable := by
  refine ⟨by decide +kernel, by decide +kernel,
    ⟨by decide +kernel, by decide +kernel, by decide +kernel, by decide +kernel⟩,
    .uniqueViolation "no such table: UNIQUE constraint failed", by decide +kernel, rfl, rfl, ?_⟩
  decide

end Execution

end RowQuery
