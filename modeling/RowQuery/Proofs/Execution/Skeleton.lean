import RowQuery.Proofs.Execution.Trace
import RowQuery.Proofs.Sql.Statement

/-!
# Statements against requests

The tokens of the statements that a request has run, written down from the request itself: each of
its names and values at the place that is meant for it. The texts in the transcript are these
tokens, so no name reaches beyond its place, whatever characters are in it, and the parameters go
with the placeholders one by one.

* `Execution.Skeletons` are the tokens of the statements that a request asks for.
* `Execution.skeletons_of_agenda` — the statements on the agenda of a request have these tokens.
* `Execution.transcript_fits` — so have the texts and the parameters in its transcript.
-/

namespace RowQuery

open Sql

/-- The tokens of the condition that a filter puts on the rows of a table, if it puts one. -/
def Filter.tokens? (schema : Schema) (table : String) : Filter → Option (List (Token Json))
  | equals column value =>
    some [.name column, .sign "=", .placeholder (schema.filterValue table column value)]
  | oneOf _ [] => some [.word "1", .sign "=", .word "0"]
  | oneOf column (first :: more) =>
    some ([.name column, .word "IN", .sign "("] ++
      commas ((first :: more).map fun value =>
        [.placeholder (schema.filterValue table column value)]) ++ [.sign ")"])
  | isNull column => some [.name column, .word "IS", .word "NULL"]
  | matchesPattern column pattern =>
    some [.word "unicode_lower", .sign "(", .name column, .sign ")", .word "LIKE",
      .word "unicode_lower", .sign "(", .placeholder (.string pattern), .sign ")"]
  | notNull column => some [.name column, .word "IS", .word "NOT", .word "NULL"]
  | differs column _ value =>
    some [.name column, .sign "!=", .placeholder (schema.filterValue table column value)]
  | anyOf text =>
    if Alternatives.parse text = [] then none
    else some ([.sign "("] ++ List.intercalate [.word "OR"]
      ((Alternatives.parse text).map fun alternative => [.name alternative.column,
        .sign alternative.comparison.sign, .placeholder (.string alternative.value)]) ++
      [.sign ")"])

namespace Execution

/-- The tokens of the columns that are asked for: names between commas without the blanks around
them, and without the blank ones. -/
def columnTokens : Option String → List (Token Json)
  | none => [.sign "*"]
  | some columns =>
    if columns = "" then [.sign "*"]
    else
      let listed := ((Text.splitOn ',' columns.toList).map Text.trim).filter (· ≠ [])
      commas (listed.map fun name =>
        [if name = ['*'] then .sign "*" else .name (String.ofList name)])

/-- The tokens of the filters of a request. -/
def filterTokens (schema : Schema) (request : Request) : List (Token Json) :=
  match request.filters.filterMap (Filter.tokens? schema request.table) with
  | [] => []
  | first :: more => .word "WHERE" :: List.intercalate [.word "AND"] (first :: more)

/-- The tokens of the order of a request. -/
def sortTokens : List OrderTerm → List (Token Json)
  | [] => []
  | first :: more =>
    [.word "ORDER", .word "BY"] ++ commas ((first :: more).map fun term =>
      [.name term.column, .word (if term.ascending then "ASC" else "DESC")])

/-- The tokens of the limit of a request. -/
def limitTokens : Option Int → List (Token Json)
  | none => []
  | some n => [.word "LIMIT", .placeholder (.integer n)]

/-- The tokens of a statement that reads rows with the columns that a request asks for. -/
def readTokens (request : Request) (restriction : List (Token Json)) : List (Token Json) :=
  [.word "SELECT"] ++ columnTokens request.columns ++ [.word "FROM", .name request.table] ++
    restriction

/-- The tokens of the statements for a record of an insert, by its names and the stored values. -/
def insertSkeletons (request : Request) (listed : List String) (stored : Fields) :
    List (List (Token Json)) :=
  ([.word "INSERT", .word "INTO", .name request.table, .sign "("] ++
    commas (listed.map fun name => [.name name]) ++ [.sign ")", .word "VALUES", .sign "("] ++
    commas (stored.map fun field => [.placeholder field.2]) ++ [.sign ")"]) ::
  if request.wantsRows then
    [readTokens request [.word "WHERE", .name "id", .sign "=",
      .placeholder ((Fields.get? stored "id").getD .null)]]
  else []

/-- The tokens of the statements of an update, by the names of its record and the stored values. -/
def updateSkeletons (schema : Schema) (request : Request) (listed : List String)
    (stored : Fields) : List (List (Token Json)) :=
  if listed.isEmpty then []
  else
    ([.word "UPDATE", .name request.table, .word "SET"] ++
      commas (List.zipWith (fun name value => [.name name, .sign "=", .placeholder value])
        listed (stored.map (·.2))) ++ filterTokens schema request) ::
    if request.wantsRows then [readTokens request (filterTokens schema request)] else []

/-- The tokens of the statements that a request asks for. Identifiers and instants may be any. -/
def Skeletons (schema : Schema) (request : Request) (skeletons : List (List (Token Json))) :
    Prop :=
  let traits := schema.traits request.table
  match request.method with
  | .select => skeletons = [readTokens request (filterTokens schema request ++
      sortTokens request.order ++ limitTokens request.limit)]
  | .insert => ∃ parts : List (List (List (Token Json))),
      List.Forall₂ (fun record part => ∃ identifier now,
        part = insertSkeletons request (storedNames traits (Fields.names record))
          (storedRecord traits record identifier now)) request.records parts ∧
      skeletons = parts.flatten
  | .update => ∃ now, skeletons = updateSkeletons schema request
      (changedNames traits (Fields.names request.firstRecord))
      (changedRecord traits request.firstRecord now)
  | .delete => skeletons = [[.word "DELETE", .word "FROM", .name request.table] ++
      filterTokens schema request]

/-! ### The tokens of the statements on the agenda -/

variable {schema : Schema} {request : Request}

theorem tokens?_eq (table : String) (filter : Filter) :
    filter.tokens? schema table = (filter.condition? schema table).map Condition.tokens := by
  cases filter with
  | oneOf column values =>
    cases values with
    | nil => rfl
    | cons first more =>
      show _ = some (Condition.oneOf column ((first :: more).map _)).tokens
      rw [Condition.tokens, List.map_map]
      rfl
  | anyOf text =>
    rw [Filter.tokens?, Filter.condition?]
    cases Alternatives.parse text with
    | nil => rfl
    | cons first more =>
      rw [if_neg (List.cons_ne_nil first more)]
      show _ = some (Condition.anyOf ((first :: more).map _)).tokens
      rw [Condition.tokens, List.map_map]
      rfl
  | _ => rfl

theorem whereTokens_conditions :
    whereTokens (conditions schema request) = filterTokens schema request := by
  have each : request.filters.filterMap (Filter.tokens? schema request.table) =
      (conditions schema request).map Condition.tokens := by
    rw [conditions, Filter.conditions, List.map_filterMap]
    exact congrArg (List.filterMap · request.filters) (funext (tokens?_eq request.table))
  rw [filterTokens, each]
  cases conditions schema request <;> rfl

theorem projection_tokens :
    commas ((projection request).map fun entry => [entry.token]) =
      columnTokens request.columns := by
  rw [projection]
  cases request.columns with
  | none => rfl
  | some columns =>
    rw [Projection.ofColumns, columnTokens]
    by_cases empty : columns = ""
    · rw [if_pos empty, if_pos empty]
      rfl
    · have token (name : List Char) : [(Selection.ofName name).token] =
          [if name = ['*'] then .sign "*" else .name (String.ofList name)] := by
        rw [Selection.ofName]
        split <;> rfl
      rw [if_neg empty, if_neg empty, Projection.ofText, List.map_map]
      exact congrArg commas (List.map_congr_left fun name _ => token name)

/-- A statement that reads rows has the tokens of a read. -/
theorem select_tokens (read : List Condition) (order : List OrderTerm) (limit : Option Int) :
    (Statement.select (projection request) request.table read order limit).tokens =
      readTokens request (whereTokens read ++ sortTokens order ++ limitTokens limit) := by
  have sorted : (if order.isEmpty then []
      else [.word "ORDER", .word "BY"] ++ commas (order.map orderTokens)) = sortTokens order := by
    cases order <;> rfl
  cases limit <;>
    simp only [Statement.tokens, projection_tokens, sorted, readTokens, limitTokens,
      List.append_assoc]

theorem recordStatements_tokens (stored : Fields) :
    (recordStatements request stored).map Statement.tokens =
      insertSkeletons request (Fields.names stored) stored := by
  have names : commas (stored.map fun field => [(Token.name field.1 : Token Json)]) =
      commas ((Fields.names stored).map fun name => [Token.name name]) := by
    rw [Fields.map_names]
  rw [recordStatements, insertSkeletons, List.map_cons, Statement.tokens, names]
  by_cases wanted : request.wantsRows
  · rw [if_pos wanted, if_pos wanted, List.map_singleton, rereadStatement, select_tokens]
    rfl
  · rw [if_neg wanted, if_neg wanted]
    rfl

theorem updateStatements_tokens (stored : Fields) :
    (updateStatements schema request stored).map Statement.tokens =
      updateSkeletons schema request (Fields.names stored) stored := by
  have settings : List.zipWith (fun name value => [Token.name name, .sign "=", .placeholder value])
      (Fields.names stored) (stored.map (·.2)) =
        stored.map fun field => [.name field.1, .sign "=", .placeholder field.2] := by
    rw [Fields.names, List.zipWith_map, List.zipWith_self]
  rw [updateStatements, updateSkeletons, Fields.isEmpty_names, settings]
  by_cases nothing : stored.isEmpty
  · rw [if_pos nothing, if_pos nothing]
    rfl
  · rw [if_neg nothing, if_neg nothing, List.map_cons, Statement.tokens, whereTokens_conditions]
    by_cases wanted : request.wantsRows
    · rw [if_pos wanted, if_pos wanted, List.map_singleton, select_tokens, whereTokens_conditions]
      simp [sortTokens, limitTokens]
    · rw [if_neg wanted, if_neg wanted]
      rfl

/-- The statements on the agenda of a request have the tokens that the request asks for. -/
theorem skeletons_of_agenda {statements : List Statement}
    (h : Agenda schema request statements) :
    Skeletons schema request (statements.map Statement.tokens) := by
  unfold Agenda at h
  unfold Skeletons
  cases method : request.method with
  | select =>
    rw [method] at h
    subst h
    show [Statement.tokens _] = _
    rw [selectStatement, select_tokens, whereTokens_conditions]
  | insert =>
    rw [method] at h
    obtain ⟨stored, each, rfl⟩ := h
    -- One part for each record, and in it the statements for that record.
    refine ⟨stored.map fun fields => (recordStatements request fields).map Statement.tokens, ?_, ?_⟩
    · rw [List.forall₂_map_right_iff]
      refine each.imp ?_
      rintro record _ ⟨identifier, now, rfl⟩
      exact ⟨identifier, now, by rw [recordStatements_tokens, names_storedRecord]⟩
    · rw [List.map_flatMap, List.flatMap_def]
  | update =>
    rw [method] at h
    obtain ⟨now, rfl⟩ := h
    exact ⟨now, by rw [updateStatements_tokens, names_changedRecord]⟩
  | delete =>
    rw [method] at h
    subst h
    show [Statement.tokens _] = _
    rw [Statement.tokens, whereTokens_conditions]

/-- **The statements in a transcript have the tokens that the request asks for**, in this order and
up to a fault: in the text of each every name is what the request has at that place, and every
parameter is the value for the placeholder at its place. -/
theorem transcript_fits (sources : Sources) (schema : Schema) (query : Query) (request : Request)
    (script : List ScriptedReply) (registered : Bool) (draws : Draws)
    (checked : query.check = .ok request) :
    ∃ skeletons, Skeletons schema request skeletons ∧
      (∃ n, List.Forall₂ (fun given skeleton => Fits given.1 given.2 skeleton)
        ((transcript sources schema query script registered draws).filterMap Event.given?)
        (skeletons.take n)) ∧
      ∀ text params,
        Event.statement text params ∈ transcript sources schema query script registered draws →
          (Sql.tokens text.toList).map (·.countP Token.isPlaceholder) = some params.length := by
  obtain ⟨statements, listed, front⟩ :=
    transcript_given sources schema request checked script registered draws
  -- A fault leaves the first statements only; how many, does not matter.
  obtain ⟨n, cut⟩ : ∃ n, (transcript sources schema query script registered draws).filterMap
      Event.given? = (statements.take n).map (·.given) :=
    ⟨_, (List.prefix_iff_eq_take.mp front).trans List.map_take.symm⟩
  rw [cut]
  refine ⟨_, skeletons_of_agenda listed, ⟨n, ?_⟩, ?_⟩
  · rw [← List.map_take, List.forall₂_map_left_iff, List.forall₂_map_right_iff]
    exact List.forall₂_same.mpr fun statement _ => statement.fits
  · intro text params mem
    have given : (text, params) ∈ (statements.take n).map (·.given) :=
      cut ▸ List.mem_filterMap.mpr ⟨_, mem, rfl⟩
    obtain ⟨statement, -, same⟩ := List.mem_map.mp given
    obtain ⟨rfl, rfl⟩ := Prod.mk.inj same
    exact statement.fits.count_placeholders

/-- A request whose names hold quotes, placeholders, brackets and keywords. -/
def oddNames : Request where
  table := "mem\"bers"
  method := .select
  columns := some " ?,, *"
  body := .absent
  filters := [.equals "a\" = ? OR \"b" (.integer 1), .oneOf "?" [], .anyOf "(.gt.1,, or.eq.x"]
  order := []
  limit := some 3
  single := false
  maybeSingle := false

theorem transcript_fits_oddNames :
    (Query.request oddNames).check = .ok oddNames ∧
    ∃ skeletons, Skeletons ⟨[]⟩ oddNames skeletons ∧
      ∃ n, List.Forall₂ (fun given skeleton => Fits given.1 given.2 skeleton)
        [("SELECT \"?\", * FROM \"mem\"\"bers\" WHERE \"a\"\" = ? OR \"\"b\" = ? AND 1 = 0 AND " ++
            "(\"(\" > ? OR \"or\" = ?) LIMIT ?",
          [.integer 1, .string "1", .string "x", .integer 3])] (skeletons.take n) := by
  obtain ⟨skeletons, listed, fits, -⟩ := transcript_fits (.steady 0 1) ⟨[]⟩ (.request oddNames)
    oddNames [] true Draws.none rfl
  have given : (transcript (.steady 0 1) ⟨[]⟩ (.request oddNames) [] true
      Draws.none).filterMap Event.given? =
      [("SELECT \"?\", * FROM \"mem\"\"bers\" WHERE \"a\"\" = ? OR \"\"b\" = ? AND 1 = 0 AND " ++
          "(\"(\" > ? OR \"or\" = ?) LIMIT ?",
        [.integer 1, .string "1", .string "x", .integer 3])] := by decide +kernel
  rw [given] at fits
  exact ⟨rfl, skeletons, listed, fits⟩

end Execution

end RowQuery
