import RowQuery.Proofs.Execution.Faultless
import RowQuery.Proofs.Execution.TruthFilters
import RowQuery.Proofs.Store.Pattern
import RowQuery.Proofs.Store.Restriction

/-!
# Searching for a part

A filter that looks for a part of a text, whatever the case of its letters, should find every text
that has the part. It compares the lower case of the text with the lower case of the part, and the
two need not agree on a capital sigma: whether it becomes a final one depends on the letters around
it.

* `Cell.hasPart` — the lower case of a text has that of a part.
* `Table.selects_surrounded` — this is what the condition of the filter looks at.
* `search_lists_parts` — which rows a search lists.
-/

namespace RowQuery

open Pattern (surrounded)

/-- Whether a cell is a text whose lower case has that of a part, up to the first null character. -/
def Cell.hasPart (part : String) : Cell → Bool
  | .text s =>
    decide (Text.lowerChars part.toList <:+: Text.lowerChars (Pattern.upToNull s.toList))
  | _ => false

/-- A text has its steady parts, up to its first null character. -/
theorem Cell.hasPart_of_steady {text part : String} {before after : List Char}
    (split : text.toList = before ++ part.toList ++ after)
    (early : '\x00' ∉ before ++ part.toList) (steady : Text.Steady before part.toList after) :
    (Cell.text text).hasPart part = true := by
  have kept : Pattern.upToNull text.toList =
      before ++ part.toList ++ Pattern.upToNull after := by
    rw [split, Pattern.upToNull_append early]
  have steady' : Text.Steady before part.toList (Pattern.upToNull after) := by
    intro front back whole
    have rest : '\x00' ∉ back := fun mem => early (List.mem_append_right _ (by simp [whole, mem]))
    have same := steady front back whole
    rw [Text.endsWord, ← Pattern.startsCased_upToNull, Pattern.upToNull_append rest] at same
    exact same
  show decide _ = true
  rw [kept]
  exact decide_eq_true (Text.lowerChars_infix steady')

namespace Table

variable {table : Table} {column : Column} {row : Row}

/-- In a column of texts a search looks for the part in the lower case of the cell. -/
theorem selects_surrounded (declared : table.declaration ∈ Catalog.tables)
    (obeys : row.Obeys Column.Admits table.declaration) (mem : column ∈ table.declaration.columns)
    (texts : column.type.storage = .text) {part : String}
    (plain : ∀ c ∈ part.toList, c ≠ '%' ∧ c ≠ '_' ∧ c ≠ '\x00') :
    table.selects [.like column.name (surrounded part)] row =
      (table.cell row column.name).hasPart part := by
  obtain ⟨index, here⟩ := List.mem_iff_getElem?.mp mem
  have cell := table.cell_eq declared here row
  rw [selects, List.all_cons, List.all_nil, Bool.and_true, truth,
    Filter.read_source row (Catalog.columnIndex?_isSome mem), cell]
  rcases obeys.cell here texts with null | ⟨s, text⟩
  · rw [null]
    rfl
  · rw [text]
    show decide
      (some (Pattern.matchesText (Text.lowerChars (surrounded part).toList) _) = some true) =
        decide _
    refine decide_eq_decide.mpr ?_
    rw [Option.some_inj]
    exact Pattern.matchesText_surrounded_iff plain s.toList

end Table

namespace Execution

variable {query : Query} {request : Request} {table : Table} {column : Column} {part : String}
  {world : World Connection}

/-- A request that looks for a part in a column of a table, and for nothing else. -/
structure Searches (request : Request) (table : Table) (column : Column) (part : String) :
    Prop where
  reads : request.ReadsAll table.name
  many : request.Many
  filters : request.filters = [.matchesPattern column.name (surrounded part)]

theorem Searches.conditions_eq (search : Searches request table column part) (schema : Schema) :
    conditions schema request = [.like column.name (surrounded part)] := by
  rw [conditions, search.filters]
  rfl

/-- All that can be wrong with a search is the length of its pattern. -/
theorem Searches.readable (search : Searches request table column part) (schema : Schema)
    (declared : table.declaration ∈ Catalog.tables) (mem : column ∈ table.declaration.columns) :
    '\x00' ∉ Sql.clause (Sql.whereChars (conditions schema request)) ∧
      Sql.tooHigh (conditions schema request) = false ∧
      (Sql.whereParams (conditions schema request)).length ≤ Sql.maxParams ∧
      Cell.bindFault? 1 (Sql.whereParams (conditions schema request)) = none := by
  refine ⟨Filter.readable_restriction declared fun filter listed name looked => ?_, ?_, ?_, ?_⟩
  · rw [search.filters, List.mem_singleton] at listed
    rw [listed] at looked
    rw [List.mem_singleton.mp looked]
    exact Catalog.columnIndex?_isSome mem
  · rw [search.conditions_eq]
    rfl
  · have one : 1 ≤ Sql.maxParams := by decide
    rw [search.conditions_eq]
    exact one
  · rw [search.conditions_eq]
    rfl

/-- A search lists the rows whose text has the part, by its lower case. -/
theorem lists_of_searches (sources : Sources) (schema : Schema)
    (held : world.state.Holds Column.Admits) (member : table ∈ world.state.database.tables)
    (mem : column ∈ table.declaration.columns) (texts : column.type.storage = .text)
    (checked : query.check = .ok request) (search : Searches request table column part)
    (plain : ∀ c ∈ part.toList, c ≠ '%' ∧ c ≠ '_' ∧ c ≠ '\x00')
    (short : Text.bytes (Text.lowerChars (surrounded part).toList) ≤ Table.maxPattern) :
    (query.execute Connection.engine sources schema world).1.Lists
      ((table.rows.filter fun row => (table.cell row column.name).hasPart part).map
        (table.logical schema)) := by
  have declared := held.sound.declared_of_mem member
  have patterns : (conditions schema request).any Table.tooComplex = false := by
    rw [search.conditions_eq, List.any_cons, List.any_nil, Bool.or_false]
    exact decide_eq_false (Nat.not_lt.mpr short)
  obtain ⟨text, low, few, params⟩ := search.readable schema declared mem
  obtain ⟨found, answered, listed⟩ :=
    execute_select held member checked search.reads ⟨text, low, few, params, patterns⟩
  refine ⟨found, ?_, ?_⟩
  · rw [answered]
    exact cardinality_of_many search.many found
  · have picked : table.rows.filter (table.selects (conditions schema request)) =
        table.rows.filter fun row => (table.cell row column.name).hasPart part := by
      rw [search.conditions_eq]
      exact List.filter_congr fun row inside =>
        Table.selects_surrounded declared (held.obeys table member row inside) mem texts plain
    rw [← picked]
    exact listed

/-- A search with a pattern that is too long fails, unless the table is empty. -/
theorem error_of_searches (sources : Sources) (schema : Schema)
    (held : world.state.Holds Column.Admits) (member : table ∈ world.state.database.tables)
    (mem : column ∈ table.declaration.columns) (checked : query.check = .ok request)
    (search : Searches request table column part)
    (long : Table.maxPattern < Text.bytes (Text.lowerChars (surrounded part).toList))
    (filled : table.rows ≠ []) :
    (query.execute Connection.engine sources schema world).1 =
      .error (.engine StoreFault.patternTooComplex.fault) := by
  have statement : selectStatement schema request =
      .select [.all] table.name (conditions schema request) [] none := by
    rw [selectStatement, search.reads.columns, search.reads.table, search.reads.order,
      search.reads.limit]
  obtain ⟨text, low, few, params⟩ :=
    search.readable schema (held.sound.declared_of_mem member) mem
  have failed : (Connection.engine.run (selectStatement schema request)
      (Connection.engine.openCursor (Connection.engine.prepare world.state))).1 =
        .error StoreFault.patternTooComplex.fault := by
    rw [search.conditions_eq] at statement text low few params
    rw [statement]
    exact Connection.run_select_of_tooComplex held.sound member text low few params
      (decide_eq_true long) filled
  have stopped : (select Connection.engine schema request
      { world with state := Connection.engine.prepare world.state }).1 =
        .error StoreFault.patternTooComplex.fault :=
    select_apply_fault (Prod.ext failed rfl)
  rw [execute_of_select checked search.reads.method, stopped]
  rfl

end Execution

/-- **A search lists the texts whose lower case has that of the part.** After any requests, a search
for a part without wildcards and null characters, in a column of texts, lists the rows with such a
text and no others, unless its pattern is too long: then it fails as soon as there is a row. A part
of a text is found where, of its capital sigmas, those end a word in the text that do in the part by
itself; so it is always found if it has none. -/
theorem search_lists_parts (sources : Sources) (kind : Schema → Request → Prop)
    (world : World Connection) (reached : Reached sources kind world) (declaration : Declaration)
    (declared : declaration ∈ Catalog.tables) (column : Column)
    (mem : column ∈ declaration.columns) (texts : column.type.storage = .text) (schema : Schema)
    (query : Query) (request : Request) (checked : query.check = .ok request)
    (reads : request.ReadsAll declaration.name) (many : request.Many) (part : String)
    (plain : ∀ c ∈ part.toList, c ≠ '%' ∧ c ≠ '_' ∧ c ≠ '\x00')
    (searches : request.filters = [.matchesPattern column.name (surrounded part)]) :
    let answer := (query.execute Connection.engine sources schema world).1
    let size := Text.bytes (Text.lowerChars (surrounded part).toList)
    ∃ table ∈ world.state.database.tables, table.declaration = declaration ∧
      (size ≤ Table.maxPattern → answer.Lists
        ((table.rows.filter fun row => (table.cell row column.name).hasPart part).map
          (table.logical schema))) ∧
      (Table.maxPattern < size → table.rows ≠ [] →
        answer = .error (.engine StoreFault.patternTooComplex.fault)) ∧
      ∀ text before after, text.toList = before ++ part.toList ++ after → '\x00' ∉ before →
        Text.Steady before part.toList after → (Cell.text text).hasPart part = true := by
  intro answer size
  have held := reached.holds_admits
  obtain ⟨table, member, rfl⟩ := held.sound.exists_table declared
  have search : Execution.Searches request table column part := ⟨reads, many, searches⟩
  refine ⟨table, member, rfl, fun short => ?_, fun long filled => ?_, ?_⟩
  · exact Execution.lists_of_searches sources schema held member mem texts checked search plain
      short
  · exact Execution.error_of_searches sources schema held member mem checked search long filled
  · intro text before after split early steady
    refine Cell.hasPart_of_steady split ?_ steady
    rw [List.mem_append, not_or]
    exact ⟨early, fun mem => (plain _ mem).2.2 rfl⟩

/-- The world after two people have been recorded. -/
def ithaca : World Connection :=
  Query.executeAll Connection.engine (.steady 0 1) Catalog.schema
    [.request (plainRequest .insert "people" [
      [("id", .string "p-1"), ("display_name", .string "ΟΔΥΣΣΕΥΣ")],
      [("id", .string "p-2"), ("display_name", .string "Πηνελόπη")]] [])] Execution.newStore

theorem ithaca_reached : Reached (.steady 0 1) (fun _ _ => True) ithaca :=
  Reached.new.queries Catalog.schema _ fun _ _ _ _ => trivial

/-- A search among the names of people. -/
def searchNames (part : String) : Request :=
  { plainRequest .select "people" [] [.matchesPattern "display_name" (surrounded part)] with
    columns := some "*" }

theorem searchNames_reads (part : String) : (searchNames part).ReadsAll "people" :=
  ⟨rfl, rfl, (by decide : Sql.Projection.ofColumns (some "*") = [.all]), rfl, rfl⟩

/-- The beginning of a name is found in either case, as it has no capital sigma. -/
theorem search_lists_parts_ithaca :
    ∃ table ∈ ithaca.state.database.tables, table.declaration = Catalog.people ∧
      (table.rows.filter fun row => (table.cell row "display_name").hasPart "οΔυ").map
        (table.cell · "id") = [.text "p-1"] ∧
      ((Query.request (searchNames "οΔυ")).execute Connection.engine (.steady 0 1) Catalog.schema
        ithaca).1.Lists
          ((table.rows.filter fun row => (table.cell row "display_name").hasPart "οΔυ").map
            (table.logical Catalog.schema)) ∧
      (Cell.text "οΔυΣΣΕΥΣ").hasPart "οΔυ" = true := by
  obtain ⟨table, member, declares, lists, -, found⟩ :=
    search_lists_parts (.steady 0 1) (fun _ _ => True) ithaca ithaca_reached Catalog.people
      (by decide) (Catalog.requiredText "display_name") (by decide) rfl Catalog.schema
      (.request (searchNames "οΔυ")) (searchNames "οΔυ") rfl (searchNames_reads "οΔυ") ⟨rfl, rfl⟩
      "οΔυ" (by simp) rfl
  have ids : ∀ table ∈ ithaca.state.database.tables, table.declaration = Catalog.people →
      (table.rows.filter fun row => (table.cell row "display_name").hasPart "οΔυ").map
        (table.cell · "id") = [.text "p-1"] := by decide +kernel
  refine ⟨table, member, declares, ids table member declares, lists (by decide +kernel), ?_⟩
  exact found "οΔυΣΣΕΥΣ" [] "ΣΣΕΥΣ".toList (by decide +kernel) List.not_mem_nil
    (Text.steady_of_not_mem (by decide +kernel))

/-- **A search misses a name that begins with the part**, letter by letter: by itself the part ends
with a final sigma. -/
theorem execute_search_sigma :
    "ΟΔΥΣ".toList <:+: "ΟΔΥΣΣΕΥΣ".toList ∧
      (ithaca.state.database.table? "people").map (fun table =>
        table.rows.map fun row => table.cell row "display_name") =
          some [.text "ΟΔΥΣΣΕΥΣ", .text "Πηνελόπη"] ∧
      ((Query.request (searchNames "ΟΔΥΣ")).execute Connection.engine (.steady 0 1) Catalog.schema
        ithaca).1 = .ok (.array []) := by
  refine ⟨?part, ?names, ?answer⟩
  case part => decide +kernel
  case names => decide +kernel
  have held := ithaca_reached.holds_admits
  obtain ⟨table, member, declares⟩ : ∃ table ∈ ithaca.state.database.tables,
      table.declaration = Catalog.people := held.sound.exists_table (by decide)
  have search : Execution.Searches (searchNames "ΟΔΥΣ") table (Catalog.requiredText "display_name")
      "ΟΔΥΣ" := ⟨by rw [Table.name, declares]; exact searchNames_reads "ΟΔΥΣ", ⟨rfl, rfl⟩, rfl⟩
  have named : Catalog.requiredText "display_name" ∈ table.declaration.columns := by
    rw [declares]
    decide
  have plain : ∀ c ∈ "ΟΔΥΣ".toList, c ≠ '%' ∧ c ≠ '_' ∧ c ≠ '\x00' := by simp
  have short : Text.bytes (Text.lowerChars (surrounded "ΟΔΥΣ").toList) ≤ Table.maxPattern := by
    decide +kernel
  have missed : ∀ table ∈ ithaca.state.database.tables, table.declaration = Catalog.people →
      table.rows.filter (fun row =>
        (table.cell row (Catalog.requiredText "display_name").name).hasPart "ΟΔΥΣ") = [] := by
    decide +kernel
  have checked : (Query.request (searchNames "ΟΔΥΣ")).check = .ok (searchNames "ΟΔΥΣ") := rfl
  obtain ⟨found, answered, listed⟩ := Execution.lists_of_searches (.steady 0 1) Catalog.schema held
    member named rfl checked search plain short
  have none : found = [] := by
    rw [missed table member declares] at listed
    exact listed.eq_nil
  rw [answered, none]

end RowQuery
