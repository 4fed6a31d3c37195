import RowQuery.Proofs.Json.Fields
import RowQuery.Proofs.Store.Integrity
import RowQuery.Proofs.Store.ReadBack

/-!
# Rows that are selected

* `Plan.AccessPath.arrange_perm` — an access path changes the order of rows and nothing else.
* `Table.fields` is a row with the names of its columns; `Table.records_select` — a select of all
  columns yields the rows that its conditions select, up to their order.
* `Connection.run_select` — a select of all columns of a declared table succeeds, if its restriction
  is no obstacle.
* `Table.compareWith_column` — what a condition on a declared column looks at.
-/

namespace RowQuery

/-! ### Order -/

namespace Plan

theorem Pass.arrange_perm (pass : Pass) (rows : List Row) : (pass.arrange rows).Perm rows := by
  rw [Pass.arrange]
  dsimp only
  split
  · exact (List.reverse_perm _).trans (List.mergeSort_perm _ _)
  · exact List.mergeSort_perm _ _

theorem AccessPath.arrangeAll_perm (holds : Sql.Term → Row → Bool) (passes : List (Sql.Term × Pass))
    (rows : List Row) : (arrangeAll holds passes rows).Perm rows := by
  induction passes generalizing rows with
  | nil => exact .refl _
  | cons first rest ih =>
    obtain ⟨term, pass⟩ := first
    -- The rows for which the comparison holds come first, and then the others.
    exact ((pass.arrange_perm _).append (ih _)).trans
      (List.filter_append_perm (holds term) rows)

/-- An access path changes the order of rows and nothing else. -/
theorem AccessPath.arrange_perm (path : AccessPath) (holds : Sql.Term → Row → Bool)
    (rows : List Row) : (path.arrange holds rows).Perm rows := by
  cases path with
  | single pass => exact pass.arrange_perm rows
  | comparisons passes => exact arrangeAll_perm holds passes rows

end Plan

/-! ### Columns -/

namespace Catalog

variable {declaration : Declaration} {column : Column} {index : Nat}

/-- The name of a column finds a column. -/
theorem columnIndex?_isSome (mem : column ∈ declaration.columns) :
    (declaration.columnIndex? column.name).isSome = true := by
  rw [Declaration.columnIndex?, List.findIdx?_isSome, List.any_eq_true]
  exact ⟨column, mem, sameName_self _⟩

/-- The name of a column finds that column. -/
theorem columnIndex?_eq (declared : declaration ∈ tables)
    (here : declaration.columns[index]? = some column) :
    declaration.columnIndex? column.name = some index := by
  obtain ⟨lt, rfl⟩ := List.getElem?_eq_some_iff.mp here
  have apart := List.pairwise_iff_getElem.mp (columns_distinct _ declared)
  rw [Declaration.columnIndex?, List.findIdx?_eq_some_iff_getElem]
  refine ⟨lt, sameName_self _, fun other before => ?_⟩
  rw [apart other index (Nat.lt_trans before lt) lt before]
  exact Bool.false_ne_true

theorem source_eq (declared : declaration ∈ tables)
    (here : declaration.columns[index]? = some column) :
    declaration.source column.name = .column index column.type.storage := by
  rw [Declaration.source, columnIndex?_eq declared here]
  simp only [here]
  rfl

end Catalog

namespace Table

theorem cell_eq {table : Table} {column : Column} {index : Nat}
    (declared : table.declaration ∈ Catalog.tables)
    (here : table.declaration.columns[index]? = some column) (row : Row) :
    table.cell row column.name = row.cell index := by
  rw [cell, Table.index, Catalog.columnIndex?_eq declared here]
  rfl

variable {table : Table} {row : Row}

/-- A row as a record: its cells with the names of their columns. -/
def fields (table : Table) (row : Row) : Fields :=
  (table.declaration.columns.zip row.cells).map fun (column, cell) => (column.name, cell.json)

/-- The result of all columns has their names, and reads them. -/
theorem resultColumns_all (declared : table.declaration ∈ Catalog.tables) :
    table.resultColumns [.all] = table.declaration.columns.mapIdx fun index column =>
      (column.name, .column index column.type.storage) := by
  have names : table.projectionNames [.all] = table.declaration.columns.map (·.name) :=
    List.append_nil _
  rw [resultColumns, names, List.map_map]
  refine List.ext_getElem? fun index => ?_
  rw [List.getElem?_map, List.getElem?_mapIdx]
  cases here : table.declaration.columns[index]? with
  | none => rfl
  | some column =>
    refine congrArg some ?_
    show table.resultColumn column.name = _
    rw [resultColumn, Catalog.source_eq declared here]
    simp only [here]
    rfl

/-- The values of all columns are those of the cells. -/
theorem read_all (declared : table.declaration ∈ Catalog.tables)
    (shaped : row.cells.length = table.declaration.columns.length) :
    (table.resultColumns [.all]).map (fun column => (row.read column.2).json) =
      row.cells.map Cell.json := by
  rw [resultColumns_all declared]
  refine List.ext_getElem? fun index => ?_
  simp only [List.getElem?_map, List.getElem?_mapIdx, Option.map_map]
  by_cases lt : index < table.declaration.columns.length
  · have lt' : index < row.cells.length := by omega
    simp [List.getElem?_eq_getElem lt, List.getElem?_eq_getElem lt', Row.read, Row.cell]
  · have ge' : row.cells.length ≤ index := by omega
    rw [List.getElem?_eq_none (by omega), List.getElem?_eq_none ge']
    rfl

theorem names_nodup (declared : table.declaration ∈ Catalog.tables) :
    (table.declaration.columns.map (·.name)).Nodup := by
  have columns := Catalog.columns_distinct _ declared
  refine List.pairwise_map.mpr (columns.imp fun {a b} apart same => ?_)
  rw [same, sameName_self] at apart
  cases apart

theorem map_fst_fields (shaped : row.cells.length = table.declaration.columns.length) :
    (table.fields row).map (·.1) = table.declaration.columns.map (·.name) := by
  have names : (table.fields row).map (·.1) =
      ((table.declaration.columns.zip row.cells).map (·.1)).map (·.name) := by
    rw [fields, List.map_map, List.map_map]
    rfl
  rw [names, List.map_fst_zip (by omega)]

/-- A row of a result of all columns, as a record. -/
theorem record_all (declared : table.declaration ∈ Catalog.tables)
    (shaped : row.cells.length = table.declaration.columns.length) (rows : List (List Json)) :
    Reply.record ⟨(table.resultColumns [.all]).map (·.1), rows⟩
      ((table.resultColumns [.all]).map fun column => (row.read column.2).json) =
        table.fields row := by
  have names : (table.resultColumns [.all]).map (·.1) =
      table.declaration.columns.map (·.name) := by
    rw [resultColumns_all declared]
    refine List.ext_getElem? fun index => ?_
    simp [List.getElem?_map, List.getElem?_mapIdx, Option.map_map, Function.comp_def]
  have zipped : (table.declaration.columns.map (·.name)).zip (row.cells.map Cell.json) =
      table.fields row := by
    rw [List.zip_map]
    rfl
  have distinct : ((table.fields row).map (·.1)).Nodup := by
    rw [map_fst_fields shaped]
    exact names_nodup declared
  rw [Reply.record]
  dsimp only
  rw [read_all declared shaped, names, zipped, Fields.ofPairs_of_nodup distinct]

/-- **A select of all columns yields the rows that its conditions select**, in some order. -/
theorem records_select (declared : table.declaration ∈ Catalog.tables)
    (shaped : ∀ row ∈ table.rows, row.cells.length = table.declaration.columns.length)
    (conditions : List Sql.Condition) (order : List OrderTerm) :
    (table.select [.all] conditions order none).records.Perm
      ((table.rows.filter (table.selects conditions)).map table.fields) := by
  let path := Plan.AccessPath.choose table.declaration (table.projectionNames [.all]) conditions
    order
  let found := table.sort order (table.matching path conditions)
  have arranged : found.Perm (table.rows.filter (table.selects conditions)) :=
    (List.mergeSort_perm _ _).trans ((path.arrange_perm _ table.rows).filter _)
  have records : (table.select [.all] conditions order none).records = found.map table.fields := by
    show (found.map _).map _ = _
    rw [List.map_map]
    refine List.map_congr_left fun row mem => ?_
    have inside : row ∈ table.rows := List.mem_of_mem_filter (arranged.mem_iff.mp mem)
    exact record_all declared (shaped row inside) _
  rw [records]
  exact arranged.map table.fields

/-- What a condition on a declared column looks at. -/
theorem compareWith_column {column : Column} {index : Nat}
    (declared : table.declaration ∈ Catalog.tables)
    (here : table.declaration.columns[index]? = some column) (row : Row) (value : Json) :
    table.compareWith row column.name value =
      Cell.compareIn (some column.type.storage) (row.cell index) (.bound value) := by
  rw [compareWith, Catalog.source_eq declared here]
  rfl

end Table

/-! ### Running a select -/

namespace Catalog

/-- No declared name has a null character, and no table has too many columns for a result. -/
theorem readable : ∀ declaration ∈ tables, '\x00' ∉ Sql.nameChars declaration.name ∧
    declaration.columns.length ≤ Connection.maxColumns ∧
    ∀ column ∈ declaration.columns, '\x00' ∉ Sql.nameChars column.name := by
  decide +kernel

end Catalog

namespace Connection

variable {connection : Connection} {table : Table} {conditions : List Sql.Condition}

/-- A restriction that is no obstacle to a select: its text has no null character and is not too
high, its values are not too many and can be bound, and it has no pattern that is too long. -/
structure Harmless (conditions : List Sql.Condition) : Prop where
  text : '\x00' ∉ Sql.clause (Sql.whereChars conditions)
  low : Sql.tooHigh conditions = false
  few : (Sql.whereParams conditions).length ≤ Sql.maxParams
  params : Cell.bindFault? 1 (Sql.whereParams conditions) = none
  patterns : conditions.any Table.tooComplex = false

theorem harmless_nil : Harmless [] := ⟨by decide, by decide, by decide, rfl, rfl⟩

/-- A single condition is no obstacle if neither its text, its height, its values nor its pattern
are one. -/
theorem harmless_singleton {condition : Sql.Condition} (text : '\x00' ∉ condition.chars)
    (low : condition.height ≤ Sql.maxHeight)
    (few : condition.params.length ≤ Sql.maxParams)
    (params : ∀ value ∈ condition.params, ∃ cell, Cell.ofJson value = .ok cell)
    (short : Table.tooComplex condition = false) : Harmless [condition] where
  text := by
    have word : '\x00' ∉ "WHERE ".toList := by decide
    have chars : Sql.clause (Sql.whereChars [condition]) =
        ' ' :: ("WHERE ".toList ++ condition.chars) := rfl
    rw [chars, List.mem_cons, List.mem_append, not_or, not_or]
    exact ⟨by decide, word, text⟩
  low := by
    have height : Sql.chainHeight none ([condition].map Sql.Condition.height) =
        condition.height := rfl
    rw [Sql.tooHigh, height]
    exact decide_eq_false (Nat.not_lt.mpr low)
  few := by
    rw [Sql.whereParams, List.flatMap_singleton]
    exact few
  params := by
    rw [Cell.bindFault?_eq_none_iff]
    intro value mem
    refine params value ?_
    rw [Sql.whereParams, List.flatMap_singleton] at mem
    exact mem
  patterns := by
    rw [List.any_cons, short]
    rfl

/-- A comparison of a column with a value that can be bound is no obstacle. -/
theorem harmless_compare {name : String} {value : Json} {cell : Cell}
    (named : '\x00' ∉ Sql.nameChars name) (comparison : Comparison)
    (binds : Cell.ofJson value = .ok cell) :
    Harmless [.compare ⟨name, comparison, value⟩] := by
  have low : 2 ≤ Sql.maxHeight := by decide
  have one : 1 ≤ Sql.maxParams := by decide
  refine harmless_singleton ?_ low one (fun other mem => ?_) rfl
  · have signs : '\x00' ∉ ' ' :: comparison.sign.toList ++ [' ', '?'] := by
      cases comparison <;> decide
    have chars : (Sql.Condition.compare ⟨name, comparison, value⟩).chars =
        Sql.nameChars name ++ (' ' :: comparison.sign.toList ++ [' ', '?']) :=
      List.append_assoc _ _ _
    rw [chars, List.mem_append, not_or]
    exact ⟨named, signs⟩
  · rw [Sql.Condition.params, List.mem_singleton] at mem
    exact ⟨cell, mem ▸ binds⟩

/-- A select of all columns of a declared table can be run, if its restriction is within the limits
and its text is right. -/
theorem prepare_select (sound : connection.database.Sound)
    (mem : table ∈ connection.database.tables)
    (text : '\x00' ∉ Sql.clause (Sql.whereChars conditions)) (low : Sql.tooHigh conditions = false)
    (few : (Sql.whereParams conditions).length ≤ Sql.maxParams) :
    connection.prepare (.select [.all] table.name conditions [] none) = .ok table := by
  obtain ⟨named, narrow, -⟩ := Catalog.readable _ (sound.declared_of_mem mem)
  have readable : textRefusal? (.select [.all] table.name conditions [] none) = none :=
    (textRefusal?_select_iff named text low few).mpr ⟨by simp, by decide⟩
  have size : sizeRefusal? table (.select [.all] table.name conditions [] none) = none := by
    have names : table.projectionNames [.all] = table.declaration.columns.map (·.name) :=
      List.append_nil _
    rw [sizeRefusal?, names, List.length_map, if_neg (Nat.not_lt.mpr narrow)]
    rfl
  have columns : columnRefusal? table.declaration
      (.select [.all] table.name conditions [] none) = none := rfl
  have found : connection.findTable (.select [.all] table.name conditions [] none) = .ok table :=
    findTable_eq (sound.table?_eq mem)
  rw [prepare, readable, found]
  simp only [columns, size]
  rfl

/-- A select of all columns of a declared table succeeds, and leaves the connection as it is. -/
theorem run_select (sound : connection.database.Sound) (mem : table ∈ connection.database.tables)
    (harmless : Harmless conditions) :
    connection.run (.select [.all] table.name conditions [] none) =
      (.ok (table.select [.all] conditions [] none), connection) := by
  obtain ⟨text, found, columns, size⟩ :=
    prepare_ok (prepare_select sound mem harmless.text harmless.low harmless.few)
  have fit : connection.Fit (.select [.all] table.name conditions [] none) table :=
    { text, found, columns, size
      params := by
        rw [Sql.Statement.params]
        simpa using harmless.params
      patterns := by
        rw [patternRefusal?_eq_none_iff]
        show (conditions.any Table.tooComplex && _) = false
        rw [harmless.patterns]
        rfl }
  rw [fit.run_eq]
  simp [perform, begun, writes]

/-- It fails where its first condition has a pattern that is too long, unless the table is empty. -/
theorem run_select_of_tooComplex (sound : connection.database.Sound)
    (mem : table ∈ connection.database.tables) {condition : Sql.Condition}
    (text : '\x00' ∉ Sql.clause (Sql.whereChars (condition :: conditions)))
    (low : Sql.tooHigh (condition :: conditions) = false)
    (few : (Sql.whereParams (condition :: conditions)).length ≤ Sql.maxParams)
    (params : Cell.bindFault? 1 (Sql.whereParams (condition :: conditions)) = none)
    (long : Table.tooComplex condition = true) (filled : table.rows ≠ []) :
    (connection.run (.select [.all] table.name (condition :: conditions) [] none)).1 =
      .error StoreFault.patternTooComplex.fault := by
  have looked : (condition :: conditions).any Table.tooComplex = true := by
    rw [List.any_cons, long, Bool.true_or]
  have meets : table.rows.any (table.meetsTooComplex · (condition :: conditions)) = true := by
    obtain ⟨row, inside⟩ := List.exists_mem_of_ne_nil _ filled
    exact List.any_eq_true.mpr ⟨row, inside, by rw [Table.meetsTooComplex, long, Bool.true_or]⟩
  have refused : patternRefusal? table
      (.select [.all] table.name (condition :: conditions) [] none) = some .patternTooComplex := by
    show (if _ && _ then _ else _) = _
    rw [conditionsOf, looked, meets]
    rfl
  have bound : Cell.bindFault? 1
      (Sql.Statement.select [.all] table.name (condition :: conditions) [] none).params = none := by
    rw [Sql.Statement.params]
    simpa using params
  rw [run, prepare_select sound mem text low few]
  simp only [bound, refused]
  rfl

end Connection

end RowQuery
