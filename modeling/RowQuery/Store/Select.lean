import RowQuery.Engine.Basic
import RowQuery.Plan.AccessPath

/-!
# Selecting rows

* `Table.matching` are the rows that conditions select.
* `Table.select` is the reply to a select: the rows selected, sorted, cut and projected.
-/

namespace RowQuery.Table

/-- The order of two rows under a list of order terms, the first difference deciding. -/
def rowOrder (table : Table) (a b : Row) : List OrderTerm → Ordering
  | [] => .eq
  | term :: rest =>
    let source := table.declaration.source term.column
    let order := (a.read source).order (b.read source)
    (if term.ascending then order else order.swap).then (rowOrder table a b rest)

/-- Rows sorted by order terms; rows that are alike stay in order. -/
def sort (table : Table) (order : List OrderTerm) (rows : List Row) : List Row :=
  rows.mergeSort fun a b => (table.rowOrder a b order).isLE

/-- The rows in the order of an access path. -/
def scan (table : Table) (path : Plan.AccessPath) : List Row :=
  path.arrange (fun term row => table.termTruth row term = some true) table.rows

/-- The rows that conditions select, in the order of an access path. -/
def matching (table : Table) (path : Plan.AccessPath) (conditions : List Sql.Condition) :
    List Row :=
  (table.scan path).filter (table.selects conditions)

/-- The first rows up to a limit. A limit below zero does not count as one. -/
def cut (limit : Option Int) (rows : List Row) : List Row :=
  match limit with
  | some n => if n < 0 then rows else rows.take n.toNat
  | none => rows

/-- The names that a projection stands for. -/
def projectionNames (table : Table) (projection : Sql.Projection) : List String :=
  projection.flatMap fun
    | .all => table.declaration.columns.map (·.name)
    | .column name => [name]

/-- The name and the source of a column of the result. -/
def resultColumn (table : Table) (name : String) : String × Source :=
  match table.declaration.source name with
  | .column index storage =>
    (table.declaration.columns[index]?.elim name (·.name), .column index storage)
  | .rowNumber => ("rowid", .rowNumber)
  | .literal text => (Sql.quoteName name, .literal text)

/-- The columns of the result of a projection. -/
def resultColumns (table : Table) (projection : Sql.Projection) : List (String × Source) :=
  (table.projectionNames projection).map table.resultColumn

/-- The reply to a select. -/
def select (table : Table) (projection : Sql.Projection) (conditions : List Sql.Condition)
    (order : List OrderTerm) (limit : Option Int) : Reply :=
  let names := table.projectionNames projection
  let path := Plan.AccessPath.choose table.declaration names conditions order
  let rows := cut limit (table.sort order (table.matching path conditions))
  let columns := table.resultColumns projection
  ⟨columns.map (·.1), rows.map fun row => columns.map fun column => (row.read column.2).json⟩

end RowQuery.Table
