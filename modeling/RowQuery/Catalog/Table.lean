import RowQuery.Schema
import RowQuery.Text.Basic

/-!
# Table declarations

What a table of the store is declared to be: its columns with their types and constraints.

* `Declaration.text` is the declaration as a statement.
* `Declaration.traits` are the logical types that follow from it.
* `Declaration.uniqueKeys` are the sets of columns whose values may not repeat.
-/

namespace RowQuery

/-- What a column holds. -/
inductive ColumnType where
  | text
  | integer
  | boolean
  | document
deriving DecidableEq

/-- How the store keeps values. -/
inductive Storage where
  | text
  | integer
deriving DecidableEq

/-- How the values of a column are kept. -/
def ColumnType.storage : ColumnType → Storage
  | text | document => .text
  | integer | boolean => .integer

/-- The word for a storage. -/
def Storage.word : Storage → String
  | text => "TEXT"
  | integer => "INTEGER"

/-- What becomes of a row when a row that it refers to is removed. -/
inductive DeleteAction where
  | cascade
  | setNull
deriving DecidableEq

/-- The word for an action. -/
def DeleteAction.word : DeleteAction → String
  | cascade => "CASCADE"
  | setNull => "SET NULL"

/-- The value that a column takes when an insert leaves it out. -/
inductive Default where
  | integer (value : Int)
  | text (value : String)
deriving DecidableEq

/-- A column. -/
structure Column where
  name : String
  type : ColumnType
  primaryKey : Bool := false
  unique : Bool := false
  notNull : Bool := false
  /-- The table whose `id` the values refer to, and what happens when that row goes. -/
  references : Option (String × DeleteAction) := none
  default : Option Default := none
deriving DecidableEq

namespace Column

/-- The words of a default. -/
def defaultWords : Option Default → List String
  | none => []
  | some (.integer n) => ["DEFAULT " ++ toString n]
  | some (.text s) => ["DEFAULT '" ++ s ++ "'"]

/-- A column as it is declared. -/
def text (column : Column) : String :=
  Text.join " " ([column.name, column.type.storage.word]
    ++ (if column.primaryKey then ["PRIMARY KEY"] else [])
    ++ (if column.unique then ["UNIQUE"] else [])
    ++ (if column.notNull then ["NOT NULL"] else [])
    ++ (match column.references with
      | some (table, action) => ["REFERENCES " ++ table ++ "(id) ON DELETE " ++ action.word]
      | none => [])
    ++ defaultWords column.default)

end Column

/-- A table. -/
structure Declaration where
  name : String
  columns : List Column
  /-- Columns whose values may not repeat together. -/
  uniqueTogether : List (List String) := []
deriving DecidableEq

namespace Declaration

/-- The declaration as a statement on one line. -/
def text (table : Declaration) : String :=
  "CREATE TABLE IF NOT EXISTS " ++ table.name ++ " ( " ++
    Text.join ", " (table.columns.map Column.text ++
      table.uniqueTogether.map fun columns => "UNIQUE (" ++ Text.join ", " columns ++ ")") ++ " )"

/-- The names of the columns of a type. -/
def columnsOfType (table : Declaration) (type : ColumnType) : List String :=
  (table.columns.filter (·.type = type)).map (·.name)

/-- The logical types of the table. -/
def traits (table : Declaration) : Traits :=
  ⟨table.columnsOfType .boolean, table.columnsOfType .document,
    table.columns.any (·.name = stampColumn)⟩

/-- The sets of columns whose values may not repeat, in the order in which they are checked: the
one declared last comes first. -/
def uniqueKeys (table : Declaration) : List (List String) :=
  ((table.columns.filter fun column => column.primaryKey || column.unique).map ([·.name])
    ++ table.uniqueTogether).reverse

end Declaration

end RowQuery
