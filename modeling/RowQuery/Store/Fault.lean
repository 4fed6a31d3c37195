import RowQuery.Failure
import RowQuery.Sql.Name

/-!
# Faults of the store

Why the store refuses a statement.

* `StoreFault.fault` gives the class and the wording of each cause.
-/

namespace RowQuery

/-- Why a statement is refused. -/
inductive StoreFault where
  /-- The text of the statement has a null character. -/
  | nullCharacter
  /-- A select without columns. -/
  | noColumns
  | tooDeep (limit : Nat)
  | tooManyParams
  /-- An update that assigns to too many columns. -/
  | tooManyAssigned
  | noTable (name : String)
  /-- The file holds no database. -/
  | notDatabase
  /-- A table that can only be read. -/
  | readOnly (name : String)
  | tooManyColumns
  | tooManyTerms
  | noColumn (name : String)
  | noInsertColumn (table column : String)
  | unsupported (position : Nat) (kind : String)
  | hugeInteger
  | patternTooComplex
  | mismatch
  | notNull (table column : String)
  | notUnique (table : String) (columns : List String)
  | dangling
deriving DecidableEq

namespace StoreFault

/-- A column with its table. -/
def qualified (table column : String) : String := table ++ "." ++ column

/-- The class of a fault. -/
def kind : StoreFault → String
  | nullCharacter | unsupported _ _ => "ProgrammingError"
  | notDatabase => "DatabaseError"
  | noColumns | tooDeep _ | tooManyParams | tooManyAssigned | noTable _ | readOnly _
  | tooManyColumns | tooManyTerms | noColumn _ | noInsertColumn _ _ | patternTooComplex =>
    "OperationalError"
  | hugeInteger => "OverflowError"
  | mismatch | notNull _ _ | notUnique _ _ | dangling => "IntegrityError"

/-- The wording of a fault. -/
def message : StoreFault → String
  | nullCharacter => "the query contains a null character"
  | noColumns => "near \"FROM\": syntax error"
  | tooDeep limit => "Expression tree is too large (maximum depth " ++ toString limit ++ ")"
  | tooManyParams => "too many SQL variables"
  | tooManyAssigned => "too many columns in set list"
  | noTable name => "no such table: " ++ name
  | notDatabase => "file is not a database"
  | readOnly name => "table " ++ name ++ " may not be modified"
  | tooManyColumns => "too many columns in result set"
  | tooManyTerms => "too many terms in ORDER BY clause"
  | noColumn name => "no such column: " ++ name
  | noInsertColumn table column => "table " ++ table ++ " has no column named " ++ column
  | unsupported position kind =>
    "Error binding parameter " ++ toString position ++ ": type '" ++ kind ++ "' is not supported"
  | hugeInteger => "Python int too large to convert to SQLite INTEGER"
  | patternTooComplex => "LIKE or GLOB pattern too complex"
  | mismatch => "datatype mismatch"
  | notNull table column => "NOT NULL constraint failed: " ++ qualified table column
  | notUnique table columns =>
    "UNIQUE constraint failed: " ++ Text.join ", " (columns.map (qualified table))
  | dangling => "FOREIGN KEY constraint failed"

/-- The fault as engines report it. -/
def fault (f : StoreFault) : Fault := ⟨f.kind, f.message⟩

end StoreFault

end RowQuery
