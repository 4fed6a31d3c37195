import RowQuery.Store.Limit
import RowQuery.Store.Master
import RowQuery.Store.Select
import RowQuery.Store.Write

/-!
# Connections

A connection is a database with a way of running statements on it: whether references are enforced,
and whether a write begins a transaction that has to be committed.

* `Connection.run` runs a statement; `Connection.engine` is the engine that does.
* `Connection.prepare` finds the table of a statement, or why the statement cannot be run at all.

## Design notes

A statement is looked at before it is run: its text, its tables and columns, and then its
parameters and its patterns. A write begins its transaction when all but those two have been found
right, and a fault after that leaves the transaction open.
-/

namespace RowQuery

/-- A database and a way of running statements on it. -/
structure Connection where
  database : Database
  /-- Whether references have to lead to rows. -/
  enforced : Bool
  /-- Whether a write begins a transaction, if none is open. -/
  implicit : Bool
  inTransaction : Bool
deriving DecidableEq

namespace Connection

/-- A connection that enforces references and commits every statement by itself. -/
def opened (database : Database) : Connection := ⟨database, true, false, false⟩

/-- A connection without enforced references, where writes have to be committed. -/
def plain (database : Database) : Connection := ⟨database, false, true, false⟩

/-! ### Statements that cannot be run -/

/-- The table of a statement. -/
def tableName : Sql.Statement → String
  | .select _ table _ _ _ | .insert table _ | .update table _ _ | .delete table _ => table

/-- The conditions of a statement. -/
def conditionsOf : Sql.Statement → List Sql.Condition
  | .select _ _ conditions _ _ | .update _ _ conditions | .delete _ conditions => conditions
  | .insert _ _ => []

/-- What is wrong with the text of a statement. -/
def textRefusal? (statement : Sql.Statement) : Option StoreFault :=
  if statement.chars.contains '\x00' then some .nullCharacter
  else match statement with
    | .select [] _ _ _ _ => some .noColumns
    | _ => statement.overrun?

/-- What is wrong with the columns that a statement writes. -/
def columnRefusal? (table : Declaration) : Sql.Statement → Option StoreFault
  | .insert name values =>
    ((Assignments.ofFields values).unknown? table).map (StoreFault.noInsertColumn name)
  | .update _ values _ => ((Assignments.ofFields values).unknown? table).map StoreFault.noColumn
  | .select _ _ _ _ _ | .delete _ _ => none

/-- The greatest number of columns of a result, and of terms that it is sorted by. -/
def maxColumns : Nat := 2000

/-- What is wrong with the size of a select from a table. -/
def sizeRefusal? (table : Table) : Sql.Statement → Option StoreFault
  | .select projection _ _ order _ =>
    if maxColumns < (table.projectionNames projection).length then some .tooManyColumns
    else if maxColumns < order.length then some .tooManyTerms
    else none
  | _ => none

/-- Whether a statement writes. -/
def writes : Sql.Statement → Bool
  | .select _ _ _ _ _ => false
  | _ => true

/-- The table that a statement finds by its name. -/
def findTable (connection : Connection) (statement : Sql.Statement) : Except StoreFault Table :=
  let name := tableName statement
  match connection.database.table? name with
  | some table => .ok table
  | none =>
    match connection.database.readOnly? connection.enforced name with
    | some table => if writes statement then .error (.readOnly table.name) else .ok table
    | none => .error (.noTable name)

/-- The table that a statement is about, provided that the statement can be run with some
parameters. -/
def prepare (connection : Connection) (statement : Sql.Statement) : Except StoreFault Table :=
  match textRefusal? statement with
  | some fault => .error fault
  | none =>
    match connection.findTable statement with
    | .error fault => .error fault
    | .ok table =>
      match columnRefusal? table.declaration statement <|> sizeRefusal? table statement with
      | some fault => .error fault
      | none => .ok table

/-! ### Running statements -/

/-- What is wrong with the patterns of a statement, once they are looked at. -/
def patternRefusal? (table : Table) (statement : Sql.Statement) : Option StoreFault :=
  let conditions := conditionsOf statement
  if conditions.any Table.tooComplex && table.rows.any (table.meetsTooComplex · conditions) then
    some .patternTooComplex
  else none

/-- The reply of a statement that writes. -/
def written : Reply := ⟨[], []⟩

/-- The effect of a statement on a database, its parameters being fit. -/
def perform (database : Database) (enforced : Bool) (table : Table) :
    Sql.Statement → Except StoreFault (Reply × Database)
  | .select projection _ conditions order limit =>
    .ok (table.select projection conditions order limit, database)
  | .insert _ values => do
    return (written, ← database.insert enforced table (.ofFields values))
  | .update _ values conditions => do
    return (written, ← database.update enforced table (.ofFields values) conditions)
  | .delete _ conditions => .ok (written, database.delete enforced table conditions)

/-- Runs a statement. A statement that fails changes no table. -/
def run (statement : Sql.Statement) (connection : Connection) :
    Except Fault Reply × Connection :=
  match connection.prepare statement with
  | .error fault => (.error fault.fault, connection)
  | .ok table =>
    let begun := { connection with
      inTransaction := connection.inTransaction || (connection.implicit && writes statement) }
    match Cell.bindFault? 1 statement.params <|> patternRefusal? table statement with
    | some fault => (.error fault.fault, begun)
    | none =>
      match perform connection.database connection.enforced table statement with
      | .error fault => (.error fault.fault, begun)
      | .ok (reply, database) => (.ok reply, { begun with database })

/-- The engine that runs statements on a connection. Cursors leave no trace on it. -/
def engine : Engine Connection where
  prepare connection := connection
  openCursor connection := connection
  closeCursor connection := connection
  run := run
  inTransaction := inTransaction
  commit connection := { connection with inTransaction := false }

end Connection

end RowQuery
