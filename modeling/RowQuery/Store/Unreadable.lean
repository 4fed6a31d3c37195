import RowQuery.Kinship.Consultation
import RowQuery.Store.Connection

/-!
# Files without a database

A file that holds something else can be opened, but no statement can be run on it.

* `Unreadable.engine` is the engine on such a file.
* `Unreadable.records` are the records that a search finds there.
-/

namespace RowQuery.Unreadable

/-- Why a statement cannot be run: the text of it, or else the file. -/
def refusal (statement : Sql.Statement) : StoreFault :=
  (Connection.textRefusal? statement).getD .notDatabase

/-- The engine on a file without a database. -/
def engine : Engine Unit where
  prepare _ := ()
  openCursor _ := ()
  closeCursor _ := ()
  run statement _ := (.error (refusal statement).fault, ())
  inTransaction _ := false
  commit _ := ()

/-- The records in a file without a database. -/
def records : Records where
  graph := ⟨[], []⟩
  fault := some (1, StoreFault.notDatabase.fault)

end RowQuery.Unreadable
