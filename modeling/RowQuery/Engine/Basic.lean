import RowQuery.Clock.Sources
import RowQuery.Failure
import RowQuery.Sql.Statement

/-!
# Engines

An engine runs statements. All that the execution of requests knows of one is the few operations
gathered here, so the same execution runs against a store and against a script of replies.

* `Engine` lists the operations.
* `Run` is a computation that uses an engine, draws from the clock and the identifiers, and can
  stop with a fault. A fault does not undo what was done before it.
-/

namespace RowQuery

/-- The rows that a statement yields, with the names of their columns. -/
structure Reply where
  columns : List String
  rows : List (List Json)
deriving DecidableEq

namespace Reply

/-- The row as a record: a column that occurs twice keeps its first place and its last value, and
what one of the two lists has more than the other is dropped. -/
def record (reply : Reply) (row : List Json) : Fields := Fields.ofPairs (reply.columns.zip row)

/-- All rows as records. -/
def records (reply : Reply) : List Fields := reply.rows.map reply.record

end Reply

/-- The operations of an engine with states in `σ`. -/
structure Engine (σ : Type) where
  /-- Makes sure that the functions which statements use are there. -/
  prepare : σ → σ
  openCursor : σ → σ
  closeCursor : σ → σ
  /-- Runs a statement on an open cursor. -/
  run : Sql.Statement → σ → Except Fault Reply × σ
  /-- Whether a transaction has been begun and not been committed. -/
  inTransaction : σ → Bool
  commit : σ → σ

/-- The state of an engine and what has been drawn so far. -/
structure World (σ : Type) where
  state : σ
  draws : Draws

/-- A computation on a world that can stop with a fault. -/
abbrev Run (σ : Type) := ExceptT Fault (StateM (World σ))

namespace Run

variable {σ α : Type}

/-- A computation that changes the state of the engine alone and cannot stop. -/
def change (f : σ → σ) : Run σ Unit := fun world => (.ok (), { world with state := f world.state })

/-- A computation on the state of the engine alone. -/
def onState (f : σ → Except Fault α × σ) : Run σ α := fun world =>
  let (outcome, state) := f world.state
  (outcome, { world with state })

/-- The next instant that the clock shows. -/
def instant (sources : Sources) : Run σ Instant := fun world =>
  let n := world.draws.instants
  (.ok (sources.instant n), { world with draws := { world.draws with instants := n + 1 } })

/-- The next fresh identifier. -/
def identifier (sources : Sources) : Run σ String := fun world =>
  let n := world.draws.identifiers
  (.ok (sources.identifier n), { world with draws := { world.draws with identifiers := n + 1 } })

/-- A computation with a cursor open, which is closed whether or not the computation stops. -/
def withCursor (engine : Engine σ) (body : Run σ α) : Run σ α := fun world =>
  let (outcome, world) := body { world with state := engine.openCursor world.state }
  (outcome, { world with state := engine.closeCursor world.state })

/-- The rows that a statement yields. -/
def query (engine : Engine σ) (statement : Sql.Statement) : Run σ Reply :=
  withCursor engine (onState (engine.run statement))

/-- Runs a statement that writes, and commits the transaction that it may have begun. -/
def write (engine : Engine σ) (statement : Sql.Statement) : Run σ Unit := do
  let _ ← withCursor engine (onState (engine.run statement))
  change fun state => if engine.inTransaction state then engine.commit state else state

end Run

end RowQuery
