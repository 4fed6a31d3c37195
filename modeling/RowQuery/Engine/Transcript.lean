import RowQuery.Engine.Basic

/-!
# Scripted engines

An engine that has no tables: a script tells what it replies to one statement after the other, and
a transcript keeps what it was asked.

* `Transcript.engine` is that engine.
* `Event.document` is an entry of the transcript as a document.
-/

namespace RowQuery

/-- The reply to one statement. -/
inductive ScriptedReply where
  /-- Rows, and whether a transaction is open from then on, if that changes. -/
  | rows (reply : Reply) (inTransaction : Option Bool)
  | fault (fault : Fault)
deriving DecidableEq

/-- What an engine was asked. -/
inductive Event where
  | probe
  | register
  | statement (text : String) (params : List Json)
  | commit
deriving DecidableEq

/-- An entry of a transcript as a document. -/
def Event.document : Event → Json
  | probe => .object [("probe", .string ("SELECT " ++ Sql.lowerFunction ++ "(NULL)"))]
  | register =>
    .object [("register", .string Sql.lowerFunction), ("nargs", .integer 1),
      ("deterministic", .bool true)]
  | statement text params => .object [("sql", .string text), ("params", .array params)]
  | commit => .object [("commit", .bool true)]

/-- A scripted engine: the replies still to come and what has happened so far. -/
structure Transcript where
  script : List ScriptedReply
  /-- Whether the functions that statements use are there. -/
  registered : Bool
  inTransaction : Bool
  openCursors : Nat
  events : List Event
deriving DecidableEq

namespace Transcript

/-- A scripted engine before its first statement. -/
def start (script : List ScriptedReply) (registered : Bool) : Transcript :=
  ⟨script, registered, false, 0, []⟩

/-- The transcript with a further event. -/
def log (transcript : Transcript) (event : Event) : Transcript :=
  { transcript with events := transcript.events ++ [event] }

/-- The reply to a statement. A script that is used up replies with nothing. -/
def run (statement : Sql.Statement) (transcript : Transcript) :
    Except Fault Reply × Transcript :=
  let logged := transcript.log (.statement statement.text statement.params)
  match logged.script with
  | [] => (.ok ⟨[], []⟩, logged)
  | .fault fault :: rest => (.error fault, { logged with script := rest })
  | .rows reply inTransaction :: rest =>
    (.ok reply, { logged with
      script := rest
      inTransaction := inTransaction.getD logged.inTransaction })

/-- The engine that replies from a script. -/
def engine : Engine Transcript where
  prepare transcript :=
    let probed := transcript.log .probe
    if probed.registered then probed else { probed.log .register with registered := true }
  openCursor transcript := { transcript with openCursors := transcript.openCursors + 1 }
  closeCursor transcript := { transcript with openCursors := transcript.openCursors - 1 }
  run := run
  inTransaction := inTransaction
  commit transcript := { transcript.log .commit with inTransaction := false }

end Transcript

end RowQuery
