import RowQuery.Check.Issue
import RowQuery.Json.Display

/-!
# Failures

A query is answered with data or with a failure. A failure carries a message and, where there is a
conventional one, a code.

* `Failure` lists the causes; `Failure.message`, `Failure.code` and `Failure.details` word them.
* `Fault.code?` reads the code of a fault of the engine off its text.
* `Answer.document` is an answer as a document.
-/

namespace RowQuery

/-- What an engine reports when it cannot run a statement: the class of the fault and a text. -/
structure Fault where
  kind : String
  message : String
deriving DecidableEq

namespace Fault

/-- The text of a fault; its class stands in for a text that is empty. -/
def text (fault : Fault) : String := if fault.message = "" then fault.kind else fault.message

/-- The part of a text that tells a repeated value in a unique column. -/
def uniqueMarker : String := "UNIQUE constraint failed"

/-- The parts of texts that tell a fault, each with its code; the first one that occurs counts. -/
def markers : List (String × String) := [
  (uniqueMarker, "23505"),
  ("FOREIGN KEY constraint failed", "23503"),
  ("NOT NULL constraint failed", "23502"),
  ("CHECK constraint failed", "23514"),
  ("no such table", "42P01"),
  ("no such column", "42703"),
  ("has no column named", "42703"),
  ("syntax error", "42601")]

/-- Whether a text has a part. -/
def mentions (text part : String) : Bool := Text.contains part.toList text.toList

/-- The code of a fault. -/
def code? (fault : Fault) : Option String :=
  (markers.find? fun marker => mentions fault.text marker.1).map (·.2)

/-- Whether a fault tells a repeated value in a unique column. -/
def isUniqueViolation (fault : Fault) : Bool := mentions fault.message uniqueMarker

end Fault

/-- What a failure says beyond its message. -/
inductive Details where
  | text (text : String)
  | report (report : Report)
deriving DecidableEq

/-- Details as a document. -/
def Details.document : Details → Json
  | text s => .string s
  | report r => r.document

/-- Why a query has no data. -/
inductive Failure where
  | unknownMethod (method : Json)
  | unknownFunction (name : String)
  | invalid (message : String) (details : Option Details)
  | noRow
  | uniqueViolation (message : String)
  | engine (fault : Fault)
deriving DecidableEq

namespace Failure

/-- A document that is no query. -/
def invalidRequest (report : Report) : Failure :=
  invalid "Invalid query request" (some (.report report))

/-- An update that changes nothing. -/
def emptyUpdate : Failure := invalid "Update requires at least one column" none

/-- Parameters that a function does not accept; the message names the fields at fault. -/
def invalidParameters (function : String) (report : Report) : Failure :=
  let fields := report.issues.filterMap (·.place.head?)
  invalid ("Invalid parameters for " ++ function ++ ": " ++ Text.join ", " fields)
    (some (.report report))

/-- The failure that a fault of the engine amounts to. -/
def ofFault (fault : Fault) : Failure :=
  if fault.isUniqueViolation then uniqueViolation fault.message else engine fault

/-- The wording of a failure. -/
def message : Failure → String
  | unknownMethod method => "Unknown method: " ++ method.display
  | unknownFunction name => "Unknown RPC function: " ++ name
  | invalid message _ => message
  | noRow => "JSON object requested, multiple (or no) rows returned"
  | uniqueViolation message => message
  | engine fault => fault.text

/-- The code of a failure. -/
def code : Failure → Option String
  | unknownMethod _ => none
  | unknownFunction _ => some "PGRST202"
  | invalid _ _ => some "22023"
  | noRow => some "PGRST116"
  | uniqueViolation _ => some "23505"
  | engine fault => fault.code?

/-- What a failure says beyond its message. -/
def details : Failure → Option Details
  | invalid _ details => details
  | noRow => some (.text "The result contains 0 rows")
  | _ => none

/-- A failure as a document. There are no hints. -/
def document (failure : Failure) : Json :=
  .object [
    ("message", .string failure.message),
    ("code", Json.ofOption .string failure.code),
    ("details", Json.ofOption Details.document failure.details),
    ("hint", .null)]

end Failure

/-- The answer to a query: data or a failure. -/
abbrev Answer := Except Failure Json

/-- An answer as a document: of its two fields, one is null. -/
def Answer.document (answer : Answer) : Json :=
  match answer with
  | .ok data => .object [("data", data), ("error", .null)]
  | .error failure => .object [("data", .null), ("error", failure.document)]

end RowQuery
