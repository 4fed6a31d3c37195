import RowQuery.Engine.Basic
import RowQuery.Filter.Compile
import RowQuery.Request.Builder

/-!
# Executing requests

A request is answered by running statements on an engine.

* `Execution.respond` runs a request that has been checked.
* `Query.execute` takes a query in any form, and gives an answer in every case.

## Design notes

The records of an insert are written one by one, each in a transaction of its own, so a fault
leaves the records before it in place. An update that asks for rows reads them back with the
filters of the update, after it.
-/

namespace RowQuery

namespace Execution

variable {σ : Type}

/-- The rows of a table that a statement yields, as what they mean. -/
def fetch (engine : Engine σ) (schema : Schema) (table : String) (statement : Sql.Statement) :
    Run σ (List Json) := do
  let reply ← Run.query engine statement
  return reply.records.map fun record => .object ((schema.traits table).toLogical record)

/-- The first row, or null. -/
def firstRow (rows : List Json) : Json := rows.headD .null

/-- The answer of a select that yields these rows. -/
def cardinality (request : Request) (rows : List Json) : Answer :=
  if request.single then
    match rows with
    | [] => .error .noRow
    | row :: _ => .ok row
  else if request.maybeSingle then .ok (firstRow rows)
  else .ok (.array rows)

/-- The columns that a request asks for. -/
def projection (request : Request) : Sql.Projection := .ofColumns request.columns

/-- The conditions of the filters of a request. -/
def conditions (schema : Schema) (request : Request) : List Sql.Condition :=
  Filter.conditions schema request.table request.filters

/-! ### Select -/

/-- The statement of a select. -/
def selectStatement (schema : Schema) (request : Request) : Sql.Statement :=
  .select (projection request) request.table (conditions schema request) request.order request.limit

/-- Answers a select. -/
def select (engine : Engine σ) (schema : Schema) (request : Request) : Run σ Answer := do
  let rows ← fetch engine schema request.table (selectStatement schema request)
  return cardinality request rows

/-! ### Insert -/

/-- Whether a record has a value under a name that counts as true. -/
def hasValue (fields : Fields) (name : String) : Bool :=
  ((Fields.get? fields name).map Json.truthy).getD false

/-- The record with a value under a name where it has none. -/
def fill (fields : Fields) (name : String) (value : Json) : Fields :=
  if hasValue fields name then fields else Fields.put fields name value

/-- The record with a fresh identifier, if it has none. -/
def identify (sources : Sources) (fields : Fields) : Run σ Fields :=
  if hasValue fields "id" then return fields
  else return Fields.put fields "id" (.string (← Run.identifier sources))

/-- The record with its stamps, where it has none. -/
def stamp (traits : Traits) (now : Instant) (fields : Fields) : Fields :=
  let created := fill fields "created_at" (.string now.text)
  if traits.stamped then fill created stampColumn (.string now.text) else created

/-- The rows with an identifier; the value is one of an inserted record. -/
def rereadStatement (request : Request) (id : Json) : Sql.Statement :=
  .select (projection request) request.table [.compare ⟨"id", .eq, id⟩] [] none

/-- Inserts a record. Yields the stored row, if the request asks for rows. -/
def insertRecord (engine : Engine σ) (sources : Sources) (schema : Schema) (request : Request)
    (record : Fields) : Run σ (List Json) := do
  let traits := schema.traits request.table
  let identified ← identify sources (traits.toStorage record)
  let now ← Run.instant sources
  let values := stamp traits now identified
  Run.write engine (.insert request.table values)
  if request.wantsRows then
    let id := (Fields.get? values "id").getD .null
    let rows ← fetch engine schema request.table (rereadStatement request id)
    return rows.take 1
  else return []

/-- Inserts records one after the other. -/
def insertRecords (engine : Engine σ) (sources : Sources) (schema : Schema) (request : Request) :
    List Fields → Run σ (List Json)
  | [] => return []
  | record :: rest => do
    let rows ← insertRecord engine sources schema request record
    return rows ++ (← insertRecords engine sources schema request rest)

/-- The answer of an insert that yields these rows. -/
def insertAnswer (request : Request) (rows : List Json) : Answer :=
  match request.single, rows with
  | true, row :: _ => .ok row
  | _, _ => .ok (if request.wantsRows then .array rows else .null)

/-- Answers an insert. -/
def insert (engine : Engine σ) (sources : Sources) (schema : Schema) (request : Request) :
    Run σ Answer := do
  let rows ← insertRecords engine sources schema request request.records
  return insertAnswer request rows

/-! ### Update -/

/-- The stored form of the record that an update writes, with the stamp of the change in tables
that have one; a stamp in the record is overwritten. -/
def changes (sources : Sources) (schema : Schema) (request : Request) : Run σ Fields := do
  let traits := schema.traits request.table
  let values := traits.toStorage request.firstRecord
  if traits.stamped then
    return Fields.put values stampColumn (.string (← Run.instant sources).text)
  else return values

/-- The answer of an update that reads these rows back. -/
def updateAnswer (request : Request) (rows : List Json) : Answer :=
  .ok (if request.single then firstRow rows else .array rows)

/-- Answers an update. -/
def update (engine : Engine σ) (sources : Sources) (schema : Schema) (request : Request) :
    Run σ Answer := do
  let values ← changes sources schema request
  if values.isEmpty then return .error .emptyUpdate
  let conditions := conditions schema request
  Run.write engine (.update request.table values conditions)
  if request.wantsRows then
    let rows ← fetch engine schema request.table
      (.select (projection request) request.table conditions [] none)
    return updateAnswer request rows
  else return .ok .null

/-! ### Delete -/

/-- Answers a delete. The rows that go are not reported. -/
def delete (engine : Engine σ) (schema : Schema) (request : Request) : Run σ Answer := do
  Run.write engine (.delete request.table (conditions schema request))
  return .ok .null

/-! ### Any request -/

/-- Answers a request, or stops with a fault of the engine. -/
def respond (engine : Engine σ) (sources : Sources) (schema : Schema) (request : Request) :
    Run σ Answer :=
  match request.method with
  | .select => select engine schema request
  | .insert => insert engine sources schema request
  | .update => update engine sources schema request
  | .delete => delete engine schema request

/-- Answers a request; a fault of the engine becomes a failure. -/
def answer (engine : Engine σ) (sources : Sources) (schema : Schema) (request : Request)
    (world : World σ) : Answer × World σ :=
  let prepared := { world with state := engine.prepare world.state }
  match respond engine sources schema request prepared with
  | (.ok answer, world) => (answer, world)
  | (.error fault, world) => (.error (.ofFault fault), world)

end Execution

/-- A query in one of the forms in which it is given. -/
inductive Query where
  /-- A document that should describe a request. -/
  | document (document : Json)
  /-- A request in the making. -/
  | draft (draft : Draft)
  /-- A request. -/
  | request (request : Request)

namespace Query

variable {σ : Type}

/-- The request that a query amounts to. The method is looked at before anything else. -/
def check : Query → Except Failure Request
  | .document value => withMethod ((value.field? "method").getD .null) (Request.read value)
  | .draft calls => withMethod calls.methodJson calls.check
  | .request given => .ok given
where
  /-- What has been read, provided that the method is a known one. -/
  withMethod (method : Json) (outcome : Checked Request) : Except Failure Request :=
    if (Method.ofJson? method).isNone then .error (.unknownMethod method)
    else (outcome.toExcept Request.model).mapError Failure.invalidRequest

/-- Answers a query. One that is no request never reaches the engine. -/
def execute (engine : Engine σ) (sources : Sources) (schema : Schema) (query : Query)
    (world : World σ) : Answer × World σ :=
  match query.check with
  | .ok checked => Execution.answer engine sources schema checked world
  | .error failure => (.error failure, world)

end Query

end RowQuery
