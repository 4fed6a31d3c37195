import RowQuery.Filter.Basic

/-!
# Requests

A request is one query against one table.

* `Request` is a query that has been put together.
* `Request.Valid` is what checks promise of one.
* `Request.records` and `Request.firstRecord` are the records that its body holds.
* `Request.document` is a request as a document, every field present.

## Design notes

The records of a request have no name twice, however it comes about. That its table has a name and
that its limit is above zero is promised only of what has been checked: a request can also be put
together without checks, and is answered then like any other.
-/

namespace RowQuery

/-- What a request does. -/
inductive Method where
  | select
  | insert
  | update
  | delete
deriving DecidableEq

namespace Method

/-- All methods, in the order in which reports list them. -/
def all : List Method := [select, insert, update, delete]

/-- The word for a method. -/
def word : Method → String
  | select => "select"
  | insert => "insert"
  | update => "update"
  | delete => "delete"

/-- The method that a value names. -/
def ofJson? : Json → Option Method
  | .string s => all.find? (·.word = s)
  | _ => none

end Method

/-- One term of an order: a column and a direction. -/
structure OrderTerm where
  column : String
  ascending : Bool
deriving DecidableEq

/-- An order term as a document. -/
def OrderTerm.document (term : OrderTerm) : Json :=
  .object [("column", .string term.column), ("ascending", .bool term.ascending)]

/-- The records that a request brings along. -/
inductive Body where
  | absent
  | record (one : Record)
  | records (items : List Record)
deriving DecidableEq

/-- A body as a document. -/
def Body.document : Body → Json
  | .absent => .null
  | .record one => .object one.fields
  | .records items => .array (items.map fun item => .object item.fields)

/-- A query against one table. -/
structure Request where
  table : String
  method : Method
  /-- The columns asked for, as one text; none is asked for where a write returns no rows. -/
  columns : Option String
  body : Body
  filters : List Filter
  order : List OrderTerm
  limit : Option Int
  single : Bool
  maybeSingle : Bool
deriving DecidableEq

namespace Request

/-- The records to insert: a body that is absent counts as one empty record. -/
def records (request : Request) : List Fields :=
  match request.body with
  | .absent => [[]]
  | .record one => [one.fields]
  | .records items => items.map Record.fields

/-- No name repeats in a record. -/
theorem nodup_of_mem_records {request : Request} {record : Fields}
    (mem : record ∈ request.records) : (record.map (·.1)).Nodup := by
  rw [records] at mem
  split at mem
  · rw [List.mem_singleton.mp mem]
    exact List.nodup_nil
  · next one _ =>
    rw [List.mem_singleton.mp mem]
    exact one.distinct
  · obtain ⟨item, -, rfl⟩ := List.mem_map.mp mem
    exact item.distinct

/-- What checks promise of a request: it names a table, and its limit is above zero. -/
structure Valid (request : Request) : Prop where
  named : request.table ≠ ""
  positive : ∀ limit ∈ request.limit, 0 < limit

/-- The record to update with: the first one, empty if there is none. -/
def firstRecord (request : Request) : Fields := request.records.headD []

theorem nodup_firstRecord (request : Request) : (request.firstRecord.map (·.1)).Nodup := by
  rw [firstRecord]
  cases brought : request.records with
  | nil => exact List.nodup_nil
  | cons record rest => exact nodup_of_mem_records (brought ▸ List.mem_cons_self)

/-- Whether the request asks for columns by a text that is not empty. -/
def wantsRows (request : Request) : Bool :=
  match request.columns with
  | some columns => columns ≠ ""
  | none => false

/-- A request as a document. -/
def document (request : Request) : Json :=
  .object [
    ("table", .string request.table),
    ("method", .string request.method.word),
    ("columns", Json.ofOption .string request.columns),
    ("body", request.body.document),
    ("filters", .array (request.filters.map Filter.document)),
    ("order", .array (request.order.map OrderTerm.document)),
    ("limit", Json.ofOption .integer request.limit),
    ("single", .bool request.single),
    ("maybe_single", .bool request.maybeSingle)]

end Request

end RowQuery
