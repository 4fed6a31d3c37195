import RowQuery.Request.Read

/-!
# Requests put together call by call

A draft of a request grows by one call after the other. Filters and order terms are checked when
they are added, everything else only when the draft is turned into a request.

* `Draft.apply` is one call.
* `Draft.check` turns a draft into a request; `Draft.document` is its form as a document, from
  which the same request is read.

## Design notes

A method that returns rows is asked for with `select` too. So `select` chooses the method only on
a draft that has none, and sets the columns in every case.
-/

namespace RowQuery

/-- A request in the making. -/
structure Draft where
  table : Json
  method : Option Method
  columns : Json
  body : Json
  filters : List Filter
  order : List OrderTerm
  limit : Json
  single : Bool
  maybeSingle : Bool
deriving DecidableEq

/-- One call on a draft. -/
inductive Call where
  | select (columns : Json)
  | insert (body : Json)
  | update (body : Json)
  | delete
  | eq (column value : Json)
  | neq (column value : Json)
  | oneOf (column values : Json)
  | isNull (column value : Json)
  | ilike (column pattern : Json)
  | negated (column operator value : Json)
  | anyOf (condition : Json)
  | order (column descending : Json)
  | limit (count : Json)
  | single
  | maybeSingle

/-- Why a call is refused. -/
inductive CallFault where
  | invalid (report : Report)
  | notIterable (value : Json)
deriving DecidableEq

namespace Draft

/-- The draft for a table, before any call. -/
def start (table : Json) : Draft :=
  { table, method := none, columns := .null, body := .null, filters := [], order := [],
    limit := .null, single := false, maybeSingle := false }

/-- The draft with a filter of some kind added, which is checked first. -/
def addFilter (draft : Draft) (kind : Filter.Kind) (fields : Fields) : Except CallFault Draft :=
  match (Filter.readFields kind fields).toExcept kind.model with
  | .ok filter => .ok { draft with filters := draft.filters ++ [filter] }
  | .error report => .error (.invalid report)

/-- The draft with an order term added, which is checked first. -/
def addOrder (draft : Draft) (column : Json) (ascending : Bool) : Except CallFault Draft :=
  match (OrderTerm.read (.object [("column", column), ("ascending", .bool ascending)])).toExcept
      "OrderSpec" with
  | .ok term => .ok { draft with order := draft.order ++ [term] }
  | .error report => .error (.invalid report)

/-- The members of a value: the items of a list, the characters of a string, the names in an
object. -/
def members (value : Json) : Except CallFault (List Json) :=
  match value with
  | .array items => .ok items
  | .string s => .ok (s.toList.map fun c => .string (String.singleton c))
  | .object fields => .ok (fields.map fun field => .string field.1)
  | _ => .error (.notIterable value)

/-- The draft after one call. -/
def apply (draft : Draft) : Call → Except CallFault Draft
  | .select columns => .ok { draft with method := draft.method.or (some .select), columns }
  | .insert body => .ok { draft with method := some .insert, body }
  | .update body => .ok { draft with method := some .update, body }
  | .delete => .ok { draft with method := some .delete }
  | .eq column value => draft.addFilter .eq [("column", column), ("value", value)]
  | .neq column value =>
    draft.addFilter .negated
      [("column", column), ("operator", .string DifferenceWord.neq.text), ("value", value)]
  | .oneOf column values =>
    match members values with
    | .ok items => draft.addFilter .oneOf [("column", column), ("value", .array items)]
    | .error fault => .error fault
  | .isNull column value => draft.addFilter .isNull [("column", column), ("value", value)]
  | .ilike column pattern => draft.addFilter .ilike [("column", column), ("value", pattern)]
  | .negated column operator value =>
    draft.addFilter .negated [("column", column), ("operator", operator), ("value", value)]
  | .anyOf condition => draft.addFilter .anyOf [("condition", condition)]
  | .order column descending => draft.addOrder column !descending.truthy
  | .limit count => .ok { draft with limit := count }
  | .single => .ok { draft with single := true }
  | .maybeSingle => .ok { draft with maybeSingle := true }

/-- The draft after a sequence of calls. -/
def applyAll (draft : Draft) (calls : List Call) : Except CallFault Draft :=
  calls.foldlM apply draft

/-- The method as a value. -/
def methodJson (draft : Draft) : Json := Json.ofOption (fun m => .string m.word) draft.method

/-- The draft as a document. -/
def document (draft : Draft) : Json :=
  .object [
    ("table", draft.table),
    ("method", draft.methodJson),
    ("columns", draft.columns),
    ("body", draft.body),
    ("filters", .array (draft.filters.map Filter.document)),
    ("order", .array (draft.order.map OrderTerm.document)),
    ("limit", draft.limit),
    ("single", .bool draft.single),
    ("maybe_single", .bool draft.maybeSingle)]

/-- The request that a draft amounts to; its filters and order terms have been checked already. -/
def check (draft : Draft) : Checked Request :=
  Request.mk <$> (Checked.nonEmptyString draft.table).within "table"
    <*> (Method.read draft.methodJson).within "method"
    <*> (Checked.nullable Checked.string draft.columns).within "columns"
    <*> (Body.read draft.body).within "body"
    <*> .ok draft.filters
    <*> .ok draft.order
    <*> (Checked.nullable Checked.positive draft.limit).within "limit"
    <*> .ok draft.single
    <*> .ok draft.maybeSingle

end Draft

end RowQuery
