import RowQuery.Failure
import RowQuery.Filter.Read
import RowQuery.Request.Basic

/-!
# Reading requests

* `Request.read` reads a whole request; fields that it does not know are passed over.
* `Request.taken` takes the fields of a request as they are.
* The readers of single fields are shared with requests that are put together call by call.
-/

namespace RowQuery

open Checked

/-- One order term; it is ascending unless it says otherwise. -/
def OrderTerm.read (found : Json) : Checked OrderTerm :=
  match found with
  | .object fields =>
    OrderTerm.mk <$> required fields "column" string <*> optional fields "ascending" true flag
  | _ => refuse (.notModel "OrderSpec") found

/-- A body: nothing, a record or a list of records. What is neither has the issues of both. -/
def Body.read (found : Json) : Checked Body :=
  match found with
  | .null => .ok .absent
  | .object fields => .ok (.record (.ofPairs fields))
  | _ =>
    match list object found with
    | .ok items => .ok (.records (items.map Record.ofPairs))
    | .failed issues =>
      (fun _ (items : List Fields) => .records (items.map Record.ofPairs)) <$>
        (refuse .notObject found : Checked Unit).within "dict[str,any]" <*>
        (Checked.failed issues).within "list[dict[str,any]]"

/-- The word for a method. -/
def Method.read : Json → Checked Method := literal (Method.all.map fun m => (m.word, m))

namespace Request

/-- The name that reports give to a request. -/
def model : String := "QueryRequest"

/-- The flag for at most one row, under either of its two names; the first one is preferred. -/
def readMaybeSingle (fields : Fields) : Checked Bool :=
  if Fields.has fields "maybe_single" then optional fields "maybe_single" false flag
  else optional fields "maybeSingle" false flag

/-- A request from the fields of an object. -/
def readFields (fields : Fields) : Checked Request :=
  Request.mk <$> required fields "table" nonEmptyString
    <*> required fields "method" Method.read
    <*> optional fields "columns" none (nullable string)
    <*> optional fields "body" .absent Body.read
    <*> optional fields "filters" [] (list Filter.read)
    <*> optional fields "order" [] (list OrderTerm.read)
    <*> optional fields "limit" none (nullable positive)
    <*> optional fields "single" false flag
    <*> readMaybeSingle fields

/-! ### Unchecked requests -/

/-- The fault of a value that has no attribute of a name. -/
def lacking (found : Json) (name : String) : Fault :=
  ⟨"AttributeError", "'" ++ found.kindName ++ "' object has no attribute '" ++ name ++ "'"⟩

/-- The fault of a value that has no elements. -/
def notIterable (found : Json) : Fault :=
  ⟨"TypeError", "'" ++ found.kindName ++ "' object is not iterable"⟩

/-- Whether a value has elements that can be gone through. -/
def hasElements : Json → Bool
  | .array _ | .object _ | .string _ => true
  | _ => false

/-- A body as it is; what is no record and no list counts as absent. -/
def takenBody : Json → Body
  | .object fields => .record (.ofPairs fields)
  | .array items => .records (items.map fun item =>
      match item with
      | .object fields => .ofPairs fields
      | _ => .ofPairs [])
  | _ => .absent

/-- A limit as it is; what counts as false is none. -/
def takenLimit : Json → Option Int
  | .integer n => if n = 0 then none else some n
  | .bool true => some 1
  | _ => none

/-- A field of a request, or a value in place of one that is absent. -/
def fieldOr (fields : Fields) (name : String) (default : Json) : Json :=
  (Fields.get? fields name).getD default

/-- A request from fields that are not checked. Filters that have not been read are no conditions,
and order terms that have not been read are a fault. -/
def taken (method : Method) (fields : Fields) : Except Fault Request := do
  let table := fieldOr fields "table" .null
  let filters := fieldOr fields "filters" (.array [])
  let order := fieldOr fields "order" (.array [])
  if !hasElements filters then throw (notIterable filters)
  let .string table := table | throw (lacking table "replace")
  match method, order with
  | .select, .array (term :: _) => throw (lacking term "column")
  | _, _ =>
    return {
      table
      method
      columns := match fieldOr fields "columns" .null with
        | .string columns => some columns
        | _ => none
      body := takenBody (fieldOr fields "body" .null)
      filters := []
      order := []
      limit := takenLimit (fieldOr fields "limit" .null)
      single := (fieldOr fields "single" (.bool false)).truthy
      maybeSingle := (fieldOr fields "maybe_single"
        (fieldOr fields "maybeSingle" (.bool false))).truthy }

/-- A request. -/
def read (found : Json) : Checked Request :=
  match found with
  | .object fields => readFields fields
  | _ => refuse (.notModel model) found

end Request

end RowQuery
