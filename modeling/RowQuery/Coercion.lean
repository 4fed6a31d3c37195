import RowQuery.Schema
import RowQuery.Json.Reader
import RowQuery.Json.Writer

/-!
# Logical and stored values

Truth values are stored as 0 and 1, documents as their text.

* `Traits.toStorage` and `Traits.toLogical` turn the fields of a record from one form to the other.
* `Schema.filterValue` turns a value that a filter compares with.

Text in a document column that is no document is kept as it is, in both directions.

## Design notes

Documents are written out whatever they hold. The integers in them are taken to have at most 4300
digits: no reader lets a longer one in, and a writer with that limit would refuse it.
-/

namespace RowQuery

/-- The document that a stored text holds, if it holds one. -/
def storedDocument? (text : String) : Option Json := (Json.read text).toOption

namespace Traits

/-- A value as it is stored. Text in a document column passes as it is: it may have been written
as a document already. -/
def storedValue (traits : Traits) (column : String) (value : Json) : Json :=
  if traits.booleans.contains column then .integer (if value.truthy then 1 else 0)
  else if traits.documents.contains column then
    match value with
    | .array _ | .object _ => .string value.compact
    | _ => value
  else value

/-- Whether a stored value means true. -/
def isOne : Json → Bool
  | .bool b => b
  | .integer n => n = 1
  | .float x => x.toInt? = some 1
  | _ => false

/-- A stored value as what it means. -/
def logicalValue (traits : Traits) (column : String) (value : Json) : Json :=
  if traits.booleans.contains column then .bool (isOne value)
  else if traits.documents.contains column then
    match value with
    | .string text => (storedDocument? text).getD value
    | _ => value
  else value

/-- The fields of a record as they are stored. -/
def toStorage (traits : Traits) (fields : Fields) : Fields :=
  fields.map fun (column, value) => (column, traits.storedValue column value)

/-- The fields of a stored row as what they mean. -/
def toLogical (traits : Traits) (fields : Fields) : Fields :=
  fields.map fun (column, value) => (column, traits.logicalValue column value)

end Traits

/-- A value that a filter compares a column with. Only true and false change, and only where the
column holds truth values. -/
def Schema.filterValue (schema : Schema) (table column : String) (value : Json) : Json :=
  match value with
  | .bool b => if schema.isBoolean table column then .integer (if b then 1 else 0) else value
  | _ => value

end RowQuery
