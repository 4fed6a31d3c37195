import RowQuery.Filter.Basic
import RowQuery.Check.Scalar
import RowQuery.Json.Display
import RowQuery.Text.Lower

/-!
# Reading filters

* `Filter.readAs` reads the fields of a filter of a known kind.
* `Filter.read` reads a filter whose kind is told by its tag; issues inside it are placed under
  the tag.
-/

namespace RowQuery.Filter

open Checked

/-- The value with the word "null", in any letter case, read as null. -/
def nullWord (value : Json) : Json :=
  match value with
  | .string s => if Text.lower s = "null" then .null else value
  | _ => value

/-- A value that has to be null or the word for it. -/
def nothing (found : Json) : Checked Unit :=
  match nullWord found with
  | .null => .ok ()
  | _ => refuse .notNull found

/-- The operators of a negated filter; one of them asks for a value that is not null. -/
def operators : List (String × Option DifferenceWord) :=
  [("is", none), ("eq", some .eq), ("neq", some .neq)]

/-- A negated filter from its parts. The whole filter is refused where it negates a comparison
with null and has another value. -/
def negate (fields : Fields) (column : String) (operator : Option DifferenceWord) (value : Json) :
    Checked Filter :=
  match operator with
  | some word => .ok (.differs column word value)
  | none =>
    match nullWord value with
    | .null => .ok (.notNull column)
    | _ => refuse (.custom "not.is only supports null") (.object fields)

/-- The fields of a filter of a known kind; a tag, if present, must be that of the kind. -/
def readFields (kind : Kind) (fields : Fields) : Checked Filter :=
  let tag := optional fields "type" () (literal [(kind.tag, ())])
  let column := required fields "column" string
  let tagged {α : Type} (outcome : Checked α) : Checked α := (fun _ a => a) <$> tag <*> outcome
  match kind with
  | .eq => tagged (equals <$> column <*> required fields "value" anything)
  | .oneOf => tagged (oneOf <$> column <*> required fields "value" (list anything))
  | .isNull => tagged ((fun c _ => isNull c) <$> column <*> optional fields "value" () nothing)
  | .ilike => tagged (matchesPattern <$> column <*> required fields "value" string)
  | .negated =>
    let parts := Prod.mk <$> column <*>
      (Prod.mk <$> optional fields "operator" (some .eq) (literal operators) <*>
        optional fields "value" .null anything)
    (tagged parts).andThen fun (column, operator, value) => negate fields column operator value
  | .anyOf => tagged (anyOf <$> optional fields "condition" "" string)

/-- A filter of a known kind. -/
def readAs (kind : Kind) (found : Json) : Checked Filter :=
  match found with
  | .object fields => readFields kind fields
  | _ => refuse (.notModel kind.model) found

/-- A filter of the kind that its tag tells. -/
def read (found : Json) : Checked Filter :=
  match found with
  | .object fields =>
    match Fields.get? fields "type" with
    | none => refuse .noTag found
    | some tag =>
      let unknown := refuse (.unknownTag tag.display (Kind.all.map Kind.tag)) found
      match tag with
      | .string s =>
        match Kind.ofTag? s with
        | some kind => (readFields kind fields).within kind.tag
        | none => unknown
      | _ => unknown
  | _ => refuse .noFields found

end RowQuery.Filter
