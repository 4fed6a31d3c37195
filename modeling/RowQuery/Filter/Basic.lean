import RowQuery.Json.Basic

/-!
# Filters

A filter is one condition on the rows of a table, as a query states it.

* `Filter` lists the six kinds, the negated one split by what it negates.
* `Filter.document` is a filter as a document.
-/

namespace RowQuery

/-- The two words for "differs from". -/
inductive DifferenceWord where
  | eq
  | neq
deriving DecidableEq

/-- The word itself. -/
def DifferenceWord.text : DifferenceWord → String
  | eq => "eq"
  | neq => "neq"

/-- One condition on rows. -/
inductive Filter where
  /-- The column equals the value. -/
  | equals (column : String) (value : Json)
  /-- The column equals one of the values. -/
  | oneOf (column : String) (values : List Json)
  /-- The column is null. -/
  | isNull (column : String)
  /-- The column matches the pattern, letter case aside. -/
  | matchesPattern (column pattern : String)
  /-- The column is not null. -/
  | notNull (column : String)
  /-- The column differs from the value. -/
  | differs (column : String) (word : DifferenceWord) (value : Json)
  /-- One of the alternatives written in the text holds. -/
  | anyOf (alternatives : String)
deriving DecidableEq

namespace Filter

/-- The kinds of filters, as the field `type` of a document tells them apart. -/
inductive Kind where
  | eq
  | oneOf
  | isNull
  | ilike
  | negated
  | anyOf
deriving DecidableEq

namespace Kind

/-- All kinds, in the order in which reports list them. -/
def all : List Kind := [eq, oneOf, isNull, ilike, negated, anyOf]

/-- The tag of a kind. -/
def tag : Kind → String
  | eq => "eq"
  | oneOf => "in"
  | isNull => "is"
  | ilike => "ilike"
  | negated => "not"
  | anyOf => "or"

/-- The name that reports give to a filter of the kind. -/
def model : Kind → String
  | eq => "EqFilter"
  | oneOf => "InFilter"
  | isNull => "IsFilter"
  | ilike => "IlikeFilter"
  | negated => "NotFilter"
  | anyOf => "OrFilter"

/-- The kind with a tag. -/
def ofTag? (tag : String) : Option Kind := all.find? (·.tag = tag)

/-- The kind with a name in reports. -/
def ofModel? (model : String) : Option Kind := all.find? (·.model = model)

end Kind

/-- The fields of a filter. -/
def fields : Filter → Fields
  | equals column value => [typed .eq, ("column", .string column), ("value", value)]
  | oneOf column values => [typed .oneOf, ("column", .string column), ("value", .array values)]
  | isNull column => [typed .isNull, ("column", .string column), ("value", .null)]
  | matchesPattern column pattern =>
    [typed .ilike, ("column", .string column), ("value", .string pattern)]
  | notNull column =>
    [typed .negated, ("column", .string column), ("operator", .string "is"), ("value", .null)]
  | differs column word value =>
    [typed .negated, ("column", .string column), ("operator", .string word.text), ("value", value)]
  | anyOf alternatives => [typed .anyOf, ("condition", .string alternatives)]
where
  /-- The field that holds the tag. -/
  typed (kind : Kind) : String × Json := ("type", .string kind.tag)

/-- A filter as a document. -/
def document (filter : Filter) : Json := .object filter.fields

end Filter

end RowQuery
