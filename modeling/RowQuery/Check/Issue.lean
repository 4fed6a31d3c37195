import RowQuery.Json.Basic
import RowQuery.Text.Basic

/-!
# What is wrong with a document

A document that does not describe what it should is answered with a report: every issue found, in
the order of the fields, each with its place, its cause and the kind of value that was found there.

* `Complaint` lists the causes; `Complaint.code` and `Complaint.message` word them.
* `Report.document` is a report as a document, `Report.text` one in words.
-/

namespace RowQuery

/-- Why a value is not accepted. -/
inductive Complaint where
  | missing
  | notString
  | emptyString
  | notList
  | notObject
  | notLiteral (expected : List String)
  | unreadableFlag
  | notFlag
  | unreadableInteger
  | hugeInteger
  | fractional
  | notFinite
  | notInteger
  | notPositive
  | notModel (model : String)
  | noFields
  | noTag
  | unknownTag (tag : String) (expected : List String)
  | notNull
  | custom (message : String)
deriving DecidableEq

namespace Complaint

/-- A word between single quotes. -/
def quote (word : String) : String := "'" ++ word ++ "'"

/-- Quoted words separated by commas, the last two by "or". -/
def alternatives : List String → String
  | [] => ""
  | [word] => quote word
  | [first, second] => quote first ++ " or " ++ quote second
  | word :: rest => quote word ++ ", " ++ alternatives rest

/-- The short name of a cause. -/
def code : Complaint → String
  | missing => "missing"
  | notString => "string_type"
  | emptyString => "string_too_short"
  | notList => "list_type"
  | notObject => "dict_type"
  | notLiteral _ => "literal_error"
  | unreadableFlag => "bool_parsing"
  | notFlag => "bool_type"
  | unreadableInteger => "int_parsing"
  | hugeInteger => "int_parsing_size"
  | fractional => "int_from_float"
  | notFinite => "finite_number"
  | notInteger => "int_type"
  | notPositive => "greater_than"
  | notModel _ => "model_type"
  | noFields => "model_attributes_type"
  | noTag => "union_tag_not_found"
  | unknownTag _ _ => "union_tag_invalid"
  | notNull => "none_required"
  | custom _ => "value_error"

/-- The wording of a cause. -/
def message : Complaint → String
  | missing => "Field required"
  | notString => "Input should be a valid string"
  | emptyString => "String should have at least 1 character"
  | notList => "Input should be a valid list"
  | notObject => "Input should be a valid dictionary"
  | notLiteral expected => "Input should be " ++ alternatives expected
  | unreadableFlag => "Input should be a valid boolean, unable to interpret input"
  | notFlag => "Input should be a valid boolean"
  | unreadableInteger => "Input should be a valid integer, unable to parse string as an integer"
  | hugeInteger => "Unable to parse input string as an integer, exceeded maximum size"
  | fractional => "Input should be a valid integer, got a number with a fractional part"
  | notFinite => "Input should be a finite number"
  | notInteger => "Input should be a valid integer"
  | notPositive => "Input should be greater than 0"
  | notModel model => "Input should be a valid dictionary or instance of " ++ model
  | noFields => "Input should be a valid dictionary or object to extract fields from"
  | noTag => "Unable to extract tag using discriminator 'type'"
  | unknownTag tag expected =>
    "Input tag " ++ quote tag ++ " found using 'type' does not match any of the expected tags: " ++
      Text.join ", " (expected.map quote)
  | notNull => "Input should be None"
  | custom message => "Value error, " ++ message

end Complaint

/-- One issue: the names and positions that lead to the value, the cause, and the value found. -/
structure Issue where
  place : List String
  complaint : Complaint
  found : Json
deriving DecidableEq

/-- An issue as a document. -/
def Issue.document (issue : Issue) : Json :=
  .object [
    ("loc", .string (Text.join "." issue.place)),
    ("msg", .string issue.complaint.message),
    ("type", .string issue.complaint.code),
    ("input_type", .string issue.found.kindName)]

/-- All issues of a document that should have described a `model`. -/
structure Report where
  model : String
  issues : List Issue
deriving DecidableEq

namespace Report

/-- A report as a document. -/
def document (report : Report) : Json :=
  .object [("model", .string report.model), ("errors", .array (report.issues.map Issue.document))]

/-- A report in words: how many issues there are, and then each with its place. -/
def text (report : Report) : String :=
  let count := report.issues.length
  let head := toString count ++ (if count = 1 then " validation error for " else
    " validation errors for ") ++ report.model
  Text.join "\n" (head :: report.issues.flatMap fun issue =>
    [Text.join "." issue.place, "  " ++ issue.complaint.message])

end Report

end RowQuery
