import RowQuery.Kinship.Consultation
import RowQuery.Check.Checked

/-!
# Functions called by name

A caller can have a function computed by its name, with a document of parameters. There is one
function, which tells whether a person belongs to the descent of another.

* `Functions.call` answers a call. Neither an unknown function nor unfit parameters reach the
  records.
-/

namespace RowQuery

/-- Two persons. -/
structure SubtreeParams where
  root : String
  target : String
deriving DecidableEq

namespace SubtreeParams

/-- The name that reports give to the parameters. -/
def model : String := "SubtreeParams"

/-- The parameters from the fields of an object. -/
def read (fields : Fields) : Checked SubtreeParams :=
  SubtreeParams.mk <$> Checked.required fields "root_id" Checked.nonEmptyString
    <*> Checked.required fields "target_id" Checked.nonEmptyString

end SubtreeParams

namespace Functions

/-- The name of the function. -/
def subtree : String := "is_person_in_subtree"

/-- Answers a call. -/
def call (records : Records) (name : String) (params : Fields) : Answer × Consultation :=
  if name ≠ subtree then (.error (.unknownFunction name), .start)
  else match (SubtreeParams.read params).toExcept SubtreeParams.model with
    | .error report => (.error (.invalidParameters name report), .start)
    | .ok persons =>
      match records.contains persons.root persons.target .start with
      | (.ok found, after) => (.ok (.bool found), after)
      | (.error fault, after) => (.error (.engine fault), after)

end Functions

end RowQuery
