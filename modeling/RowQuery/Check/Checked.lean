import RowQuery.Check.Issue

/-!
# Reading a document with all its issues

A reader of a part of a document either accepts it or lists what is wrong with it. Readers are
combined so that the issues of all parts are kept, in order.

* `Checked` is the outcome of a reader; its applicative structure collects issues.
* `Checked.required` and `Checked.optional` read the field of an object, `Checked.list` a list.
-/

namespace RowQuery

/-- A value read from a document, or the issues that keep it from being read. -/
inductive Checked (α : Type) where
  | ok (value : α)
  | failed (issues : List Issue)

namespace Checked

variable {α β : Type}

/-- The outcome with its value changed. -/
def map (f : α → β) : Checked α → Checked β
  | .ok a => .ok (f a)
  | .failed issues => .failed issues

/-- Both outcomes together; the issues of the first come first. -/
def seq : Checked (α → β) → Checked α → Checked β
  | .ok f, .ok a => .ok (f a)
  | .ok _, .failed issues => .failed issues
  | .failed issues, .ok _ => .failed issues
  | .failed first, .failed second => .failed (first ++ second)

instance : Applicative Checked where
  map := map
  pure := .ok
  seq f a := seq f (a ())

/-- A further reader for the value read. -/
def andThen (outcome : Checked α) (next : α → Checked β) : Checked β :=
  match outcome with
  | .ok a => next a
  | .failed issues => .failed issues

/-- The outcome as that of a part called `name`. -/
def within (name : String) : Checked α → Checked α
  | .ok a => .ok a
  | .failed issues => .failed (issues.map fun issue => { issue with place := name :: issue.place })

/-- A value that is refused as a whole. -/
def refuse (complaint : Complaint) (found : Json) : Checked α := .failed [⟨[], complaint, found⟩]

/-- The outcome as a report about `model`. -/
def toExcept (model : String) : Checked α → Except Report α
  | .ok a => .ok a
  | .failed issues => .error ⟨model, issues⟩

/-- A field that has to be present. -/
def required (fields : Fields) (name : String) (read : Json → Checked α) : Checked α :=
  match Fields.get? fields name with
  | some value => (read value).within name
  | none => (refuse .missing (.object fields)).within name

/-- A field that may be absent. -/
def optional (fields : Fields) (name : String) (default : α) (read : Json → Checked α) :
    Checked α :=
  match Fields.get? fields name with
  | some value => (read value).within name
  | none => .ok default

/-- The items of a list, the first at position `start`. -/
def items (read : Json → Checked α) (start : Nat) : List Json → Checked (List α)
  | [] => .ok []
  | item :: rest =>
    (((read item).within (toString start)).map List.cons).seq (items read (start + 1) rest)

/-- A list. -/
def list (read : Json → Checked α) : Json → Checked (List α)
  | .array values => items read 0 values
  | found => refuse .notList found

/-- A value that may be null. -/
def nullable (read : Json → Checked α) : Json → Checked (Option α)
  | .null => .ok none
  | found => (read found).map some

/-- Any value. -/
def anything (value : Json) : Checked Json := .ok value

/-- A string. -/
def string : Json → Checked String
  | .string s => .ok s
  | found => refuse .notString found

/-- A string with a character in it. -/
def nonEmptyString : Json → Checked String
  | .string s => if s = "" then refuse .emptyString (.string s) else .ok s
  | found => refuse .notString found

/-- One of a few words, each with its meaning. -/
def literal (words : List (String × α)) (found : Json) : Checked α :=
  match found with
  | .string s =>
    match words.find? (·.1 = s) with
    | some (_, meaning) => .ok meaning
    | none => refuse (.notLiteral (words.map (·.1))) found
  | _ => refuse (.notLiteral (words.map (·.1))) found

/-- The fields of an object. -/
def object : Json → Checked Fields
  | .object fields => .ok fields
  | found => refuse .notObject found

end Checked

end RowQuery
