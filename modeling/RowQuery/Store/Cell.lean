import RowQuery.Check.Scalar
import RowQuery.Store.Fault

/-!
# Cells

What the store keeps in one place of a row: nothing, a number or a text.

* `Cell.order` is the order of cells: null, then numbers, then text.
* `Cell.ofJson` turns a parameter of a statement into a cell, where that can be done.
* `Cell.json` turns a cell back into a value.
-/

namespace RowQuery

/-- A stored value. Integers fit into 64 bits. -/
inductive Cell where
  | null
  | integer (value : Int)
  | real (value : Binary64)
  | text (value : String)
deriving DecidableEq

namespace Cell

/-- A cell as a value. -/
def json : Cell → Json
  | null => .null
  | integer n => .integer n
  | real x => .float x
  | text s => .string s

/-- Why a value cannot be a parameter. -/
inductive BindFault where
  | hugeInteger
  | unsupported (kind : String)
deriving DecidableEq

/-- A parameter as a cell. A truth value is a number, and what is not a number is null. -/
def ofJson : Json → Except BindFault Cell
  | .null => .ok null
  | .bool b => .ok (integer (if b then 1 else 0))
  | .integer n => if Scalar.fitsWord n then .ok (integer n) else .error .hugeInteger
  | .float .nan => .ok null
  | .float x => .ok (real x)
  | .string s => .ok (text s)
  | value@(.array _) | value@(.object _) => .error (.unsupported value.kindName)

/-- The cell of a parameter that can be one. -/
def bound (value : Json) : Cell :=
  match ofJson value with
  | .ok cell => cell
  | .error _ => null

/-- The first parameter that cannot be bound, where `position` is that of the first one. -/
def bindFault? (position : Nat) : List Json → Option StoreFault
  | [] => none
  | value :: rest =>
    match ofJson value with
    | .ok _ => bindFault? (position + 1) rest
    | .error .hugeInteger => some .hugeInteger
    | .error (.unsupported kind) => some (.unsupported position kind)

/-- The order of two texts, by code points. -/
def textOrder : List Char → List Char → Ordering
  | [], [] => .eq
  | [], _ => .lt
  | _, [] => .gt
  | a :: as, b :: bs => (compare a.toNat b.toNat).then (textOrder as bs)

/-- The order of two cells. -/
def order : Cell → Cell → Ordering
  | null, null => .eq
  | null, _ => .lt
  | _, null => .gt
  | integer m, integer n => compare m n
  | integer m, real y => (y.compareInt m).swap
  | real x, integer n => x.compareInt n
  | real x, real y => x.order y
  | text s, text t => textOrder s.toList t.toList
  | text _, _ => .gt
  | _, text _ => .lt

/-- Whether nothing is stored. -/
def isNull (cell : Cell) : Bool := cell = null

end Cell

end RowQuery
