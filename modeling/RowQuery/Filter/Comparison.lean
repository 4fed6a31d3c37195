/-!
# Comparisons

The six comparisons of a column with a value.
-/

namespace RowQuery

/-- A comparison of two values. -/
inductive Comparison where
  | eq
  | ne
  | gt
  | ge
  | lt
  | le
deriving DecidableEq

namespace Comparison

/-- All comparisons. -/
def all : List Comparison := [eq, ne, gt, ge, lt, le]

/-- The sign of a comparison in a statement. -/
def sign : Comparison → String
  | eq => "="
  | ne => "!="
  | gt => ">"
  | ge => ">="
  | lt => "<"
  | le => "<="

/-- The word for a comparison in an alternative. -/
def word : Comparison → String
  | eq => "eq"
  | ne => "neq"
  | gt => "gt"
  | ge => "gte"
  | lt => "lt"
  | le => "lte"

/-- The comparison of a word; every other word means equality. -/
def ofWord (text : List Char) : Comparison :=
  (all.find? fun comparison => comparison.word.toList = text).getD eq

/-- Whether the comparison holds of two values that stand to each other as given. -/
def holds : Comparison → Ordering → Bool
  | eq, order => order.isEq
  | ne, order => order.isNe
  | gt, order => order.isGT
  | ge, order => order.isGE
  | lt, order => order.isLT
  | le, order => order.isLE

end Comparison

end RowQuery
