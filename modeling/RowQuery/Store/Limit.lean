import RowQuery.Sql.Statement
import RowQuery.Store.Fault

/-!
# Limits on the text of statements

The store reads a statement from left to right, and stops where it finds too many parameters, too
high an expression or too many columns to assign to.

* `Condition.height` is the height of a condition as an expression; `tooHigh` tells whether
  conditions together are too high.
* `Measure` is something that is limited, and `Statement.measures` are the measures of a statement
  in the order in which they are taken.
* `Statement.overrun?` is what is too large first.

## Design notes

Several measures can be taken at one place of the text, so they are listed place by place. Where
more than one of them is too large at a place, the last one is reported. The limits are those of the
store as it is built by default.
-/

namespace RowQuery.Sql

/-! ### Heights -/

/-- The greatest height of an expression. -/
def maxHeight : Nat := 1000

/-- The height of an expression joined to what stands before it. -/
def joinHeight : Option Nat → Nat → Nat
  | none, height => height
  | some before, height => 1 + max before height

/-- The height of a chain of expressions, each joined to what stands before it. -/
def chainHeight : Option Nat → List Nat → Nat
  | before, [] => before.getD 0
  | before, height :: rest => chainHeight (some (joinHeight before height)) rest

/-- The height of a condition as an expression. -/
def Condition.height : Condition → Nat
  | compare _ | never | isNull _ | notNull _ => 2
  | oneOf _ values => if values.length = 1 then 3 else 2
  | like _ _ => 3
  | anyOf terms => chainHeight none (terms.map fun _ => 2)

/-- Whether conditions together are too high an expression. -/
def tooHigh (conditions : List Condition) : Bool :=
  maxHeight < chainHeight none (conditions.map Condition.height)

/-! ### Measures -/

/-- The greatest number of parameters. -/
def maxParams : Nat := 32766

/-- The greatest number of columns that an update assigns to. -/
def maxAssigned : Nat := 2000

/-- Something of a statement that is limited. -/
inductive Measure where
  | params (count : Nat)
  | height (total : Nat)
  | assigned (count : Nat)

namespace Measure

/-- What is wrong with a measure. -/
def fault? : Measure → Option StoreFault
  | params count => if maxParams < count then some .tooManyParams else none
  | height total => if maxHeight < total then some (.tooDeep maxHeight) else none
  | assigned count => if maxAssigned < count then some .tooManyAssigned else none

/-- What is too large first in the measures of each place: the last fault of the first place that
has one. -/
def first? (places : List (List Measure)) : Option StoreFault :=
  places.findSome? fun place => (place.filterMap fault?).getLast?

/-- Parameters, counted one by one after those before. -/
def counted (before count : Nat) : List (List Measure) :=
  (List.range count).map fun i => [params (before + i + 1)]

/-- The measures of a chain: those of each expression, given the number of parameters before it and
the height up to its end. -/
def chain {α : Type} (measures : Nat → Nat → α → List (List Measure)) (size tall : α → Nat) :
    Nat → Option Nat → List α → List (List Measure)
  | _, _, [] => []
  | count, before, expression :: rest =>
    let joined := joinHeight before (tall expression)
    measures count joined expression ++
      chain measures size tall (count + size expression) (some joined) rest

/-- Adds a measure at the last place. -/
def addLast (measure : Measure) : List (List Measure) → List (List Measure)
  | [] => [[measure]]
  | [place] => [place ++ [measure]]
  | place :: next :: rest => place :: addLast measure (next :: rest)

/-- The measures of a comparison. -/
def term (count joined : Nat) : List (List Measure) := [[params (count + 1), height joined]]

end Measure

/-- The measures of a condition, given the number of parameters before it and the height up to its
end. -/
def Condition.measures (count joined : Nat) : Condition → List (List Measure)
  | compare _ => Measure.term count joined
  | oneOf _ values => Measure.counted count values.length ++ [[.height joined]]
  | never | isNull _ | notNull _ => [[.height joined]]
  | like _ _ => [[.params (count + 1)], [.height joined]]
  | anyOf terms =>
    Measure.chain (fun count joined _ => Measure.term count joined) (fun _ => 1) (fun _ => 2)
      count none terms ++ [[.height joined]]

/-- The measures of conditions together, given the number of parameters before them. -/
def whereMeasures (count : Nat) (conditions : List Condition) : List (List Measure) :=
  Measure.chain Condition.measures (·.params.length) Condition.height count none conditions

namespace Statement

/-- The measures of a statement. -/
def measures : Statement → List (List Measure)
  | select _ _ conditions _ limit =>
    whereMeasures 0 conditions ++
      Measure.counted (whereParams conditions).length limit.toList.length
  | insert _ values => Measure.counted 0 values.length
  | update _ values conditions =>
    Measure.addLast (.assigned values.length)
      (Measure.counted 0 values.length ++ whereMeasures values.length conditions)
  | delete _ conditions => whereMeasures 0 conditions

/-- What is too large in a statement. -/
def overrun? (statement : Statement) : Option StoreFault := Measure.first? statement.measures

end Statement

end RowQuery.Sql
