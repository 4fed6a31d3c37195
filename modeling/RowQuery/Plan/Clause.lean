import RowQuery.Plan.Index
import RowQuery.Sql.Statement

/-!
# Clauses

What the conditions of a statement offer to a search for its rows. A condition becomes a clause;
some conditions yield a further clause, which follows from the condition and says less.

* `Clause.ofConditions` are the clauses of conditions.
* `Clause.Choice` is a condition that holds if one of several comparisons does.

## Design notes

If a column is asked to equal a value, other conditions on the same column do not depend on the row
any more. A condition that depends on no row is no clause to count on.
-/

namespace RowQuery.Plan

/-- How a clause restricts a place. -/
inductive Relation where
  | equal
  | among (count : Nat)
  | isNull
  | above
  | below
  /-- The place is not null. -/
  | present
  /-- One of several comparisons holds. -/
  | either
  /-- The clause says nothing that an index could use. -/
  | other
deriving DecidableEq

/-- A clause: the condition that it comes from, by its number and that of the alternative in it, and
what it says. -/
structure Clause where
  condition : Nat
  alternative : Nat := 0
  /-- Whether the clause only follows from its condition. -/
  derived : Bool := false
  place : Option Place := none
  relation : Relation := .other
  /-- Whether the value of the clause depends on the row. -/
  varies : Bool := false
  mentions : List Place := []
deriving DecidableEq

namespace Clause

/-- A condition that holds if one of several comparisons does, each with its clause. -/
structure Choice where
  clause : Clause
  alternatives : List (Sql.Term × Clause)

/-- Whether two clauses come from the same condition. -/
def akin (a b : Clause) : Bool := a.condition = b.condition && a.alternative = b.alternative

/-- Whether the clause restricts a place in a way that an index can use. -/
def restricts (clause : Clause) : Bool :=
  match clause.relation with
  | .either | .other => false
  | _ => true

/-- The relation that a comparison asks for. -/
def relationOf : Comparison → Relation
  | .eq => .equal
  | .ne => .other
  | .gt | .ge => .above
  | .lt | .le => .below

/-- The comparison with a single value that a condition amounts to. -/
def comparison? : Sql.Condition → Option (String × Comparison)
  | .compare term | .anyOf [term] => some (term.column, term.comparison)
  | .oneOf column [_] => some (column, .eq)
  | _ => none

/-- The place that a condition asks to equal a value. -/
def fixedPlace? (table : Declaration) (condition : Sql.Condition) : Option Place :=
  match comparison? condition with
  | some (column, .eq) => table.place? column
  | _ => none

/-- Whether a place is asked to equal a value by the first condition that does so, and this is not
the condition with a given number. -/
def fixedElsewhere (fixed : List (Option Place)) (number : Nat) (place : Place) : Bool :=
  match fixed.findIdx? (· = some place) with
  | some holder => holder ≠ number
  | none => false

/-- The places that names stand for. -/
def placesOf (table : Declaration) (names : List String) : List Place :=
  names.filterMap table.place?

section

variable (table : Declaration) (fixed : List (Option Place)) (number : Nat)

/-- A clause on some names, which says nothing that an index could use. -/
def unusable (names : List String) : Clause :=
  let places := placesOf table names
  { condition := number
    varies := places.any fun place => !fixedElsewhere fixed number place
    mentions := places }

/-- A clause that restricts what a name stands for. -/
def restriction (name : String) (relation : Relation) : Clause :=
  let base := unusable table fixed number [name]
  if (table.place? name).isNone || relation = .other then base
  else { base with place := table.place? name, relation := relation }

/-- A clause that does not depend on the row. -/
def constant : Clause := { condition := number }

/-- The position of the column that a name stands for, if it may be null. -/
def nullable? (name : String) : Option Place :=
  match table.place? name with
  | some (.column index) => if table.mayBeNull index then some (.column index) else none
  | _ => none

/-- The clause of a condition. -/
def ofCondition (condition : Sql.Condition) : Clause :=
  match comparison? condition with
  | some (column, comparison) => restriction table fixed number column (relationOf comparison)
  | none =>
    match condition with
    | .oneOf column values => restriction table fixed number column (.among values.length)
    | .isNull column =>
      if (nullable? table column).isSome then restriction table fixed number column .isNull
      else constant number
    | .notNull column =>
      if (nullable? table column).isSome then unusable table fixed number [column]
      else constant number
    | .like column _ => unusable table fixed number [column]
    | .anyOf terms =>
      { unusable table fixed number (terms.map (·.column)) with relation := .either }
    | .compare _ | .never => constant number

/-- The clauses of the comparisons of which one has to hold. -/
def ofTerms (terms : List Sql.Term) : List (Sql.Term × Clause) :=
  terms.mapIdx fun i term =>
    (term, { restriction table fixed number term.column (relationOf term.comparison) with
      alternative := i + 1 })

/-- The comparisons of a condition of which one has to hold, if each restricts a place. -/
def choice? (condition : Sql.Condition) : Option Choice :=
  match condition with
  | .anyOf (first :: second :: rest) =>
    let alternatives := ofTerms table fixed number (first :: second :: rest)
    if alternatives.all fun alternative => alternative.2.restricts then
      some ⟨ofCondition table fixed number condition, alternatives⟩
    else none
  | _ => none

/-- The clause that follows from a condition: that a column is not null, or that a place is among
the values of several comparisons, if they all ask the same place to equal a value. -/
def derived? (condition : Sql.Condition) : Option Clause :=
  let clause := ofCondition table fixed number condition
  match condition with
  | .notNull column =>
    (nullable? table column).map fun place =>
      { clause with derived := true, place := some place, relation := .present }
  | .anyOf (first :: second :: rest) =>
    let alternatives := (ofTerms table fixed number (first :: second :: rest)).map (·.2)
    let place := table.place? first.column
    if alternatives.all fun other => other.relation = .equal && other.place = place then
      some { clause with derived := true, place, relation := .among alternatives.length }
    else none
  | _ => none

end

/-- The clauses of conditions: those of the conditions themselves, and then those that follow, the
last condition first. -/
def ofConditions (table : Declaration) (conditions : List Sql.Condition) :
    List Clause × List Choice :=
  let fixed := conditions.map (fixedPlace? table)
  let clauses := conditions.mapIdx (ofCondition table fixed)
  let derived := (conditions.mapIdx (derived? table fixed)).filterMap id
  let choices := (conditions.mapIdx (choice? table fixed)).filterMap id
  (clauses ++ derived.reverse, choices)

end Clause

end RowQuery.Plan
