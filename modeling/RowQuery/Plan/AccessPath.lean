import RowQuery.Plan.Order
import RowQuery.Store.Condition

/-!
# Access paths

In which order the rows of a table are come by. It is the order of an answer that is not sorted, and
that of rows that sort alike.

* `AccessPath.choose` is the access path of a statement: by the candidate that costs least, the
  sorting of its rows included.
* `AccessPath.arrange` puts rows in the order of an access path.

## Design notes

An access path changes nothing but the order: which rows are selected is a matter of the conditions
alone. So the estimates only need to be good enough to tell which path is taken.
-/

namespace RowQuery.Plan

/-- A way through an index, from its start or from its end. -/
structure Pass where
  index : Index
  backwards : Bool
deriving DecidableEq

/-- A way through a table: one pass, or a pass for each of several comparisons, which takes the rows
for which the comparison holds and none before it. -/
inductive AccessPath where
  | single (pass : Pass)
  | comparisons (passes : List (Sql.Term × Pass))
deriving DecidableEq

namespace Search

variable (search : Search)

/-- The greatest number of keys of an order that an index is chosen for. -/
def maxOrder : Nat := 63

/-- The cost of sorting rows of which the first keys are sorted already. -/
def sorting (rows : Estimate) (sorted : Nat) : Estimate :=
  let keys := search.order.length
  rows + .ofNat ((keys - sorted) * 100 / keys) - 66 + 16 + rows.log

/-- What a candidate offers: the lower, the better; first its cost, then its rows, then its cost
without sorting. -/
structure Offer where
  cost : Estimate
  rows : Estimate
  unsorted : Estimate

/-- Whether an offer is better than another one. -/
def Offer.beats (a b : Offer) : Bool :=
  a.cost < b.cost || (a.cost = b.cost &&
    (a.rows < b.rows || (a.rows = b.rows && a.unsorted < b.unsorted)))

/-- What a candidate offers if the rows of the statement are sorted, given how many they are. -/
def offer (sortedRows : Option Estimate) (candidate : Candidate) : Offer :=
  let run := ((candidate.setup.sum candidate.run).sum 0)
  match sortedRows with
  | none => ⟨run, candidate.rows, run - 2⟩
  | some rows =>
    let sorted := search.sorted false candidate
    if sorted < search.order.length then
      ⟨run.sum (search.sorting rows sorted) + 5, candidate.rows, run⟩
    else ⟨run, candidate.rows, run - 2⟩

/-- The first candidate whose offer no other one beats. Indexes made for the statement are left
out. -/
def best? (sortedRows : Option Estimate) (candidates : List Candidate) : Option Candidate :=
  (candidates.filter fun candidate => !candidate.isTemporary).foldl (fun best candidate =>
    match best with
    | none => some candidate
    | some best =>
      if (search.offer sortedRows candidate).beats (search.offer sortedRows best) then
        some candidate
      else some best) none

/-- The candidate that is taken. The rows to be sorted are those of the candidate that would be
taken without sorting. -/
def taken? (candidates : List Candidate) : Option Candidate :=
  match search.best? none candidates with
  | none => none
  | some cheapest =>
    if search.order.isEmpty then some cheapest
    else search.best? (some (max 0 cheapest.rows + 1)) candidates

/-- Whether the candidate taken is gone through from the end. If its rows need sorting altogether,
they are gone through in the order that would do if values that are listed were one. -/
def reversed (candidate : Candidate) : Bool :=
  if search.order.isEmpty then false
  else if search.sorted false candidate = 0 && !candidate.single
      && !(candidate.byNumber && candidate.usesAmong)
      && search.sorted true candidate = search.order.length then
    search.backwards true candidate
  else search.backwards false candidate

/-- The pass of a candidate. -/
def pass (candidate : Candidate) : Pass :=
  match candidate.way with
  | .index index => ⟨index, search.reversed candidate⟩
  | _ => ⟨.rows, false⟩

/-- The search for the rows of one comparison: other conditions help if an index can use them. -/
def forComparison (clause : Clause) (choice : Clause) : Search :=
  let helping := search.clauses.filter fun other =>
    !other.akin choice && other.varies && !other.derived && other.relation ≠ .other
  let following := search.clauses.filter fun other => other.derived && helping.any other.akin
    && other.relation ≠ .present
  { search with
    clauses := clause :: helping ++ following
    order := []
    temporaries := false }

/-- The pass for one comparison. -/
def comparisonPass (clause : Clause) (choice : Clause) : Pass :=
  let search := search.forComparison clause choice
  ((search.taken? (search.shortlist [])).map search.pass).getD ⟨.rows, false⟩

/-- The access path of a search. -/
def accessPath (choices : List Clause.Choice) : AccessPath :=
  match search.taken? (search.shortlist choices) with
  | none => .single ⟨.rows, false⟩
  | some candidate =>
    match choices.find? fun choice => candidate.way = .either choice.clause.condition with
    | some choice => .comparisons (choice.alternatives.map fun (term, clause) =>
        (term, search.comparisonPass clause choice.clause))
    | none => .single (search.pass candidate)

end Search

namespace AccessPath

/-- The names that a condition mentions. -/
def namesIn : Sql.Condition → List String
  | .compare term => [term.column]
  | .oneOf column _ | .isNull column | .notNull column | .like column _ => [column]
  | .never => []
  | .anyOf terms => terms.map (·.column)

/-- The access path of a select, given the names in its result. -/
def choose (table : Declaration) (result : List String) (conditions : List Sql.Condition)
    (order : List OrderTerm) : AccessPath :=
  let names := result ++ conditions.flatMap namesIn ++ order.map (·.column)
  let (clauses, choices) := Clause.ofConditions table conditions
  let keys := order.map fun term => ⟨table.place? term.column, !term.ascending⟩
  let search : Search :=
    { table
      needed := names.filterMap table.columnIndex?
      clauses
      order := if Search.maxOrder < keys.length then [] else keys }
  search.accessPath choices

/-! ### Arranging rows -/

/-- The order of two lists of cells, the first difference deciding. -/
def cellsOrder : List Cell → List Cell → Ordering
  | [], [] => .eq
  | [], _ => .lt
  | _, [] => .gt
  | a :: as, b :: bs => (a.order b).then (cellsOrder as bs)

end AccessPath

/-- Rows in the order of a pass; rows that agree in the key of the index stay in order. -/
def Pass.arrange (pass : Pass) (rows : List Row) : List Row :=
  let key (row : Row) := pass.index.key.map row.cell
  let ordered := rows.mergeSort fun a b => (AccessPath.cellsOrder (key a) (key b)).isLE
  if pass.backwards then ordered.reverse else ordered

namespace AccessPath

/-- The rows of each comparison in turn, and at last those for which none holds. -/
def arrangeAll (holds : Sql.Term → Row → Bool) : List (Sql.Term × Pass) → List Row → List Row
  | [], rows => rows
  | (term, pass) :: rest, rows =>
    pass.arrange (rows.filter (holds term)) ++
      arrangeAll holds rest (rows.filter fun row => !holds term row)

/-- Rows in the order of an access path. -/
def arrange (path : AccessPath) (holds : Sql.Term → Row → Bool) (rows : List Row) : List Row :=
  match path with
  | single pass => pass.arrange rows
  | comparisons passes => arrangeAll holds passes rows

end AccessPath

end RowQuery.Plan
