import RowQuery.Plan.Clause

/-!
# Candidates

The ways in which the rows that a statement asks for could be found, each with an estimate of what
it costs.

* `Search.candidates` are the ways by one index each, and `Search.either?` is the way that takes the
  rows of one comparison after those of another.
* `Candidate.shortlist` keeps those of some candidates that no other one beats.

## Design notes

The rows of an index can be narrowed down place by place: each place but the last one by a clause
that leaves few values, the last one by bounds as well. The more clauses a candidate uses, the less
it may cost, whatever the estimates say.
-/

namespace RowQuery.Plan

/-- What a candidate goes by: an index, an index made for the statement, or the comparisons of one
condition. -/
inductive Way where
  | index (index : Index)
  | temporary
  | either (condition : Nat)
deriving DecidableEq

/-- A way to find rows. -/
structure Candidate where
  way : Way
  /-- Candidates with different slots do not compete: an index that helps with sorting has a slot of
  its own. -/
  slot : Nat := 0
  setup : Estimate := 0
  run : Estimate
  rows : Estimate
  /-- The clauses by which the rows are narrowed down. -/
  uses : List Clause := []
  /-- The number of places that are narrowed down to single values. -/
  pinned : Nat := 0
  /-- Whether the index has everything that the statement needs. -/
  covering : Bool := false
  /-- Whether there is one row at most. -/
  single : Bool := false
deriving DecidableEq

namespace Candidate

/-- Whether the candidate goes by an index of columns. -/
def indexed (candidate : Candidate) : Bool :=
  match candidate.way with
  | .index index => !index.isRows
  | _ => false

/-- Whether the candidate goes by the numbers of the rows. -/
def byNumber (candidate : Candidate) : Bool := candidate.way = .index .rows

/-- Whether the candidate goes by an index made for the statement. -/
def isTemporary (candidate : Candidate) : Bool := candidate.way = .temporary

/-- Whether a clause of the candidate asks for equality. -/
def usesEqual (candidate : Candidate) : Bool := candidate.uses.any (·.relation = .equal)

/-- Whether a clause of the candidate lists values. -/
def usesAmong (candidate : Candidate) : Bool :=
  candidate.uses.any fun clause =>
    match clause.relation with
    | .among _ => true
    | _ => false

/-! ### The shortlist -/

/-- Whether a candidate uses some of the clauses of another one, and nothing else speaks for it. -/
def isPartOf (a b : Candidate) : Bool :=
  a.uses.length < b.uses.length && !(b.run < a.run && b.rows < a.rows) &&
    a.uses.all b.uses.contains && !(a.covering && !b.covering)

/-- A candidate with its estimates corrected by another one: it costs less than one that uses fewer
clauses, and more than one that uses more. -/
def correctBy (candidate other : Candidate) : Candidate :=
  if !other.indexed then candidate
  else if other.isPartOf candidate then
    { candidate with
      run := min other.run candidate.run
      rows := min (other.rows - 1) candidate.rows }
  else if candidate.isPartOf other then
    { candidate with
      run := max other.run candidate.run
      rows := max (other.rows + 1) candidate.rows }
  else candidate

/-- A candidate with its estimates corrected by those on a list. -/
def correct (list : List Candidate) (candidate : Candidate) : Candidate :=
  if candidate.indexed then list.foldl correctBy candidate else candidate

/-- How a candidate stands to one that is on a list already. -/
inductive Standing where
  | beaten
  | beats
  | beside
deriving DecidableEq

/-- How a candidate stands to one that is on the list already. -/
def standing (candidate listed : Candidate) : Standing :=
  if listed.slot ≠ candidate.slot then .beside
  else if listed.isTemporary && candidate.indexed && candidate.usesEqual then .beats
  else if listed.setup ≤ candidate.setup && listed.run ≤ candidate.run
      && listed.rows ≤ candidate.rows then .beaten
  else if candidate.run ≤ listed.run && candidate.rows ≤ listed.rows then .beats
  else .beside

/-- A list without the candidates that another one beats, up to the first that beats it. -/
def sweep (candidate : Candidate) : List Candidate → List Candidate
  | [] => []
  | listed :: rest =>
    match candidate.standing listed with
    | .beats => candidate.sweep rest
    | .beaten => listed :: rest
    | .beside => listed :: candidate.sweep rest

/-- A list with a candidate in the place of the first that it beats, or at the end; unless one
before that beats it. -/
def enter? (candidate : Candidate) : List Candidate → Option (List Candidate)
  | [] => some [candidate]
  | listed :: rest =>
    match candidate.standing listed with
    | .beats => some (candidate :: candidate.sweep rest)
    | .beaten => none
    | .beside => (candidate.enter? rest).map (listed :: ·)

/-- A list with a further candidate. -/
def enter (list : List Candidate) (candidate : Candidate) : List Candidate :=
  ((candidate.correct list).enter? list).getD list

/-- The candidates that no other one beats. -/
def shortlist (candidates : List Candidate) : List Candidate := candidates.foldl enter []

end Candidate

/-- A place in the order that a statement asks for, if it is no constant, and whether it goes
down. -/
structure OrderKey where
  place : Option Place
  descending : Bool
deriving DecidableEq

/-- A search for the rows of a table: what is needed of each row, the clauses that a row satisfies,
and the order that is asked for. -/
structure Search where
  table : Declaration
  needed : List Nat
  clauses : List Clause
  order : List OrderKey := []
  /-- Whether an index may be made for the search. -/
  temporaries : Bool := true

namespace Search

variable (search : Search)

/-- The slot of an index, by its position: its own if it has something that the order asks for. -/
def slot (position : Nat) (index : Index) : Nat :=
  let helps := search.order.any fun key =>
    match key.place with
    | some .number => true
    | some (.column column) => index.key.contains column
    | none => false
  if helps then position + 1 else 0

/-- The number of rows left of some rows by those clauses that are not used to find them. -/
def thin (clauses uses : List Clause) (rows : Estimate) : Estimate :=
  let free := clauses.filter fun clause =>
    clause.varies && !clause.derived && !uses.any clause.akin
  min (rows - free.length)
    (Index.allRows - if free.any (·.relation = .equal) then 20 else 0)

/-- The cost of reading some rows from an index. -/
def reading (index : Index) (rows : Estimate) : Estimate :=
  rows + 1 + 15 * search.table.indexWidth index / search.table.width

/-! ### Whole indexes -/

/-- The number of rows to look up in the table if a whole index is gone through: clauses that the
index can decide come first. -/
def lookups (index : Index) : Estimate :=
  let decided := search.clauses.takeWhile fun clause => clause.mentions.all index.has
  Index.allRows + 16 - decided.length - 19 * (decided.countP (·.relation = .equal) : Nat)

/-- The cost of going through a whole index. -/
def wholeCost (index : Index) : Estimate :=
  if index.isRows then Index.allRows + 16
  else if index.covers search.needed then search.reading index Index.allRows
  else (search.reading index Index.allRows).sum (search.lookups index)

/-- Whether going through a whole index comes into question. -/
def wholeServes (slot : Nat) (index : Index) : Bool :=
  index.isRows || slot ≠ 0 ||
    (index.covers search.needed && search.table.indexWidth index < search.table.width)

/-- The candidate that goes through a whole index. -/
def whole (slot : Nat) (index : Index) : List Candidate :=
  if search.wholeServes slot index then
    [{ way := .index index
       slot
       run := search.wholeCost index
       rows := thin search.clauses [] Index.allRows
       covering := !index.isRows && index.covers search.needed }]
  else []

/-! ### Parts of indexes -/

/-- A part of an index: the clauses that narrow it down, how many places they pin to single values,
the rows for one value of each place, and by how much lists of values multiply them. -/
structure Part where
  uses : List Clause := []
  pinned : Nat := 0
  rows : Estimate := Index.allRows
  factor : Estimate := 0
  single : Bool := false

/-- The candidate that goes through a part of an index, which other clauses thin out. -/
def through (clauses : List Clause) (slot : Nat) (index : Index) (part : Part) : Candidate :=
  let covering := !index.isRows && index.covers search.needed
  let found := (Estimate.log Index.allRows).sum (search.reading index part.rows)
  let run := if covering || index.isRows then found else found.sum (part.rows + 16)
  { way := .index index
    slot
    run := run + part.factor
    rows := thin clauses part.uses (part.rows + part.factor)
    uses := part.uses
    pinned := part.pinned
    covering
    single := part.single }

/-- A part narrowed down by bounds of the next place. -/
def bound (part : Part) (bounds : List Clause) : Part :=
  let real := bounds.countP (·.relation ≠ .present)
  let cut : Nat := if bounds.length = 2 then 20 else 0
  { part with
    uses := part.uses ++ bounds
    rows := min (max (part.rows - 20 * real - cut) 10) (part.rows - bounds.length) }

/-- A part narrowed down by a clause that pins the next place to single values. -/
def pin (index : Index) (part : Part) (clause : Clause) : Part :=
  let rows := part.rows + index.repeats (part.pinned + 1) - index.repeats part.pinned
  let unique := clause.relation = .equal && (clause.place = some .number ||
    (part.factor = 0 && part.pinned + 1 = index.key.length &&
      (search.table.strict index || index.key.length = 1)))
  { uses := part.uses ++ [clause]
    pinned := part.pinned + 1
    rows := if clause.relation = .isNull then rows + 10 else rows
    factor := match clause.relation with
      | .among count => part.factor + .ofNat count
      | _ => part.factor
    single := part.single || unique }

/-- The parts of an index that clauses can narrow a part down to, by the places that are left. -/
def narrow (clauses : List Clause) (index : Index) : List Place → Part → List Part
  | [], _ => []
  | place :: rest, part =>
    let fitting := clauses.filter fun clause => clause.restricts && clause.place = some place
    fitting.flatMap fun clause =>
      match clause.relation with
      | .below => [bound part [clause]]
      | .above | .present =>
        let uppers := fitting.filter (·.relation = .below)
        bound part [clause] :: uppers.map fun upper => bound part [clause, upper]
      | _ =>
        let next := search.pin index part clause
        next :: narrow clauses index rest next

/-- The candidates that go through parts of an index. The clauses of `own` thin the rows out; those
of `others` can narrow them down as well. -/
def parts (own others : List Clause) (slot : Nat) (index : Index) : List Candidate :=
  (search.narrow (own ++ others) index index.places {}).map (search.through own slot index)

/-! ### All candidates -/

/-- The candidates that make an index for a column that is asked to equal a value. -/
def temporary : List Candidate :=
  if !search.temporaries then []
  else
    let size := Estimate.log Index.allRows
    (search.clauses.filter fun clause =>
      clause.relation = .equal && clause.place ≠ some .number).map fun clause =>
        { way := .temporary
          setup := size + Index.allRows + 28
          run := size.sum 43
          rows := 43
          uses := [clause]
          pinned := 1 }

/-- The candidates by one index each. -/
def candidates : List Candidate :=
  search.temporary ++ (search.table.indexes.mapIdx fun position index =>
    let slot := search.slot position index
    search.whole slot index ++ search.parts search.clauses [] slot index).flatten

/-- The cost and the rows of the cheapest way to the rows of one comparison, given the candidates
that are on the list. -/
def cheapest? (list : List Candidate) (clause : Clause) : Option (Estimate × Estimate) :=
  let ways := (search.table.indexes.mapIdx fun position index =>
    search.parts [clause] search.clauses (search.slot position index) index).flatten
  ways.foldl (fun best way =>
    let way := way.correct list
    match best with
    | none => some (way.run, way.rows)
    | some (run, rows) =>
      if way.run ≤ run then some (way.run, min rows way.rows) else some (run, rows)) none

/-- The sums of the costs and of the rows of several ways. -/
def total? : List (Option (Estimate × Estimate)) → Option (Estimate × Estimate)
  | [] => none
  | first :: rest =>
    rest.foldl (fun sum next => do
      let (run, rows) ← sum
      let (nextRun, nextRows) ← next
      return (run.sum nextRun, rows.sum nextRows)) first

/-- The candidate that takes the comparisons of a condition one after the other. -/
def either? (list : List Candidate) (choice : Clause.Choice) : Option Candidate :=
  (total? (choice.alternatives.map fun alternative =>
    search.cheapest? list alternative.2)).map fun (run, rows) =>
      { way := .either choice.clause.condition, run := run + 1, rows, uses := [choice.clause] }

/-- The shortlist of all candidates, those by the comparisons of one condition last. -/
def shortlist (choices : List Clause.Choice) : List Candidate :=
  choices.foldl (fun list choice =>
    match search.either? list choice with
    | some candidate => Candidate.enter list candidate
    | none => list) (Candidate.shortlist search.candidates)

end Search

end RowQuery.Plan
