import RowQuery.Plan.Candidate

/-!
# Order of candidates

How much of the order that a statement asks for the rows of a candidate come in by themselves.

* `Search.sorted` counts the keys of the order that need no sorting.
* `Search.backwards` tells whether a candidate is to be gone through from the end for that.

## Design notes

A key whose place has the same value in all rows needs no sorting. The other keys are matched with
the places of the index, one after the other and in one direction. If no two rows can agree in the
places matched, the keys that follow need no sorting either.
-/

namespace RowQuery.Plan

/-- How far the order that is asked for has been matched along the places of an index. -/
structure Walk where
  /-- The keys that have not been matched. -/
  keys : List OrderKey
  /-- The direction of the keys that have been matched, if there is one. -/
  descending : Option Bool := none
  /-- Whether no two rows are known to agree in all places so far. -/
  distinct : Bool := true
  /-- Whether the number of the row has been matched. -/
  numbered : Bool := false

namespace Walk

/-- Matches the next key with a place, if it asks for that place and for the direction so far. -/
def match? (walk : Walk) (place : Place) : Option Walk :=
  match walk.keys with
  | [] => none
  | key :: rest =>
    if key.place = some place && walk.descending.all (· = key.descending) then
      some { walk with
        keys := rest
        descending := some key.descending
        numbered := walk.numbered || place = .number }
    else none

/-- Whether keys that are left need no sorting. -/
def settles (walk : Walk) : Bool := walk.distinct || walk.numbered

/-- Whether rows that a clause selects are the same in its place. With `lists`, values that are
listed do not count as different. -/
def still (lists : Bool) (clause : Clause) : Bool :=
  match clause.relation with
  | .equal | .isNull => true
  | .among _ => lists
  | _ => false

/-- Goes on along the places of an index that are left, the first of them at a position. The first
places are pinned by clauses. -/
def follow (table : Declaration) (lists : Bool) (index : Index) (pins : List Clause) :
    Nat → List Place → Walk → Walk
  | _, [], walk => walk
  | position, place :: rest, walk =>
    let pin := pins[position]?
    if pin.any (still lists) then
      follow table lists index pins (position + 1) rest
        { walk with distinct := walk.distinct && pin.all (·.relation ≠ .isNull) }
    else
      let nullable := match place with
        | .column column => table.mayBeNull column
        | .number => false
      let walk := { walk with distinct := walk.distinct && (pin.isSome || !nullable) }
      match walk.match? place with
      | some walk => follow table lists index pins (position + 1) rest walk
      | none =>
        { walk with distinct := walk.distinct && position ≠ 0 && index.key.length ≤ position }

end Walk

namespace Search

variable (search : Search) (lists : Bool) (candidate : Candidate)

/-- Whether a key of the order is the same for all rows of a candidate. -/
def isFixed (key : OrderKey) : Bool :=
  let pin := search.clauses.find? fun clause =>
    key.place.isSome && clause.place = key.place && Walk.still lists clause
  match pin with
  | some clause =>
    match clause.relation with
    | .among _ => candidate.uses.contains clause
    | _ => true
  | none => false

/-- The keys that are not the same for all rows of a candidate. -/
def openKeys : List OrderKey := search.order.filter fun key => !search.isFixed lists candidate key

/-- The walk along the places of the index of a candidate. -/
def walk (index : Index) : Walk :=
  let start : Walk := { keys := search.openKeys lists candidate }
  if candidate.single then start
  else start.follow search.table lists index (candidate.uses.take candidate.pinned) 0 index.places

/-- The number of keys before the first that is neither fixed nor among the first matched ones. -/
def reached (fixed : OrderKey → Bool) : List OrderKey → Nat → Nat
  | [], _ => 0
  | key :: rest, matched =>
    if fixed key then 1 + reached fixed rest matched
    else
      match matched with
      | 0 => 0
      | more + 1 => 1 + reached fixed rest more

/-- The number of keys of the order that need no sorting. -/
def sorted : Nat :=
  match candidate.way with
  | .index index =>
    let walk := search.walk lists candidate index
    if walk.settles then search.order.length
    else reached (search.isFixed lists candidate) search.order
      ((search.openKeys lists candidate).length - walk.keys.length)
  | _ => 0

/-- Whether the candidate is gone through from the end to have the keys sorted. -/
def backwards : Bool :=
  match candidate.way with
  | .index index => (search.walk lists candidate index).descending.any id
  | _ => false

end Search

end RowQuery.Plan
