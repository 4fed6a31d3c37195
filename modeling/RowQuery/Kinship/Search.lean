import RowQuery.Kinship.Graph

/-!
# Searching a descent

Whether a person belongs to the descent of another, by a search in breadth: persons are taken from
a queue, their families looked up, and then the children of each family.

* `FamilyGraph.search` gives the answer and every lookup made for it, in order.

## Design notes

The search carries along the persons it has not visited yet. That list gets shorter with each
person it expands, which is why it ends whatever cycles the graph has. It stops in the middle as
soon as a family has the person that it looks for.
-/

namespace RowQuery

/-- One question put to the records. -/
inductive Lookup where
  | familiesOf (person : Identity)
  | childrenOf (family : Identity)
deriving DecidableEq

/-- The answer of a search, and the lookups made for it. -/
structure Search where
  lookups : List Lookup
  found : Bool
deriving DecidableEq

/-- What looking up the children of some families brings. -/
structure Expansion where
  lookups : List Lookup
  children : List Identity
  found : Bool
deriving DecidableEq

namespace FamilyGraph

/-- The children of families, family by family, until the target is among them. -/
def expand (graph : FamilyGraph) (target : String) : List Identity → Expansion
  | [] => ⟨[], [], false⟩
  | family :: rest =>
    let children := graph.childrenOf family
    if some target ∈ children then ⟨[.childrenOf family], [], true⟩
    else
      let more := graph.expand target rest
      ⟨.childrenOf family :: more.lookups, children ++ more.children, more.found⟩

/-- The persons other than one. -/
def others (persons : List Identity) (person : Identity) : List Identity :=
  persons.filter (· ≠ person)

theorem length_others_lt {persons : List Identity} {person : Identity} (h : person ∈ persons) :
    (others persons person).length < persons.length := by
  refine Nat.lt_of_le_of_ne (List.length_filter_le _ _) fun he => ?_
  have := List.length_filter_eq_length_iff.1 he person h
  simp at this

/-- The search with a queue of persons, where `unvisited` are those not expanded so far. -/
def searchFrom (graph : FamilyGraph) (target : String) (unvisited queue : List Identity) : Search :=
  match queue with
  | [] => ⟨[], false⟩
  | person :: queue =>
    if person ∈ unvisited then
      let remaining := others unvisited person
      let expansion := graph.expand target (graph.familiesOf person)
      let lookups := .familiesOf person :: expansion.lookups
      if expansion.found then ⟨lookups, true⟩
      else
        let more := graph.searchFrom target remaining
          (queue ++ expansion.children.filter (· ∈ remaining))
        ⟨lookups ++ more.lookups, more.found⟩
    else graph.searchFrom target unvisited queue
termination_by (unvisited.length, queue.length)
decreasing_by
  · next h _ => exact Prod.Lex.left _ _ (length_others_lt h)
  · exact Prod.Lex.right _ (by simp)

/-- Searches the descent of `root` for `target`. Everyone belongs to their own descent. -/
def search (graph : FamilyGraph) (root target : String) : Search :=
  if root = target then ⟨[], true⟩
  else graph.searchFrom target (graph.persons root) [some root]

end FamilyGraph

end RowQuery
