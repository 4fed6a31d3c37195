/-!
# Family graphs

Who is a parent in which family, and who is a child of it. A person or a family may be unknown,
which is written as nothing; the unknown has neither families nor children.

* `FamilyGraph.familiesOf` and `FamilyGraph.childrenOf` are the two steps downwards.
* `FamilyGraph.HasChild` is the relation of parent and child, `FamilyGraph.Descends` its closure.
-/

namespace RowQuery

/-- An identifier, or nothing where it is not known. -/
abbrev Identity := Option String

/-- Parents and children by families, in the order in which they are recorded. -/
structure FamilyGraph where
  /-- A parent and a family. -/
  parents : List (String × Identity)
  /-- A family and a child in it. -/
  children : List (String × Identity)
deriving DecidableEq

namespace FamilyGraph

/-- The families in which a person is a parent. -/
def familiesOf (graph : FamilyGraph) : Identity → List Identity
  | none => []
  | some person => (graph.parents.filter (·.1 = person)).map (·.2)

/-- The children of a family. -/
def childrenOf (graph : FamilyGraph) : Identity → List Identity
  | none => []
  | some family => (graph.children.filter (·.1 = family)).map (·.2)

/-- Everyone whom a search from a person can meet. -/
def persons (graph : FamilyGraph) (root : Identity) : List Identity :=
  root :: graph.children.map (·.2)

/-- One step from a parent through a family to a child. -/
def HasChild (graph : FamilyGraph) (parent child : Identity) : Prop :=
  ∃ family ∈ graph.familiesOf parent, child ∈ graph.childrenOf family

/-- A chain of such steps, of length one at least. -/
inductive Descends (graph : FamilyGraph) (root : Identity) : Identity → Prop where
  | child {person : Identity} (step : graph.HasChild root person) : Descends graph root person
  | later {middle person : Identity} (chain : Descends graph root middle)
      (step : graph.HasChild middle person) : Descends graph root person

end FamilyGraph

end RowQuery
