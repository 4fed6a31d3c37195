import Mathlib.Data.List.Basic
import Mathlib.Logic.Relation
import RowQuery.Kinship.Consultation

/-!
# Search and descent

A search in breadth finds a person exactly in the descent of the one it starts from.

* `FamilyGraph.LeadsTo` is a chain of steps that goes through some persons only.
* `FamilyGraph.found_searchFrom_iff` — a search finds its target if and only if a chain through
  persons not visited so far leads there from the queue.
* `Records.contains_iff_descends` — what is asked of the records is answered by descent.

## Design notes

The person that is taken from the queue is visited from then on, so chains through it are lost.
Nothing is lost with them: what comes after the last visit of a chain begins at a child of that
person, and the children are in the queue (`LeadsTo.avoid`).
-/

namespace RowQuery

namespace FamilyGraph

variable {graph : FamilyGraph}

/-- Descent is the closure of the relation of parent and child. -/
theorem descends_iff_transGen {root person : Identity} :
    graph.Descends root person ↔ Relation.TransGen graph.HasChild root person := by
  constructor
  · intro chain
    induction chain with
    | child step => exact .single step
    | later _ step ih => exact ih.tail step
  · intro chain
    induction chain with
    | single step => exact .child step
    | tail _ step ih => exact .later ih step

/-- Whoever is a child of someone can be met by every search. -/
theorem HasChild.mem_persons {parent child : Identity} (h : graph.HasChild parent child)
    (root : Identity) : child ∈ graph.persons root := by
  obtain ⟨family, -, mem⟩ := h
  cases family with
  | none => cases mem
  | some family =>
    obtain ⟨pair, listed, rfl⟩ := List.mem_map.mp mem
    exact List.mem_cons_of_mem _ (List.mem_map_of_mem (List.mem_filter.mp listed).1)

theorem mem_others_iff {persons : List Identity} {person other : Identity} :
    other ∈ others persons person ↔ other ∈ persons ∧ other ≠ person := by
  rw [others, List.mem_filter, decide_eq_true_iff]

/-! ### Chains -/

/-- A chain of steps from a person to the target, of length one at least. All persons on it but the
target are among those given. -/
inductive LeadsTo (graph : FamilyGraph) (target : Identity) (among : List Identity) :
    Identity → Prop where
  | child {person : Identity} (mem : person ∈ among) (step : graph.HasChild person target) :
    LeadsTo graph target among person
  | later {person middle : Identity} (mem : person ∈ among) (step : graph.HasChild person middle)
    (chain : LeadsTo graph target among middle) : LeadsTo graph target among person

namespace LeadsTo

variable {target person : Identity} {among more : List Identity}

theorem mem (h : graph.LeadsTo target among person) : person ∈ among := by
  cases h <;> assumption

theorem mono (h : graph.LeadsTo target among person) (subset : among ⊆ more) :
    graph.LeadsTo target more person := by
  induction h with
  | child mem step => exact .child (subset mem) step
  | later mem step _ ih => exact .later (subset mem) step ih

/-- A chain avoids a person, or its last visit there is followed by a chain that does. -/
theorem avoid (h : graph.LeadsTo target among person) (visited : Identity) :
    graph.LeadsTo target (others among visited) person ∨ graph.HasChild visited target ∨
      ∃ child, graph.HasChild visited child ∧
        graph.LeadsTo target (others among visited) child := by
  induction h with
  | @child person mem step =>
    by_cases same : person = visited
    · exact .inr (.inl (same ▸ step))
    · exact .inl (.child (mem_others_iff.mpr ⟨mem, same⟩) step)
  | @later person middle mem step _ ih =>
    rcases ih with chain | later
    · by_cases same : person = visited
      · exact .inr (.inr ⟨middle, same ▸ step, chain⟩)
      · exact .inl (.later (mem_others_iff.mpr ⟨mem, same⟩) step chain)
    · exact .inr later

end LeadsTo

/-- With everyone allowed, chains lead from a person to all of the descent. -/
theorem leadsTo_persons_iff {root target : Identity} :
    graph.LeadsTo target (graph.persons root) root ↔ graph.Descends root target := by
  rw [descends_iff_transGen]
  constructor
  · suffices ∀ person, graph.LeadsTo target (graph.persons root) person →
        Relation.TransGen graph.HasChild person target from this root
    intro person chain
    induction chain with
    | child _ step => exact .single step
    | later _ step _ ih => exact ih.head step
  · intro chain
    -- The chain is taken apart from its beginning; everyone on it is the root or a child.
    suffices ∀ person, Relation.TransGen graph.HasChild person target →
        person ∈ graph.persons root → graph.LeadsTo target (graph.persons root) person from
      this root chain (List.mem_cons_self ..)
    intro person chain
    induction chain using Relation.TransGen.head_induction_on with
    | single step => exact fun mem => .child mem step
    | head step _ ih => exact fun mem => .later mem step (ih (step.mem_persons root))

/-! ### The search -/

variable {target : String}

theorem found_expand_iff {families : List Identity} :
    (graph.expand target families).found = true ↔
      ∃ family ∈ families, some target ∈ graph.childrenOf family := by
  induction families with
  | nil => simp [expand]
  | cons family rest ih =>
    rw [expand, List.exists_mem_cons_iff]
    by_cases here : some target ∈ graph.childrenOf family
    · simp [here]
    · simp [here, ih]

/-- Families without the target are looked up to the last, and all their children are brought. -/
theorem mem_children_expand {families : List Identity} {child : Identity}
    (missing : ¬(graph.expand target families).found = true) :
    child ∈ (graph.expand target families).children ↔
      ∃ family ∈ families, child ∈ graph.childrenOf family := by
  induction families with
  | nil => simp [expand]
  | cons family rest ih =>
    rw [found_expand_iff, List.exists_mem_cons_iff, not_or] at missing
    obtain ⟨here, later⟩ := missing
    rw [expand, List.exists_mem_cons_iff]
    simp only [here, if_false, List.mem_append]
    rw [ih (found_expand_iff.not.mpr later)]

/-- A search finds its target if and only if a chain through persons not visited so far leads there
from someone in the queue. -/
theorem found_searchFrom_iff (unvisited queue : List Identity) :
    (graph.searchFrom target unvisited queue).found = true ↔
      ∃ person ∈ queue, graph.LeadsTo (some target) unvisited person := by
  induction unvisited, queue using searchFrom.induct graph target with
  | case1 unvisited => simp [searchFrom]
  | case2 unvisited person queue mem expansion found =>
    rw [searchFrom, if_pos mem, if_pos found, List.exists_mem_cons_iff]
    exact iff_of_true rfl (.inl (.child mem (found_expand_iff.mp found)))
  | case3 unvisited person queue mem remaining expansion missing ih =>
    rw [searchFrom, if_pos mem, if_neg missing]
    refine ih.trans ?_
    have expanded (child : Identity) : child ∈ expansion.children ↔ graph.HasChild person child :=
      mem_children_expand missing
    constructor
    · rintro ⟨next, listed, chain⟩
      have weaker : graph.LeadsTo (some target) unvisited next :=
        chain.mono fun _ other => (mem_others_iff.mp other).1
      rcases List.mem_append.mp listed with waiting | brought
      · exact ⟨next, List.mem_cons_of_mem _ waiting, weaker⟩
      · have step := (expanded next).mp (List.mem_filter.mp brought).1
        exact ⟨person, List.mem_cons_self .., .later mem step weaker⟩
    · rintro ⟨next, listed, chain⟩
      rcases chain.avoid person with avoiding | step | ⟨child, step, later⟩
      · rcases List.mem_cons.mp listed with rfl | waiting
        · exact absurd rfl (mem_others_iff.mp avoiding.mem).2
        · exact ⟨next, List.mem_append_left _ waiting, avoiding⟩
      · exact absurd (found_expand_iff.mpr step) missing
      · have brought : child ∈ expansion.children.filter (· ∈ remaining) :=
          List.mem_filter.mpr ⟨(expanded child).mpr step, decide_eq_true later.mem⟩
        exact ⟨child, List.mem_append_right _ brought, later⟩
  | case4 unvisited person queue visited ih =>
    rw [searchFrom, if_neg visited, ih, List.exists_mem_cons_iff]
    exact (or_iff_right fun chain => visited chain.mem).symm

/-- A search finds a person exactly in the descent of the one it starts from. -/
theorem found_search_iff (root : String) :
    (graph.search root target).found = true ↔
      root = target ∨ graph.Descends (some root) (some target) := by
  rw [search]
  by_cases same : root = target
  · rw [if_pos same]
    exact iff_of_true rfl (.inl same)
  · rw [if_neg same, found_searchFrom_iff, or_iff_right same, ← leadsTo_persons_iff]
    simp only [List.mem_singleton, exists_eq_left]

end FamilyGraph

/-! ### Asking the records -/

namespace Consult

variable {α β : Type}

/-- Of two computations the second one goes on where the first one ends, unless it stops. -/
theorem bind_apply (first : Consult α) (next : α → Consult β) (consultation : Consultation) :
    (first >>= next) consultation =
      match first consultation with
      | (.ok a, later) => next a later
      | (.error fault, later) => (.error fault, later) := by
  show ExceptT.bindCont next (first consultation).1 (first consultation).2 = _
  rcases first consultation with ⟨_ | _, later⟩ <;> rfl

end Consult

namespace Records

variable {graph : FamilyGraph}

/-- Records without a fault take any number of questions. -/
theorem forM_ask (lookups : List Lookup) (consultation : Consultation) :
    lookups.forM (Records.mk graph none).ask consultation =
      (.ok (), { consultation with lookups := consultation.lookups ++ lookups }) := by
  induction lookups generalizing consultation with
  | nil => rw [List.append_nil]; rfl
  | cons lookup rest ih =>
    show ((Records.mk graph none).ask lookup >>= fun _ => rest.forM (Records.mk graph none).ask)
      consultation = _
    rw [Consult.bind_apply]
    show rest.forM (Records.mk graph none).ask _ = _
    rw [ih]
    simp

/-- Records without a fault give the answer of the search, after its lookups. -/
theorem contains_apply (root target : String) (consultation : Consultation) :
    (Records.mk graph none).contains root target consultation =
      (.ok (graph.search root target).found, { consultation with
        lookups := consultation.lookups ++ (graph.search root target).lookups }) := by
  rw [contains]
  by_cases same : root = target
  · rw [if_pos same, FamilyGraph.search, if_pos same]
    simp only [List.append_nil]
    rfl
  · rw [if_neg same]
    show (Consult.withCursor (Consult.withCursor _)) consultation = _
    simp only [Consult.withCursor, Consult.bind_apply, forM_ask]
    rfl

/-- **Membership in a descent is reachability.** Records without a fault answer every question for a
descent, with yes if and only if the two persons are the same or one descends from the other. Of
the same person nothing is asked, so no fault is in the way. -/
theorem contains_iff_descends (graph : FamilyGraph) (root target : String)
    (consultation : Consultation) :
    (∃ found after, (Records.mk graph none).contains root target consultation =
        (.ok found, after) ∧
      (found = true ↔ root = target ∨ graph.Descends (some root) (some target))) ∧
    ∀ fault, (Records.mk graph fault).contains root root consultation =
      (.ok true, consultation) := by
  refine ⟨⟨_, _, contains_apply root target consultation, FamilyGraph.found_search_iff root⟩, ?_⟩
  intro fault
  rw [contains, if_pos rfl]
  rfl

end Records

end RowQuery
