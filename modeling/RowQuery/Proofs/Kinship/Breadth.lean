import Mathlib
import RowQuery.Proofs.Kinship.Descent

/-!
# The order of a search

A search in breadth goes through a descent generation by generation. It looks up the families of
nobody twice, so it ends whatever cycles the graph has.

* `FamilyGraph.distance` is the number of steps down to a person on a shortest chain.
* `FamilyGraph.Asks` are the lookups of a search that expands persons in a given order: those of one
  person after the other, cut short where the target is found.
* `FamilyGraph.Levels` is what holds of the queue: it is made of two levels, the nearer one first.
* `Records.contains_in_breadth` — what is asked of the records, in which order, and how much of it.

## Design notes

A person can wait in the queue several times, and the later places may be too far back for that
person. So the two levels say nothing about the distance of everyone who waits; but the first one
who has not been visited is as near as anyone who has not (`Levels.distance_eq`), and the places of
the others are skipped.
-/

namespace RowQuery

/-- The person whose families are looked up. -/
def Lookup.person? : Lookup → Option Identity
  | familiesOf person => some person
  | childrenOf _ => none

namespace FamilyGraph

variable {graph : FamilyGraph} {root person : Identity} {target : String}

/-! ### Distances -/

/-- A chain of a number of steps from the root down to a person. -/
inductive Chain (graph : FamilyGraph) (root : Identity) : Nat → Identity → Prop where
  | root : Chain graph root 0 root
  | step {n : Nat} {parent child : Identity} (chain : Chain graph root n parent)
      (step : graph.HasChild parent child) : Chain graph root (n + 1) child

/-- The number of steps of a shortest chain down to a person. -/
noncomputable def distance (graph : FamilyGraph) (root person : Identity) : Nat :=
  sInf {n | graph.Chain root n person}

theorem distance_le {n : Nat} (chain : graph.Chain root n person) :
    graph.distance root person ≤ n := Nat.sInf_le chain

/-- Some chain has as many steps as the distance tells. -/
theorem chain_distance {n : Nat} (chain : graph.Chain root n person) :
    graph.Chain root (graph.distance root person) person :=
  Nat.sInf_mem (s := {n | graph.Chain root n person}) ⟨n, chain⟩

/-- Chains lead to the root itself and to its descent. -/
theorem exists_chain_iff :
    (∃ n, graph.Chain root n person) ↔ person = root ∨ graph.Descends root person := by
  constructor
  · rintro ⟨n, chain⟩
    induction chain with
    | root => exact .inl rfl
    | step _ step ih =>
      rcases ih with rfl | descends
      · exact .inr (.child step)
      · exact .inr (.later descends step)
  · rintro (rfl | descends)
    · exact ⟨0, .root⟩
    · induction descends with
      | child step => exact ⟨1, .step .root step⟩
      | later _ step ih =>
        obtain ⟨n, chain⟩ := ih
        exact ⟨n + 1, .step chain step⟩

theorem Chain.mem_persons {n : Nat} (chain : graph.Chain root n person) :
    person ∈ graph.persons root := by
  cases chain with
  | root => exact List.mem_cons_self
  | step _ step => exact step.mem_persons root

/-! ### What is looked up -/

/-- The lookups of a search that expands some persons, one after the other, and whether it finds the
target. All families of a person are looked up, in order, up to the one in which the target is. -/
inductive Asks (graph : FamilyGraph) (target : String) :
    List Identity → List Lookup → Bool → Prop where
  | ends : Asks graph target [] [] false
  | passes {person : Identity} {persons : List Identity} {lookups : List Lookup} {found : Bool}
      (missing : ¬graph.HasChild person (some target))
      (later : Asks graph target persons lookups found) :
    Asks graph target (person :: persons)
      (.familiesOf person :: (graph.familiesOf person).map .childrenOf ++ lookups) found
  | finds {person family : Identity} {before after : List Identity}
      (families : graph.familiesOf person = before ++ family :: after)
      (missing : ∀ other ∈ before, some target ∉ graph.childrenOf other)
      (here : some target ∈ graph.childrenOf family) :
    Asks graph target [person]
      (.familiesOf person :: (before ++ [family]).map .childrenOf) true

theorem filterMap_person?_block (person : Identity) (families : List Identity) :
    (Lookup.familiesOf person :: families.map Lookup.childrenOf).filterMap Lookup.person? =
      [person] := by
  simp [Lookup.person?]

namespace Asks

variable {persons : List Identity} {lookups : List Lookup} {found : Bool}

/-- The persons are those whose families are looked up. -/
theorem filterMap_person? (asks : graph.Asks target persons lookups found) :
    lookups.filterMap Lookup.person? = persons := by
  induction asks with
  | ends => rfl
  | passes _ _ ih => simp [Lookup.person?, ih]
  | finds => simp [Lookup.person?]

/-- For each person there is one lookup, and one for each family at most. -/
theorem length_le (asks : graph.Asks target persons lookups found) :
    lookups.length ≤ (persons.map fun person => 1 + (graph.familiesOf person).length).sum := by
  induction asks with
  | ends => simp
  | passes _ _ ih =>
    simp only [List.length_append, List.length_cons, List.length_map, List.map_cons, List.sum_cons]
    omega
  | finds families _ _ =>
    simp only [List.length_append, List.length_cons, List.length_map, List.map_cons, List.sum_cons,
      List.length_nil, families]
    omega

end Asks

/-- Families are looked up to the last, unless one of them has the target. -/
theorem lookups_expand_of_missing {families : List Identity}
    (missing : ¬(graph.expand target families).found = true) :
    (graph.expand target families).lookups = families.map .childrenOf := by
  induction families with
  | nil => rfl
  | cons family rest ih =>
    by_cases here : some target ∈ graph.childrenOf family
    · exact absurd (found_expand_iff.mpr ⟨family, List.mem_cons_self, here⟩) missing
    · have later : ¬(graph.expand target rest).found = true := by
        simpa [expand, here] using missing
      simp [expand, here, ih later]

/-- The lookups stop at the first family that has the target. -/
theorem exists_lookups_expand {families : List Identity}
    (found : (graph.expand target families).found = true) :
    ∃ before family after, families = before ++ family :: after ∧
      (∀ other ∈ before, some target ∉ graph.childrenOf other) ∧
      some target ∈ graph.childrenOf family ∧
      (graph.expand target families).lookups = (before ++ [family]).map .childrenOf := by
  induction families with
  | nil => simp [expand] at found
  | cons family rest ih =>
    by_cases here : some target ∈ graph.childrenOf family
    · exact ⟨[], family, rest, rfl, by simp, here, by simp [expand, here]⟩
    · have later : (graph.expand target rest).found = true := by
        simpa [expand, here] using found
      obtain ⟨before, other, after, rfl, missing, inside, lookups⟩ := ih later
      refine ⟨family :: before, other, after, rfl, ?_, inside, ?_⟩
      · simpa [here] using missing
      · simp [expand, here, lookups]

/-! ### Who is expanded -/

/-- The persons whose families a search looks up. -/
def expandedFrom (graph : FamilyGraph) (target : String) (unvisited queue : List Identity) :
    List Identity :=
  (graph.searchFrom target unvisited queue).lookups.filterMap Lookup.person?

/-- What a search asks is told by the persons that it expands. -/
theorem searchFrom_asks (unvisited queue : List Identity) :
    graph.Asks target (graph.expandedFrom target unvisited queue)
      (graph.searchFrom target unvisited queue).lookups
      (graph.searchFrom target unvisited queue).found := by
  suffices ∃ persons, graph.Asks target persons (graph.searchFrom target unvisited queue).lookups
      (graph.searchFrom target unvisited queue).found by
    obtain ⟨persons, asks⟩ := this
    rw [expandedFrom, asks.filterMap_person?]
    exact asks
  induction unvisited, queue using searchFrom.induct graph target with
  | case1 unvisited =>
    rw [searchFrom]
    exact ⟨[], .ends⟩
  | case2 unvisited person queue mem expansion found =>
    rw [searchFrom, if_pos mem, if_pos found]
    obtain ⟨before, family, after, families, missing, here, lookups⟩ := exists_lookups_expand found
    refine ⟨[person], ?_⟩
    show graph.Asks target [person] (.familiesOf person :: (graph.expand target _).lookups) true
    rw [lookups]
    exact .finds families missing here
  | case3 unvisited person queue mem remaining expansion missing ih =>
    rw [searchFrom, if_pos mem, if_neg missing]
    obtain ⟨persons, asks⟩ := ih
    refine ⟨person :: persons, ?_⟩
    show graph.Asks target _ (.familiesOf person :: (graph.expand target _).lookups ++ _) _
    rw [lookups_expand_of_missing missing]
    exact .passes (fun step => missing (found_expand_iff.mpr step)) asks
  | case4 unvisited person queue visited ih =>
    rw [searchFrom, if_neg visited]
    exact ih

section Equations

variable {unvisited queue : List Identity}

theorem expandedFrom_nil : graph.expandedFrom target unvisited [] = [] := by
  rw [expandedFrom, searchFrom]
  rfl

/-- Whoever has been visited is passed over. -/
theorem expandedFrom_visited (visited : person ∉ unvisited) :
    graph.expandedFrom target unvisited (person :: queue) =
      graph.expandedFrom target unvisited queue := by
  rw [expandedFrom, searchFrom, if_neg visited, expandedFrom]

/-- The search ends with the parent of the target. -/
theorem expandedFrom_found (mem : person ∈ unvisited)
    (found : (graph.expand target (graph.familiesOf person)).found = true) :
    graph.expandedFrom target unvisited (person :: queue) = [person] := by
  obtain ⟨before, family, after, -, -, -, lookups⟩ := exists_lookups_expand found
  rw [expandedFrom, searchFrom, if_pos mem, if_pos found]
  show List.filterMap _ (.familiesOf person :: (graph.expand target _).lookups) = _
  rw [lookups, filterMap_person?_block]

/-- After a person the search goes on with the queue and the children of that person. -/
theorem expandedFrom_missing (mem : person ∈ unvisited)
    (missing : ¬(graph.expand target (graph.familiesOf person)).found = true) :
    graph.expandedFrom target unvisited (person :: queue) =
      person :: graph.expandedFrom target (others unvisited person)
        (queue ++ (graph.expand target (graph.familiesOf person)).children.filter
          (· ∈ others unvisited person)) := by
  rw [expandedFrom, searchFrom, if_pos mem, if_neg missing]
  show List.filterMap _ (.familiesOf person :: (graph.expand target _).lookups ++ _) = _
  rw [lookups_expand_of_missing missing, List.filterMap_append, filterMap_person?_block]
  rfl

end Equations

/-- Nobody is expanded twice, and only those who have not been visited. -/
theorem expandedFrom_nodup (unvisited queue : List Identity) :
    (graph.expandedFrom target unvisited queue).Nodup ∧
      graph.expandedFrom target unvisited queue ⊆ unvisited := by
  induction unvisited, queue using searchFrom.induct graph target with
  | case1 unvisited => simp [expandedFrom_nil]
  | case2 unvisited person queue mem expansion found =>
    rw [expandedFrom_found mem found]
    exact ⟨List.nodup_singleton _, List.cons_subset.mpr ⟨mem, List.nil_subset _⟩⟩
  | case3 unvisited person queue mem remaining expansion missing ih =>
    rw [expandedFrom_missing mem missing]
    obtain ⟨distinct, among⟩ := ih
    constructor
    · refine List.nodup_cons.mpr ⟨fun again => ?_, distinct⟩
      exact (mem_others_iff.mp (among again)).2 rfl
    · refine List.cons_subset.mpr ⟨mem, fun other inside => ?_⟩
      exact (mem_others_iff.mp (among inside)).1
  | case4 unvisited person queue visited ih =>
    rw [expandedFrom_visited visited]
    exact ih

/-- A search that finds nothing expands everyone who waits, and with everyone their children, unless
they have been visited. -/
theorem expandedFrom_closed (unvisited queue : List Identity)
    (missing : ¬(graph.searchFrom target unvisited queue).found = true) :
    (∀ person ∈ queue, person ∈ unvisited →
        person ∈ graph.expandedFrom target unvisited queue) ∧
      ∀ person ∈ graph.expandedFrom target unvisited queue, ∀ child,
        graph.HasChild person child → child ∈ unvisited →
          child ∈ graph.expandedFrom target unvisited queue := by
  induction unvisited, queue using searchFrom.induct graph target with
  | case1 unvisited => simp [expandedFrom_nil]
  | case2 unvisited person queue mem expansion found =>
    rw [searchFrom, if_pos mem, if_pos found] at missing
    exact absurd rfl missing
  | case3 unvisited person queue mem remaining expansion here ih =>
    rw [searchFrom, if_pos mem, if_neg here] at missing
    obtain ⟨waiting, closed⟩ := ih missing
    rw [expandedFrom_missing mem here]
    -- Who is not the person expanded first is still unvisited afterwards.
    have remains (other : Identity) (inside : other ∈ unvisited) :
        other = person ∨ other ∈ remaining := by
      by_cases same : other = person
      · exact .inl same
      · exact .inr (mem_others_iff.mpr ⟨inside, same⟩)
    constructor
    · intro other listed inside
      rcases remains other inside with rfl | left
      · exact List.mem_cons_self
      · rcases List.mem_cons.mp listed with rfl | listed
        · exact List.mem_cons_self
        · exact List.mem_cons_of_mem _ (waiting other (List.mem_append_left _ listed) left)
    · intro parent expanded child step inside
      rcases remains child inside with rfl | left
      · exact List.mem_cons_self
      · refine List.mem_cons_of_mem _ ?_
        rcases List.mem_cons.mp expanded with rfl | expanded
        · have brought : child ∈ expansion.children.filter (· ∈ remaining) :=
            List.mem_filter.mpr ⟨(mem_children_expand here).mpr step, decide_eq_true left⟩
          exact waiting child (List.mem_append_right _ brought) left
        · exact closed parent expanded child step left
  | case4 unvisited person queue visited ih =>
    rw [searchFrom, if_neg visited] at missing
    obtain ⟨waiting, closed⟩ := ih missing
    rw [expandedFrom_visited visited]
    refine ⟨fun other listed inside => ?_, closed⟩
    rcases List.mem_cons.mp listed with rfl | listed
    · exact absurd inside visited
    · exact waiting other listed inside

/-! ### Two levels -/

/-- The queue of a search in breadth, as two levels. -/
structure Levels (graph : FamilyGraph) (root : Identity) (unvisited : List Identity) (depth : Nat)
    (near far : List Identity) : Prop where
  nearer : ∀ person ∈ near, graph.Chain root depth person
  farther : ∀ person ∈ far, graph.Chain root (depth + 1) person
  /-- All generations before the nearer level have been visited. -/
  passed : ∀ n person, graph.Chain root n person → person ∈ unvisited → depth ≤ n
  /-- Whoever belongs to the nearer level has been visited or waits in it. -/
  waits : ∀ person, graph.Chain root depth person → person ∈ unvisited → person ∈ near
  /-- The children of those who have been visited have been visited or wait. -/
  follows : ∀ n person, graph.Chain root n person → person ∉ unvisited →
    ∀ child, graph.HasChild person child → child ∈ unvisited → child ∈ near ++ far

namespace Levels

variable {unvisited near far : List Identity} {depth : Nat}

/-- At the beginning the root waits and nobody else. -/
theorem start : graph.Levels root (graph.persons root) 0 [root] [] where
  nearer person mem := by
    rw [List.mem_singleton.mp mem]
    exact .root
  farther person mem := by cases mem
  passed n person _ _ := Nat.zero_le n
  waits person chain _ := by
    cases chain
    exact List.mem_singleton_self _
  follows n person chain visited := absurd chain.mem_persons visited

/-- When nobody is left of the nearer level, the farther one takes its place. -/
theorem advance (levels : graph.Levels root unvisited depth [] far) :
    graph.Levels root unvisited (depth + 1) far [] where
  nearer := levels.farther
  farther person mem := by cases mem
  passed n person chain inside := by
    have later := levels.passed n person chain inside
    have other : n ≠ depth := by
      rintro rfl
      cases levels.waits person chain inside
    omega
  waits person chain inside := by
    cases chain with
    | step chain step =>
      have visited : _ ∉ unvisited := fun inside => by cases levels.waits _ chain inside
      exact levels.follows _ _ chain visited person step inside
  follows n person chain visited child step inside := by
    rw [List.append_nil]
    exact levels.follows n person chain visited child step inside

/-- So whoever is first can be taken to be of the nearer level. -/
theorem exists_cons {rest : List Identity} (levels : graph.Levels root unvisited depth near far)
    (queue : near ++ far = person :: rest) :
    ∃ depth near' far', graph.Levels root unvisited depth (person :: near') far' ∧
      near' ++ far' = rest := by
  cases near with
  | nil =>
    obtain rfl : far = person :: rest := queue
    exact ⟨depth + 1, rest, [], levels.advance, List.append_nil rest⟩
  | cons first near =>
    obtain ⟨rfl, rfl⟩ := List.cons.inj queue
    exact ⟨depth, near, far, levels, rfl⟩

/-- Whoever has been visited can leave the queue. -/
theorem skip (levels : graph.Levels root unvisited depth (person :: near) far)
    (visited : person ∉ unvisited) : graph.Levels root unvisited depth near far where
  nearer other mem := levels.nearer other (List.mem_cons_of_mem _ mem)
  farther := levels.farther
  passed := levels.passed
  waits other chain inside := by
    rcases List.mem_cons.mp (levels.waits other chain inside) with rfl | listed
    · exact absurd inside visited
    · exact listed
  follows n other chain gone child step inside := by
    rcases List.mem_cons.mp (levels.follows n other chain gone child step inside) with rfl | listed
    · exact absurd inside visited
    · exact listed

/-- Whoever is expanded leaves the queue, and the children join the farther level. -/
theorem expand (levels : graph.Levels root unvisited depth (person :: near) far)
    (missing : ¬(graph.expand target (graph.familiesOf person)).found = true) :
    graph.Levels root (others unvisited person) depth near
      (far ++ (graph.expand target (graph.familiesOf person)).children.filter
        (· ∈ others unvisited person)) where
  nearer other mem := levels.nearer other (List.mem_cons_of_mem _ mem)
  farther child mem := by
    rcases List.mem_append.mp mem with listed | brought
    · exact levels.farther child listed
    · have step := (mem_children_expand missing).mp (List.mem_filter.mp brought).1
      exact .step (levels.nearer person List.mem_cons_self) step
  passed n other chain inside := levels.passed n other chain (mem_others_iff.mp inside).1
  waits other chain inside := by
    obtain ⟨inside, apart⟩ := mem_others_iff.mp inside
    exact (List.mem_cons.mp (levels.waits other chain inside)).resolve_left apart
  follows n other chain gone child step left := by
    obtain ⟨inside, apart⟩ := mem_others_iff.mp left
    rw [← List.append_assoc]
    by_cases same : other = person
    · -- The children of the person who is expanded are brought by the expansion.
      subst same
      refine List.mem_append_right _ (List.mem_filter.mpr ⟨?_, decide_eq_true left⟩)
      exact (mem_children_expand missing).mpr step
    · have before : other ∉ unvisited := fun still => gone (mem_others_iff.mpr ⟨still, same⟩)
      have listed := levels.follows n other chain before child step inside
      exact List.mem_append_left _ ((List.mem_cons.mp listed).resolve_left apart)

/-- Nobody who has not been visited is nearer than the first one of them who waits. -/
theorem distance_eq (levels : graph.Levels root unvisited depth (person :: near) far)
    (mem : person ∈ unvisited) : graph.distance root person = depth := by
  have chain := levels.nearer person List.mem_cons_self
  exact Nat.le_antisymm (distance_le chain) (levels.passed _ _ (chain_distance chain) mem)

end Levels

/-- **A search expands the descent in the order of distances.** -/
theorem Levels.expandedFrom_ordered (unvisited queue : List Identity) : ∀ {depth near far},
    graph.Levels root unvisited depth near far → near ++ far = queue →
      (∀ person ∈ graph.expandedFrom target unvisited queue, ∃ n, graph.Chain root n person) ∧
        (graph.expandedFrom target unvisited queue).Pairwise fun a b =>
          graph.distance root a ≤ graph.distance root b := by
  induction unvisited, queue using searchFrom.induct graph target with
  | case1 unvisited => simp [expandedFrom_nil]
  | case2 unvisited person queue mem expansion =>
    rename_i found
    intro depth near far levels waiting
    obtain ⟨depth, near, far, levels, rfl⟩ := levels.exists_cons waiting
    rw [expandedFrom_found mem found]
    refine ⟨fun other listed => ?_, List.pairwise_singleton _ _⟩
    rw [List.mem_singleton.mp listed]
    exact ⟨depth, levels.nearer person List.mem_cons_self⟩
  | case3 unvisited person queue mem remaining expansion =>
    rename_i missing ih
    intro depth near far levels waiting
    obtain ⟨depth, near, far, levels, rfl⟩ := levels.exists_cons waiting
    obtain ⟨reached, ordered⟩ := ih (levels.expand missing) (List.append_assoc _ _ _).symm
    rw [expandedFrom_missing mem missing]
    constructor
    · intro other listed
      rcases List.mem_cons.mp listed with rfl | listed
      · exact ⟨depth, levels.nearer other List.mem_cons_self⟩
      · exact reached other listed
    · refine List.pairwise_cons.mpr ⟨fun other listed => ?_, ordered⟩
      obtain ⟨n, chain⟩ := reached other listed
      have inside := (mem_others_iff.mp ((expandedFrom_nodup _ _).2 listed)).1
      rw [levels.distance_eq mem]
      exact levels.passed _ _ (chain_distance chain) inside
  | case4 unvisited person queue visited ih =>
    intro depth near far levels waiting
    obtain ⟨depth, near, far, levels, rfl⟩ := levels.exists_cons waiting
    rw [expandedFrom_visited visited]
    exact ih (levels.skip visited) rfl

/-! ### How much is looked up -/

/-- Different persons have no record of a parent in common. -/
theorem sum_families_le {persons : List Identity} (distinct : persons.Nodup)
    (graph : FamilyGraph) :
    (persons.map fun person => (graph.familiesOf person).length).sum ≤ graph.parents.length := by
  obtain ⟨parents, children⟩ := graph
  induction persons generalizing parents with
  | nil => simp
  | cons person persons ih =>
    obtain ⟨apart, others⟩ := List.nodup_cons.mp distinct
    rw [List.map_cons, List.sum_cons]
    cases person with
    | none =>
      have rest := ih others parents
      simpa [familiesOf] using rest
    | some name =>
      -- The records of the first person are set aside; those of the others are left.
      let left := parents.filter fun record => !decide (record.1 = name)
      have rest := ih others left
      have same : persons.map (fun person => (familiesOf ⟨left, children⟩ person).length) =
          persons.map fun person => (familiesOf ⟨parents, children⟩ person).length := by
        refine List.map_congr_left fun other mem => ?_
        cases other with
        | none => rfl
        | some other =>
          have differs : other ≠ name := fun h => apart (h ▸ mem)
          simp only [familiesOf, List.length_map, left, List.filter_filter]
          refine congrArg List.length (List.filter_congr fun record _ => ?_)
          by_cases here : record.1 = other
          · simp [here, differs]
          · simp [here]
      rw [same] at rest
      have split := List.length_eq_length_filter_add (l := parents) fun record => record.1 = name
      simp only [familiesOf, List.length_map] at rest ⊢
      dsimp only [left] at rest
      omega

/-- There is no more to look up than is recorded. -/
theorem Asks.length_le_records {persons : List Identity} {lookups : List Lookup} {found : Bool}
    (asks : graph.Asks target persons lookups found) (distinct : persons.Nodup)
    (among : persons ⊆ graph.persons root) :
    lookups.length ≤ 1 + graph.children.length + graph.parents.length := by
  have few : persons.length ≤ 1 + graph.children.length := by
    have counted := (List.subperm_of_subset distinct among).length_le
    simp only [FamilyGraph.persons, List.length_cons, List.length_map] at counted
    omega
  have families := sum_families_le distinct graph
  calc lookups.length
      ≤ (persons.map fun person => 1 + (graph.familiesOf person).length).sum := asks.length_le
    _ = persons.length + (persons.map fun person => (graph.familiesOf person).length).sum := by
        rw [List.sum_map_add]
        simp
    _ ≤ _ := by omega

/-- A search that finds nothing expands the root and all of its descent. -/
theorem mem_expandedFrom_iff
    (missing : ¬(graph.searchFrom target (graph.persons root) [root]).found = true) :
    person ∈ graph.expandedFrom target (graph.persons root) [root] ↔
      ∃ n, graph.Chain root n person := by
  constructor
  · exact (Levels.start.expandedFrom_ordered _ _ rfl).1 person
  · rintro ⟨n, chain⟩
    obtain ⟨waiting, closed⟩ := expandedFrom_closed _ _ missing
    induction chain with
    | root => exact waiting root (List.mem_singleton_self _) List.mem_cons_self
    | step _ step ih => exact closed _ ih _ step (step.mem_persons root)

end FamilyGraph

namespace Records

/-- **A search goes through a descent in breadth, and ends.** Records without a fault answer the
question for a descent after finitely many lookups, with no cursor left open. Nobody's families are
looked up twice. They are looked up for the root and for persons of its descent only, nearer ones
before farther ones; and after each person come the lookups of the children in exactly the families
of that person, in order, cut short only where the target is found. So there is at most one lookup
for each of these persons and one for each of their families, and no more than there are records,
the root counted in. Where the answer is no, the persons are the root and all of its descent. Of the
same person nothing is asked. -/
theorem contains_in_breadth (graph : FamilyGraph) (root target : String) :
    ∃ found asked, (Records.mk graph none).contains root target .start = (.ok found, ⟨asked, 0⟩) ∧
      let expanded := asked.filterMap Lookup.person?
      expanded.Nodup ∧
      (∀ person ∈ expanded, person = some root ∨ graph.Descends (some root) person) ∧
      (expanded.Pairwise fun a b => graph.distance (some root) a ≤ graph.distance (some root) b) ∧
      (if root = target then found = true ∧ asked = []
        else graph.Asks target expanded asked found) ∧
      asked.length ≤ (expanded.map fun person => 1 + (graph.familiesOf person).length).sum ∧
      asked.length ≤ 1 + graph.children.length + graph.parents.length ∧
      (found = false → ∀ person,
        person ∈ expanded ↔ person = some root ∨ graph.Descends (some root) person) := by
  let search := graph.search root target
  have answered : (Records.mk graph none).contains root target .start =
      (.ok search.found, ⟨search.lookups, 0⟩) := contains_apply root target .start
  refine ⟨search.found, search.lookups, answered, ?_⟩
  by_cases same : root = target
  · have nothing : search = ⟨[], true⟩ := if_pos same
    rw [nothing]
    intro expanded
    rw [if_pos same]
    simp [expanded]
  · have run : search = graph.searchFrom target (graph.persons root) [some root] := if_neg same
    rw [run]
    intro expanded
    rw [if_neg same]
    have asks : graph.Asks target expanded _ _ :=
      graph.searchFrom_asks (graph.persons root) [some root]
    have nodup : expanded.Nodup ∧ expanded ⊆ graph.persons root :=
      graph.expandedFrom_nodup (graph.persons root) [some root]
    have ordered : (∀ person ∈ expanded, ∃ n, graph.Chain (some root) n person) ∧
        expanded.Pairwise fun a b =>
          graph.distance (some root) a ≤ graph.distance (some root) b :=
      FamilyGraph.Levels.start.expandedFrom_ordered (graph.persons root) [some root] rfl
    refine ⟨nodup.1, ?_, ordered.2, asks, asks.length_le, ?_, ?_⟩
    · intro person mem
      exact FamilyGraph.exists_chain_iff.mp (ordered.1 person mem)
    · exact asks.length_le_records nodup.1 nodup.2
    · intro missing person
      rw [← FamilyGraph.exists_chain_iff]
      exact FamilyGraph.mem_expandedFrom_iff (Bool.eq_false_iff.mp missing)

end Records

end RowQuery
