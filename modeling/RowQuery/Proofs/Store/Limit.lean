import RowQuery.Store.Connection

/-!
# What the limits amount to

The measures of a statement are taken one by one, and together they say: the conditions are not too
high, there are not too many parameters, and an update does not assign to too many columns.

* `Measure.Within` — nothing is too large; `Measure.within_chain` says so of a chain.
* `Statement.overrun?_eq_none_iff` — a statement is within the limits exactly if its conditions, its
  parameters and its columns are.
* `Statement.mem_of_overrun?` — the faults of a statement that is not.
* `Connection.textRefusal?_select_eq_none_iff` — when the text of a select is right.
-/

namespace RowQuery.Sql

/-! ### Heights -/

theorem le_joinHeight (before : Option Nat) (height : Nat) :
    before.getD 0 ≤ joinHeight before height ∧ height ≤ joinHeight before height := by
  cases before with
  | none => exact ⟨Nat.zero_le _, Nat.le_refl _⟩
  | some before =>
    rw [Option.getD_some, joinHeight]
    omega

/-- A chain is as high as what stands before it. -/
theorem le_chainHeight (before : Option Nat) (heights : List Nat) :
    before.getD 0 ≤ chainHeight before heights := by
  induction heights generalizing before with
  | nil => exact Nat.le_refl _
  | cons height rest ih =>
    exact Nat.le_trans (le_joinHeight before height).1 (ih (some (joinHeight before height)))

/-! ### Measures -/

namespace Measure

/-- Whether no measure is too large. -/
def Within (places : List (List Measure)) : Prop :=
  ∀ place ∈ places, ∀ measure ∈ place, measure.fault? = none

theorem first?_eq_none_iff {places : List (List Measure)} :
    first? places = none ↔ Within places := by
  rw [first?, List.findSome?_eq_none_iff]
  refine forall₂_congr fun place _ => ?_
  rw [List.getLast?_eq_none_iff, List.filterMap_eq_nil_iff]

/-- What is reported is what is wrong with a measure. -/
theorem exists_fault?_of_first? {places : List (List Measure)} {f : StoreFault}
    (h : first? places = some f) : ∃ measure : Measure, measure.fault? = some f := by
  obtain ⟨place, -, last⟩ := List.exists_of_findSome?_eq_some h
  obtain ⟨measure, -, wrong⟩ := List.mem_filterMap.mp (List.mem_of_getLast? last)
  exact ⟨measure, wrong⟩

/-- The faults of measures. -/
def faults : List StoreFault := [.tooManyParams, .tooDeep maxHeight, .tooManyAssigned]

theorem mem_faults {measure : Measure} {f : StoreFault} (h : measure.fault? = some f) :
    f ∈ faults := by
  cases measure <;> rw [fault?] at h <;> split at h <;> cases h <;> decide

theorem fault?_params_iff {count : Nat} : (params count).fault? = none ↔ count ≤ maxParams := by
  rw [fault?, ite_eq_right_iff]
  simp

theorem fault?_height_iff {total : Nat} : (height total).fault? = none ↔ total ≤ maxHeight := by
  rw [fault?, ite_eq_right_iff]
  simp

theorem fault?_assigned_iff {count : Nat} :
    (assigned count).fault? = none ↔ count ≤ maxAssigned := by
  rw [fault?, ite_eq_right_iff]
  simp

theorem within_append {places others : List (List Measure)} :
    Within (places ++ others) ↔ Within places ∧ Within others := List.forall_mem_append

theorem within_cons {place : List Measure} {places : List (List Measure)} :
    Within (place :: places) ↔ (∀ measure ∈ place, measure.fault? = none) ∧ Within places :=
  List.forall_mem_cons

theorem within_height {total : Nat} : Within [[height total]] ↔ total ≤ maxHeight := by
  simp [Within, fault?_height_iff]

theorem within_addLast {measure : Measure} {places : List (List Measure)} :
    Within (addLast measure places) ↔ Within places ∧ measure.fault? = none := by
  induction places with
  | nil => simp [addLast, Within]
  | cons place rest ih =>
    cases rest with
    | nil => simp [addLast, Within, or_imp, forall_and]
    | cons next rest => rw [addLast, within_cons, ih, ← and_assoc, ← within_cons]

/-- Parameters are within the limits if all of them together are. -/
theorem within_counted {before count : Nat} (few : before ≤ maxParams) :
    Within (counted before count) ↔ before + count ≤ maxParams := by
  have each : Within (counted before count) ↔ ∀ i < count, before + i + 1 ≤ maxParams := by
    simp [Within, counted, fault?_params_iff]
  rw [each]
  constructor
  · intro all
    cases count with
    | zero => exact few
    | succ count => exact all count (Nat.lt_succ_self count)
  · intro last i under
    omega

theorem within_term {count joined : Nat} :
    Within (term count joined) ↔ count + 1 ≤ maxParams ∧ joined ≤ maxHeight := by
  simp [Within, term, fault?_params_iff, fault?_height_iff]

/-- A chain is within the limits if its parameters together and its height are, provided that this
is so of each of its expressions. -/
theorem within_chain {α : Type} {measures : Nat → Nat → α → List (List Measure)}
    {values : α → List Json} {tall : α → Nat}
    (each : ∀ expression count joined, count ≤ maxParams → tall expression ≤ joined →
      (Within (measures count joined expression) ↔
        count + (values expression).length ≤ maxParams ∧ joined ≤ maxHeight))
    (expressions : List α) {count : Nat} {before : Option Nat} (few : count ≤ maxParams)
    (low : before.getD 0 ≤ maxHeight) :
    Within (chain measures (fun expression => (values expression).length) tall count before
        expressions) ↔ count + (expressions.flatMap values).length ≤ maxParams ∧
        chainHeight before (expressions.map tall) ≤ maxHeight := by
  induction expressions generalizing count before with
  | nil => exact iff_of_true (fun place mem => nomatch mem) ⟨few, low⟩
  | cons expression rest ih =>
    have tall_le := (le_joinHeight before (tall expression)).2
    rw [chain, within_append, List.flatMap_cons, List.length_append, List.map_cons, chainHeight,
      each expression count _ few tall_le, ← Nat.add_assoc]
    generalize joinHeight before (tall expression) = joined
    have above : joined ≤ chainHeight (some joined) (rest.map tall) :=
      le_chainHeight (some joined) _
    by_cases fits : count + (values expression).length ≤ maxParams ∧ joined ≤ maxHeight
    · rw [and_iff_right fits]
      exact ih fits.1 fits.2
    · refine iff_of_false (fun both => fits both.1) fun whole => fits ?_
      omega

end Measure

open Sql.Measure

/-- A condition is within the limits if its parameters and the height up to its end are. -/
theorem Condition.within_measures (condition : Condition) {count joined : Nat}
    (few : count ≤ maxParams) (below : condition.height ≤ joined) :
    Within (condition.measures count joined) ↔
      count + condition.params.length ≤ maxParams ∧ joined ≤ maxHeight := by
  cases condition with
  | compare term => exact within_term
  | oneOf column values => exact within_append.trans (and_congr (within_counted few) within_height)
  | never | isNull column | notNull column => exact within_height.trans (by simp [params, few])
  | like column pattern =>
    have one : Within [[.params (count + 1)]] ↔ count + 1 ≤ maxParams := by
      simp [Within, fault?_params_iff]
    exact within_append.trans (and_congr one within_height)
  | anyOf terms =>
    rw [height] at below
    have total : terms.flatMap (fun compared => [compared.value]) = (anyOf terms).params :=
      List.map_eq_flatMap.symm
    have inside : Within (chain (fun count joined _ => term count joined)
        (fun compared : Term => [compared.value].length) (fun _ => 2) count none terms) ↔
          count + (anyOf terms).params.length ≤ maxParams ∧
            chainHeight none (terms.map fun _ => 2) ≤ maxHeight :=
      total ▸ within_chain (fun _ _ _ _ _ => within_term) terms few (Nat.zero_le _)
    refine within_append.trans ((and_congr inside within_height).trans ?_)
    constructor
    · exact fun h => ⟨h.1.1, h.2⟩
    · exact fun h => ⟨⟨h.1, Nat.le_trans below h.2⟩, h.2⟩

/-- Conditions are within the limits if all parameters are and they are not too high. -/
theorem within_whereMeasures (conditions : List Condition) {count : Nat} (few : count ≤ maxParams) :
    Within (whereMeasures count conditions) ↔
      count + (whereParams conditions).length ≤ maxParams ∧ tooHigh conditions = false := by
  rw [tooHigh, decide_eq_false_iff_not, Nat.not_lt]
  exact within_chain (fun condition _ _ few below => condition.within_measures few below) conditions
    few (Nat.zero_le _)

/-! ### Statements -/

namespace Statement

open Connection (conditionsOf)

/-- The fields that an update assigns. -/
def assigned : Statement → Fields
  | update _ values _ => values
  | select _ _ _ _ _ | insert _ _ | delete _ _ => []

/-- Whether a statement is within the limits. -/
structure Bounded (statement : Statement) : Prop where
  low : tooHigh (conditionsOf statement) = false
  few : statement.params.length ≤ maxParams
  assigned : statement.assigned.length ≤ maxAssigned

/-- **A statement is within the limits** exactly if its conditions are not too high, its parameters
not too many, and an update does not assign to too many columns. -/
theorem overrun?_eq_none_iff {statement : Statement} :
    statement.overrun? = none ↔ statement.Bounded := by
  have zero : 0 ≤ maxParams := Nat.zero_le _
  have bounded : statement.Bounded ↔ tooHigh (conditionsOf statement) = false ∧
      statement.params.length ≤ maxParams ∧ statement.assigned.length ≤ maxAssigned :=
    ⟨fun h => ⟨h.low, h.few, h.assigned⟩, fun h => ⟨h.1, h.2.1, h.2.2⟩⟩
  rw [overrun?, first?_eq_none_iff, bounded]
  cases statement with
  | select projection table conditions order limit =>
    rw [measures, within_append, within_whereMeasures conditions zero, Nat.zero_add, params,
      List.length_append, List.length_map]
    show _ ↔ tooHigh conditions = false ∧ _ ∧ 0 ≤ maxAssigned
    constructor
    · rintro ⟨⟨few, low⟩, bound⟩
      exact ⟨low, (within_counted few).mp bound, Nat.zero_le _⟩
    · rintro ⟨low, few, -⟩
      have less : (whereParams conditions).length ≤ maxParams := by omega
      exact ⟨⟨less, low⟩, (within_counted less).mpr few⟩
  | insert table values =>
    rw [measures, within_counted zero, Nat.zero_add, params, List.length_map]
    exact ⟨fun few => ⟨rfl, few, Nat.zero_le _⟩, fun h => h.2.1⟩
  | update table values conditions =>
    rw [measures, within_addLast, within_append, within_counted zero, Nat.zero_add,
      fault?_assigned_iff, params, List.length_append, List.length_map]
    constructor
    · rintro ⟨⟨few, rest⟩, columns⟩
      obtain ⟨bound, low⟩ := (within_whereMeasures conditions few).mp rest
      exact ⟨low, bound, columns⟩
    · rintro ⟨low, bound, columns⟩
      have few : values.length ≤ maxParams := by omega
      exact ⟨⟨few, (within_whereMeasures conditions few).mpr ⟨bound, low⟩⟩, columns⟩
  | delete table conditions =>
    rw [measures, within_whereMeasures conditions zero, Nat.zero_add, params]
    exact ⟨fun h => ⟨h.2, h.1, Nat.zero_le _⟩, fun h => ⟨h.2.1, h.1⟩⟩

/-- What is reported of a statement that is too large. -/
theorem mem_of_overrun? {statement : Statement} {f : StoreFault}
    (h : statement.overrun? = some f) : f ∈ Measure.faults := by
  obtain ⟨measure, wrong⟩ := exists_fault?_of_first? h
  exact mem_faults wrong

end Statement

end RowQuery.Sql

namespace RowQuery.Connection

variable {statement : Sql.Statement}

/-- A statement whose text is right has no null character and is within the limits. -/
theorem bounded_of_textRefusal? (h : textRefusal? statement = none) :
    '\x00' ∉ statement.chars ∧ statement.Bounded := by
  unfold textRefusal? at h
  split at h
  · cases h
  · next plain =>
    refine ⟨mt List.contains_iff_mem.mpr plain, Sql.Statement.overrun?_eq_none_iff.mp ?_⟩
    split at h
    · cases h
    · exact h

/-- The text of a select is right if besides that it asks for a column. -/
theorem textRefusal?_select_eq_none_iff {projection : Sql.Projection} {name : String}
    {conditions : List Sql.Condition} {order : List OrderTerm} {limit : Option Int} :
    textRefusal? (.select projection name conditions order limit) = none ↔
      projection ≠ [] ∧
        '\x00' ∉ (Sql.Statement.select projection name conditions order limit).chars ∧
        (Sql.Statement.select projection name conditions order limit).Bounded := by
  constructor
  · intro text
    refine ⟨?_, bounded_of_textRefusal? text⟩
    rintro rfl
    unfold textRefusal? at text
    split at text <;> cases text
  · rintro ⟨asks, plain, bounded⟩
    obtain ⟨selection, rest, rfl⟩ := List.exists_cons_of_ne_nil asks
    unfold textRefusal?
    rw [if_neg (mt List.contains_iff_mem.mp plain)]
    exact Sql.Statement.overrun?_eq_none_iff.mpr bounded

end RowQuery.Connection
