import Mathlib
import RowQuery.Functions
import RowQuery.Proofs.Kinship.Descent
import RowQuery.Proofs.Request.NormalForm

/-!
# A fault in the middle of a search

What becomes of a call one of whose questions fails, compared with the same call when none does. The
questions end with the one that fails, the answer tells the fault, and every cursor is closed. A
fault that is not reached changes nothing.

* `Records.traverse` is the search as it goes on from one reply to the next;
  `Records.contains_eq_traverse` says that this is how the records are asked.
* `Consult.Interrupted` compares a computation with and without the fault, and holds of two
  computations one after the other if it holds of each.
* `Functions.call_interrupted` — the same for calls. Neither an unknown function nor unfit
  parameters reach the records.

## Design notes

The questions are counted from one, and those that were asked before count. So the comparison says
nothing about a computation that begins after the fault is due: it is not reached.
-/

namespace RowQuery

/-! ### Computations that are interrupted -/

namespace Consult

variable {α β : Type} {n : Nat} {fault : Fault}

/-- What a fault at the `n`-th question makes of a computation. Without the fault the computation
takes back nothing that was asked and closes the cursors that it opens; with it, what is asked ends
with the `n`-th question, if there are so many, and else the fault makes no difference. -/
structure Interrupted (n : Nat) (fault : Fault) (calm broken : Consult α) : Prop where
  onward (start : Consultation) : start.lookups <+: (calm start).2.lookups
  balanced (start : Consultation) : (calm start).2.openCursors = start.openCursors
  cut (start : Consultation) : start.lookups.length < n → broken start =
    if n ≤ (calm start).2.lookups.length then
      (.error fault, ⟨(calm start).2.lookups.take n, start.openCursors⟩)
    else calm start

namespace Interrupted

/-- What asks nothing is not interrupted. -/
protected theorem pure (a : α) : Interrupted n fault (pure a) (pure a) where
  onward _ := List.prefix_rfl
  balanced _ := rfl
  cut _ due := (if_neg (Nat.not_le.mpr due)).symm

/-- Of two computations one after the other, the first one is interrupted or the second one. -/
protected theorem bind {first first' : Consult α} {next next' : α → Consult β}
    (front : Interrupted n fault first first')
    (rest : ∀ a, Interrupted n fault (next a) (next' a)) :
    Interrupted n fault (first >>= next) (first' >>= next') where
  onward start := by
    have before := front.onward start
    rw [bind_apply]
    rcases ran : first start with ⟨stopped | a, later⟩
    · rw [ran] at before
      exact before
    · rw [ran] at before
      exact before.trans ((rest a).onward later)
  balanced start := by
    have before := front.balanced start
    rw [bind_apply]
    rcases ran : first start with ⟨stopped | a, later⟩
    · rw [ran] at before
      exact before
    · rw [ran] at before
      exact ((rest a).balanced later).trans before
  cut start due := by
    have before := front.balanced start
    have broken := front.cut start due
    rw [bind_apply, bind_apply, broken]
    rcases ran : first start with ⟨stopped | a, later⟩
    · by_cases reached : n ≤ later.lookups.length <;> simp [reached]
    · rw [ran] at before
      dsimp only at before ⊢
      by_cases reached : n ≤ later.lookups.length
      · -- The first computation has the fault, so all that the second one asks is cut off.
        obtain ⟨more, appended⟩ := (rest a).onward later
        have longer : n ≤ (next a later).2.lookups.length := by
          rw [← appended, List.length_append]
          omega
        rw [if_pos reached, if_pos longer, ← appended, List.take_append_of_le_length reached]
      · rw [if_neg reached]
        dsimp only
        rw [(rest a).cut later (Nat.not_le.mp reached), before]

/-- A cursor is closed even so. -/
theorem withCursor {calm broken : Consult α} (h : Interrupted n fault calm broken) :
    Interrupted n fault (withCursor calm) (withCursor broken) where
  onward start := h.onward { start with openCursors := start.openCursors + 1 }
  balanced start := by
    have inside := h.balanced { start with openCursors := start.openCursors + 1 }
    show (calm _).2.openCursors - 1 = _
    rw [inside]
    rfl
  cut start due := by
    let opened : Consultation := { start with openCursors := start.openCursors + 1 }
    have inside := h.cut opened due
    show ((broken opened).1, { (broken opened).2 with
      openCursors := (broken opened).2.openCursors - 1 }) = _
    rw [inside]
    by_cases reached : n ≤ (calm opened).2.lookups.length
    · rw [if_pos reached]
      exact (if_pos reached).symm
    · rw [if_neg reached]
      exact (if_neg reached).symm

end Interrupted

end Consult

/-! ### Asking as one goes -/

namespace Records

open Consult (Interrupted)

/-- Asks for the children of families, one family after the other, until the target is among them.
Brings the children, unless it is. -/
def askChildren (records : Records) (target : String) :
    List Identity → Consult (Option (List Identity))
  | [] => return some []
  | family :: rest => do
    records.ask (.childrenOf family)
    let children := records.graph.childrenOf family
    if children.contains (some target) then return none
    else
      let more ← records.askChildren target rest
      return more.map (children ++ ·)

/-- Asks for the families of the persons in a queue and for the children in them, until the target
is found or the queue is empty. -/
def traverse (records : Records) (target : String) (unvisited queue : List Identity) :
    Consult Bool :=
  match queue with
  | [] => return false
  | person :: queue =>
    if person ∈ unvisited then do
      records.ask (.familiesOf person)
      let remaining := FamilyGraph.others unvisited person
      match ← records.askChildren target (records.graph.familiesOf person) with
      | none => return true
      | some children =>
        records.traverse target remaining (queue ++ children.filter (· ∈ remaining))
    else records.traverse target unvisited queue
termination_by (unvisited.length, queue.length)
decreasing_by
  · next inside => exact Prod.Lex.left _ _ (FamilyGraph.length_others_lt inside)
  · exact Prod.Lex.right _ (by simp)

variable (records : Records) (target : String)

/-- The children are asked for as the expansion has it. -/
theorem askChildren_eq (families : List Identity) :
    let expansion := records.graph.expand target families
    records.askChildren target families = (do
      expansion.lookups.forM records.ask
      return if expansion.found then none else some expansion.children) := by
  induction families with
  | nil => rfl
  | cons family rest ih =>
    dsimp only at ih ⊢
    rw [askChildren, FamilyGraph.expand]
    by_cases here : some target ∈ records.graph.childrenOf family
    · simp [here]
    · simp only [List.contains_iff_mem, here, if_false, ih, List.forM_eq_forM, List.forM_cons,
        bind_assoc, pure_bind]
      refine congrArg _ (funext fun _ => congrArg _ (funext fun _ => ?_))
      split <;> rfl

/-- The persons are asked for as the search has it. -/
theorem traverse_eq (unvisited queue : List Identity) :
    let search := records.graph.searchFrom target unvisited queue
    records.traverse target unvisited queue = (do
      search.lookups.forM records.ask
      return search.found) := by
  induction unvisited, queue using FamilyGraph.searchFrom.induct records.graph target with
  | case1 unvisited =>
    rw [traverse, FamilyGraph.searchFrom]
    rfl
  | case2 unvisited person queue mem expansion found =>
    rw [traverse, FamilyGraph.searchFrom, if_pos mem, if_pos mem, if_pos found]
    simp only [askChildren_eq, List.forM_eq_forM, List.forM_cons, bind_assoc, pure_bind]
    simp [expansion, found]
  | case3 unvisited person queue mem remaining expansion missing ih =>
    rw [traverse, FamilyGraph.searchFrom, if_pos mem, if_pos mem, if_neg missing]
    dsimp only at ih ⊢
    simp only [askChildren_eq, List.forM_eq_forM, List.forM_append, List.cons_append,
      List.forM_cons, bind_assoc, pure_bind] at ih ⊢
    rw [if_neg missing]
    exact congrArg _ (funext fun _ => congrArg _ (funext fun _ => ih))
  | case4 unvisited person queue visited ih =>
    rw [traverse, FamilyGraph.searchFrom, if_neg visited, if_neg visited]
    exact ih

/-- **The records are asked as the search goes on**: what is asked next depends on the replies so
far, and nothing is asked ahead. -/
theorem contains_eq_traverse (root : String) : records.contains root target =
    if root = target then pure true
    else Consult.withCursor (Consult.withCursor
      (records.traverse target (records.graph.persons root) [some root])) := by
  rw [contains, FamilyGraph.search, traverse_eq]
  by_cases same : root = target
  · rw [if_pos same, if_pos same]
  · rw [if_neg same, if_neg same, if_neg same]

/-! ### The question that fails -/

variable (graph : FamilyGraph) {n : Nat} {fault : Fault}

/-- A question that fails has been asked. -/
theorem ask_interrupted (lookup : Lookup) : Interrupted n fault
    ((Records.mk graph none).ask lookup) ((Records.mk graph (some (n, fault))).ask lookup) where
  onward start := List.prefix_append _ _
  balanced _ := rfl
  cut start due := by
    have asked : (start.lookups ++ [lookup]).length = start.lookups.length + 1 := by simp
    show (if (start.lookups ++ [lookup]).length = n then _ else _, _) =
      if n ≤ (start.lookups ++ [lookup]).length then _ else _
    by_cases last : (start.lookups ++ [lookup]).length = n
    · have whole : (start.lookups ++ [lookup]).take n = start.lookups ++ [lookup] :=
        List.take_of_length_le (by omega)
      rw [if_pos last, if_pos (by omega)]
      exact congrArg (fun lookups => (Except.error fault, Consultation.mk lookups _)) whole.symm
    · rw [if_neg last, if_neg (by omega)]
      rfl

theorem askChildren_interrupted (families : List Identity) : Interrupted n fault
    ((Records.mk graph none).askChildren target families)
    ((Records.mk graph (some (n, fault))).askChildren target families) := by
  induction families with
  | nil => exact .pure _
  | cons family rest ih =>
    refine (ask_interrupted graph _).bind fun _ => ?_
    show Interrupted n fault (if (graph.childrenOf family).contains (some target) then _ else _)
      (if (graph.childrenOf family).contains (some target) then _ else _)
    split
    · exact .pure _
    · exact ih.bind fun _ => .pure _

/-- Wherever a fault comes in the search, the search stops there. -/
theorem traverse_interrupted (unvisited queue : List Identity) : Interrupted n fault
    ((Records.mk graph none).traverse target unvisited queue)
    ((Records.mk graph (some (n, fault))).traverse target unvisited queue) := by
  induction unvisited, queue using traverse.induct with
  | case1 unvisited =>
    rw [traverse, traverse]
    exact .pure _
  | case2 unvisited person queue mem =>
    rename_i ih
    rw [traverse, traverse, if_pos mem, if_pos mem]
    refine (ask_interrupted graph _).bind fun _ => ?_
    refine (askChildren_interrupted target graph _).bind fun brought => ?_
    cases brought with
    | none => exact .pure _
    | some children => exact ih children
  | case3 unvisited person queue visited ih =>
    rw [traverse, traverse, if_neg visited, if_neg visited]
    exact ih

/-- A descent is asked for up to the fault. -/
theorem contains_interrupted (root : String) : Interrupted n fault
    ((Records.mk graph none).contains root target)
    ((Records.mk graph (some (n, fault))).contains root target) := by
  rw [contains_eq_traverse, contains_eq_traverse]
  split
  · exact .pure _
  · exact (traverse_interrupted target graph _ _).withCursor.withCursor

end Records

/-! ### Calls -/

/-- The parameters name two persons. -/
structure SubtreeParams.Names (params : Fields) (persons : SubtreeParams) : Prop where
  root : Fields.get? params "root_id" = some (.string persons.root)
  target : Fields.get? params "target_id" = some (.string persons.target)
  rooted : persons.root ≠ ""
  targeted : persons.target ≠ ""

namespace Checked

theorem required_nonEmptyString_eq_ok_iff {fields : Fields} {name s : String} :
    required fields name nonEmptyString = .ok s ↔
      Fields.get? fields name = some (.string s) ∧ s ≠ "" := by
  rw [required]
  constructor
  · intro h
    split at h
    · next value found =>
      rw [within_eq_ok_iff] at h
      obtain rfl : value = .string s := (nonEmptyString_exact _ _ h).symm
      rw [nonEmptyString] at h
      split at h
      · cases h
      · next present => exact ⟨found, present⟩
    · cases h
  · rintro ⟨found, present⟩
    rw [found]
    simp [nonEmptyString, present]

end Checked

/-- Parameters are read if they name two persons, and are read as these. -/
theorem SubtreeParams.read_eq_ok_iff {params : Fields} {persons : SubtreeParams} :
    SubtreeParams.read params = .ok persons ↔ persons.Names params := by
  rw [SubtreeParams.read, Checked.seq_eq_ok_iff]
  constructor
  · rintro ⟨_, target, h, named, rfl⟩
    obtain ⟨root, named', rfl⟩ := Checked.map_eq_ok_iff.mp h
    obtain ⟨rooted, present⟩ := Checked.required_nonEmptyString_eq_ok_iff.mp named'
    obtain ⟨targeted, present'⟩ := Checked.required_nonEmptyString_eq_ok_iff.mp named
    exact ⟨rooted, targeted, present, present'⟩
  · intro names
    refine ⟨_, _, Checked.map_eq_ok_iff.mpr ⟨_, ?_, rfl⟩, ?_, rfl⟩
    · exact Checked.required_nonEmptyString_eq_ok_iff.mpr ⟨names.root, names.rooted⟩
    · exact Checked.required_nonEmptyString_eq_ok_iff.mpr ⟨names.target, names.targeted⟩

namespace Functions

/-- A call with two persons is a question for the descent of the one. -/
theorem call_named {params : Fields} {persons : SubtreeParams}
    (names : SubtreeParams.Names params persons) (records : Records) :
    call records subtree params =
      match records.contains persons.root persons.target .start with
      | (.ok found, after) => (.ok (.bool found), after)
      | (.error fault, after) => (.error (.engine fault), after) := by
  rw [call, if_neg (not_not_intro rfl), SubtreeParams.read_eq_ok_iff.mpr names]
  rfl

/-- Without a fault it is answered by the search. -/
theorem call_calm {params : Fields} {persons : SubtreeParams}
    (names : SubtreeParams.Names params persons) (graph : FamilyGraph) :
    call ⟨graph, none⟩ subtree params =
      (.ok (.bool (graph.search persons.root persons.target).found),
        ⟨(graph.search persons.root persons.target).lookups, 0⟩) := by
  rw [call_named names, Records.contains_apply]
  rfl

/-- **A call never answers from a broken search, and leaves no cursor open.** An unknown function is
answered as such, and parameters that do not name two persons as invalid ones, whatever the records
are, and nothing is asked. Otherwise a call on records without a fault is answered, with yes or no
as the descent has it; and if the `n`-th question fails, then the questions are the first `n` of
those and the answer is the failure of the fault, or there are fewer of them and the fault makes no
difference. -/
theorem call_interrupted (graph : FamilyGraph) (name : String) (params : Fields) (n : Nat)
    (counted : 0 < n) (fault : Fault) :
    let calm := call ⟨graph, none⟩ name params
    let broken := call ⟨graph, some (n, fault)⟩ name params
    (name ≠ subtree → (Failure.unknownFunction name).code = some "PGRST202" ∧
      ∀ records, call records name params = (.error (.unknownFunction name), .start)) ∧
    (name = subtree → (∀ persons, ¬SubtreeParams.Names params persons) →
      ∃ report, (Failure.invalidParameters name report).code = some "22023" ∧
        ∀ records, call records name params =
          (.error (.invalidParameters name report), .start)) ∧
    (name = subtree → ∀ persons, SubtreeParams.Names params persons →
      ∃ found asked, calm = (.ok (.bool found), ⟨asked, 0⟩) ∧
        (found = true ↔ persons.root = persons.target ∨
          graph.Descends (some persons.root) (some persons.target)) ∧
        broken = if n ≤ asked.length then (.error (.engine fault), ⟨asked.take n, 0⟩) else calm) ∧
    ∀ failure, Answer.document (.error failure) =
      .object [("data", .null), ("error", failure.document)] := by
  refine ⟨?unknown, ?unfit, ?named, fun _ => rfl⟩
  case unknown =>
    intro other
    exact ⟨rfl, fun _ => if_pos other⟩
  case unfit =>
    rintro rfl unnamed
    cases read : SubtreeParams.read params with
    | ok persons => exact absurd (SubtreeParams.read_eq_ok_iff.mp read) (unnamed persons)
    | failed issues =>
      refine ⟨⟨SubtreeParams.model, issues⟩, rfl, fun records => ?_⟩
      rw [call, if_neg (not_not_intro rfl), read]
      rfl
  case named =>
    rintro rfl persons names
    let search := graph.search persons.root persons.target
    have stopped :
        (Records.mk graph (some (n, fault))).contains persons.root persons.target .start =
        if n ≤ search.lookups.length then (.error fault, ⟨search.lookups.take n, 0⟩)
        else (.ok search.found, ⟨search.lookups, 0⟩) := by
      have interrupted : Consult.Interrupted n fault _ _ :=
        Records.contains_interrupted persons.target graph persons.root
      have cut := interrupted.cut .start counted
      rw [Records.contains_apply] at cut
      exact cut
    refine ⟨_, _, call_calm names graph, FamilyGraph.found_search_iff persons.root, ?_⟩
    rw [call_calm names, call_named names, stopped]
    by_cases reached : n ≤ search.lookups.length
    · rw [if_pos reached, if_pos reached]
    · rw [if_neg reached, if_neg reached]

/-- The third question fails, in a search for a grandchild. -/
theorem call_interrupted_grandchild :
    let graph := FamilyGraph.mk [("A", some "F1"), ("A", some "F2"), ("B", some "F3")]
      [("F1", some "B"), ("F2", some "D"), ("F3", some "C")]
    let fault := Fault.mk "OperationalError" "database is locked"
    let params : Fields := [("root_id", .string "A"), ("target_id", .string "C")]
    call ⟨graph, none⟩ subtree params = (.ok (.bool true), ⟨[
        .familiesOf (some "A"), .childrenOf (some "F1"), .childrenOf (some "F2"),
        .familiesOf (some "B"), .childrenOf (some "F3")], 0⟩) ∧
      call ⟨graph, some (3, fault)⟩ subtree params = (.error (.engine fault), ⟨[
        .familiesOf (some "A"), .childrenOf (some "F1"), .childrenOf (some "F2")], 0⟩) := by
  intro graph fault params
  have names : SubtreeParams.Names params ⟨"A", "C"⟩ := ⟨rfl, rfl, nofun, nofun⟩
  obtain ⟨found, asked, calm, -, broken⟩ :=
    (call_interrupted graph subtree params 3 (by decide) fault).2.2.1 rfl ⟨"A", "C"⟩ names
  have searched : graph.search "A" "C" = ⟨[
      .familiesOf (some "A"), .childrenOf (some "F1"), .childrenOf (some "F2"),
      .familiesOf (some "B"), .childrenOf (some "F3")], true⟩ := by
    simp [graph, FamilyGraph.search, FamilyGraph.searchFrom, FamilyGraph.expand,
      FamilyGraph.familiesOf, FamilyGraph.childrenOf, FamilyGraph.persons, FamilyGraph.others]
  rw [call_calm names, searched] at calm
  cases calm
  refine ⟨?_, broken⟩
  rw [call_calm names, searched]

end Functions

end RowQuery
