import Mathlib.Data.List.Induction
import RowQuery.Json.Basic

/-!
# Fields of a record

* `Fields.get?_put`, `Fields.get?_map` and `Fields.get?_eq_some_iff` — what is found under a name.
* `Fields.ofPairs_of_nodup` — fields that are written once each are in the order of writing;
  `Fields.ofPairs_map` — those that are written again with the same value keep their place.
-/

namespace RowQuery.Fields

variable {fields : Fields} {name other : String} {value : Json}

theorem get?_cons (field : String × Json) (rest : Fields) (name : String) :
    get? (field :: rest) name = if field.1 = name then some field.2 else get? rest name := by
  rw [get?, List.find?_cons]
  by_cases same : field.1 = name
  · rw [decide_eq_true same, if_pos same]
    rfl
  · rw [decide_eq_false same, if_neg same]
    rfl

theorem get?_put : get? (put fields name value) other =
    if name = other then some value else get? fields other := by
  induction fields with
  | nil => rw [put, get?_cons]
  | cons field rest ih =>
    rw [put]
    split
    · next same =>
      rw [get?_cons, get?_cons, same]
      split <;> rfl
    · next differs =>
      rw [get?_cons, get?_cons, ih]
      split
      · next here => rw [if_neg fun same => differs (here.trans same.symm)]
      · rfl

/-- Fields whose values are changed, name by name. -/
theorem get?_map (change : String → Json → Json) (fields : Fields) (name : String) :
    get? (fields.map fun (n, v) => (n, change n v)) name =
      (get? fields name).map (change name) := by
  induction fields with
  | nil => rfl
  | cons field rest ih =>
    obtain ⟨n, v⟩ := field
    rw [List.map_cons, get?_cons, get?_cons, ih]
    by_cases same : n = name
    · subst same
      rw [if_pos rfl, if_pos rfl, Option.map_some]
    · rw [if_neg same, if_neg same]

/-- Where no name repeats, every field is found. -/
theorem get?_eq_some_iff (distinct : (fields.map (·.1)).Nodup) :
    get? fields name = some value ↔ (name, value) ∈ fields := by
  induction fields with
  | nil => simp [get?]
  | cons field rest ih =>
    obtain ⟨fresh, distinct⟩ := List.nodup_cons.mp distinct
    rw [get?_cons, List.mem_cons]
    split
    · next same =>
      subst same
      have absent : (field.1, value) ∉ rest := fun mem =>
        fresh (List.mem_map.mpr ⟨_, mem, rfl⟩)
      constructor
      · rintro ⟨⟩
        exact .inl rfl
      · intro h
        rw [← h.resolve_right absent]
    · next differs =>
      rw [ih distinct]
      refine ⟨.inr, fun h => h.resolve_left fun same => differs ?_⟩
      rw [← same]

theorem put_of_not_mem (fresh : name ∉ fields.map (·.1)) :
    put fields name value = fields ++ [(name, value)] := by
  induction fields with
  | nil => rfl
  | cons field rest ih =>
    rw [List.map_cons, List.mem_cons, not_or] at fresh
    rw [put, if_neg (Ne.symm fresh.1), ih fresh.2]
    rfl

/-- Fields that are written once each are in the order of writing. -/
theorem ofPairs_of_nodup (distinct : (fields.map (·.1)).Nodup) : ofPairs fields = fields := by
  have written (rest before : Fields) (distinct : ((before ++ rest).map (·.1)).Nodup) :
      rest.foldl (fun fields pair => put fields pair.1 pair.2) before = before ++ rest := by
    induction rest generalizing before with
    | nil => exact (List.append_nil before).symm
    | cons field rest ih =>
      have fresh : field.1 ∉ before.map (·.1) := by
        rw [List.map_append, List.nodup_append] at distinct
        exact fun mem => distinct.2.2 _ mem _ List.mem_cons_self rfl
      rw [List.foldl_cons, put_of_not_mem fresh]
      have same : before ++ [field] ++ rest = before ++ field :: rest := by simp
      rw [ih (before ++ [field]) (same ▸ distinct), same]
  exact written fields [] distinct

theorem ofPairs_concat (pairs : List (String × Json)) (pair : String × Json) :
    ofPairs (pairs ++ [pair]) = put (ofPairs pairs) pair.1 pair.2 := by
  rw [ofPairs, List.foldl_append]
  rfl

/-- A name that is there already keeps its place. -/
theorem put_map {names : List String} {value : String → Json} {name : String}
    (mem : name ∈ names) :
    put (names.map fun name => (name, value name)) name (value name) =
      names.map fun name => (name, value name) := by
  induction names with
  | nil => cases mem
  | cons first rest ih =>
    rw [List.map_cons, put]
    split
    · next same => rw [same]
    · next differs =>
      rw [ih ((List.mem_cons.mp mem).resolve_left fun same => differs same.symm)]

/-- Fields whose values are told by their names are written once each, at the first place. -/
theorem ofPairs_map (names : List String) (value : String → Json) :
    ofPairs (names.map fun name => (name, value name)) =
      names.eraseDups.map fun name => (name, value name) := by
  induction names using List.reverseRecOn with
  | nil => rfl
  | append_singleton names name ih =>
    rw [List.map_append, List.map_singleton, ofPairs_concat, ih, List.eraseDups_append]
    by_cases mem : name ∈ names
    · have none : [name].removeAll names = [] := by simp [List.removeAll, mem]
      rw [none, List.eraseDups_nil, List.append_nil]
      exact put_map (List.mem_eraseDups.mpr mem)
    · have kept : [name].removeAll names = [name] := by simp [List.removeAll, mem]
      have fresh : name ∉ (names.eraseDups.map fun name => (name, value name)).map (·.1) := by
        simpa [Function.comp_def] using mem
      rw [kept, put_of_not_mem fresh, List.map_append]
      rfl

end RowQuery.Fields
