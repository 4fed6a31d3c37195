import RowQuery.Number.Binary64

/-!
# Documents

A document is a JSON value. Integers and binary numbers are kept apart, integers are unbounded,
and the fields of an object stay in the order they were written in.

* `Json.truthy` says which values count as true where a plain yes or no is wanted.
* `Fields.put` writes a field without moving it; `Fields.ofPairs` is the object that a sequence of
  written fields denotes, and `Record.ofPairs` is that object with its promise: no name repeats.
* `Json.beq_eq_true` makes equality of documents decidable.
-/

namespace RowQuery

/-- A JSON value. -/
inductive Json where
  | null
  | bool (value : Bool)
  | integer (value : Int)
  | float (value : Binary64)
  | string (value : String)
  | array (items : List Json)
  | object (fields : List (String × Json))
deriving Inhabited

/-- The fields of an object, in order. -/
abbrev Fields := List (String × Json)

namespace Fields

/-- The value of the first field of that name. -/
def get? (fields : Fields) (name : String) : Option Json :=
  (fields.find? (·.1 = name)).map (·.2)

/-- Whether a field of that name is present. -/
def has (fields : Fields) (name : String) : Bool := fields.any (·.1 = name)

/-- The fields with one of them written: in its place if it is present, else at the end. -/
def put (fields : Fields) (name : String) (value : Json) : Fields :=
  match fields with
  | [] => [(name, value)]
  | (n, v) :: rest => if n = name then (n, value) :: rest else (n, v) :: put rest name value

/-- The fields that a sequence of writes leaves: a repeated name keeps its first place and its
last value. -/
def ofPairs (pairs : List (String × Json)) : Fields :=
  pairs.foldl (fun fields pair => put fields pair.1 pair.2) []

variable {fields : Fields} {name : String} {value : Json}

theorem mem_put {field : String × Json} (mem : field ∈ put fields name value) :
    field ∈ fields ∨ field = (name, value) := by
  induction fields with
  | nil => exact .inr (List.mem_singleton.mp mem)
  | cons first rest ih =>
    rw [put] at mem
    split at mem
    · next same =>
      rcases List.mem_cons.mp mem with here | later
      · exact .inr (same ▸ here)
      · exact .inl (List.mem_cons_of_mem _ later)
    · rcases List.mem_cons.mp mem with here | later
      · exact .inl (here ▸ List.mem_cons_self)
      · exact (ih later).imp_left (List.mem_cons_of_mem _)

/-- Writing a field gives no name a second time. -/
theorem nodup_put (distinct : (fields.map (·.1)).Nodup) :
    ((put fields name value).map (·.1)).Nodup := by
  induction fields with
  | nil => simp [put]
  | cons first rest ih =>
    obtain ⟨fresh, distinct⟩ := List.nodup_cons.mp distinct
    rw [put]
    split
    · exact List.nodup_cons.mpr ⟨fresh, distinct⟩
    · next differs =>
      refine List.nodup_cons.mpr ⟨fun mem => ?_, ih distinct⟩
      obtain ⟨field, written, same⟩ := List.mem_map.mp mem
      rcases mem_put written with old | rfl
      · exact fresh (List.mem_map.mpr ⟨field, old, same⟩)
      · exact differs same.symm

/-- What a sequence of writes leaves has no name twice. -/
theorem nodup_ofPairs (pairs : List (String × Json)) : ((ofPairs pairs).map (·.1)).Nodup := by
  have written (pairs : List (String × Json)) (fields : Fields)
      (distinct : (fields.map (·.1)).Nodup) :
      ((pairs.foldl (fun fields pair => put fields pair.1 pair.2) fields).map (·.1)).Nodup := by
    induction pairs generalizing fields with
    | nil => exact distinct
    | cons pair rest ih => exact ih _ (nodup_put distinct)
  exact written pairs [] List.nodup_nil

end Fields

namespace Json

/-- The document of a value that may be absent; null stands for absence. -/
def ofOption {α : Type} (document : α → Json) : Option α → Json
  | some a => document a
  | none => .null

/-- Whether a value counts as true: null, false, zero and everything empty do not. -/
def truthy : Json → Bool
  | .null => false
  | .bool b => b
  | .integer n => n != 0
  | .float x => !x.isZero
  | .string s => s != ""
  | .array items => !items.isEmpty
  | .object fields => !fields.isEmpty

/-- The field of an object. -/
def field? (value : Json) (name : String) : Option Json :=
  match value with
  | .object fields => Fields.get? fields name
  | _ => none

/-- The word for the kind of a value, as it is used in reports. -/
def kindName : Json → String
  | .null => "NoneType"
  | .bool _ => "bool"
  | .integer _ => "int"
  | .float _ => "float"
  | .string _ => "str"
  | .array _ => "list"
  | .object _ => "dict"

/-! ### Equality -/

mutual

/-- Equality of documents as a computation. -/
def beq : Json → Json → Bool
  | .null, .null => true
  | .bool a, .bool b => a == b
  | .integer a, .integer b => a == b
  | .float a, .float b => a == b
  | .string a, .string b => a == b
  | .array a, .array b => beqItems a b
  | .object a, .object b => beqFields a b
  | _, _ => false

/-- Equality of the items of two arrays. -/
def beqItems : List Json → List Json → Bool
  | [], [] => true
  | x :: xs, y :: ys => beq x y && beqItems xs ys
  | _, _ => false

/-- Equality of the fields of two objects, order included. -/
def beqFields : List (String × Json) → List (String × Json) → Bool
  | [], [] => true
  | (m, x) :: xs, (n, y) :: ys => m == n && beq x y && beqFields xs ys
  | _, _ => false

end

mutual

theorem eq_of_beq {x y : Json} (h : beq x y = true) : x = y := by
  cases x <;> cases y <;> simp [beq] at h
  case null.null => rfl
  case array.array a b => rw [eq_of_beqItems h]
  case object.object a b => rw [eq_of_beqFields h]
  all_goals rw [h]

theorem eq_of_beqItems {xs ys : List Json} (h : beqItems xs ys = true) : xs = ys := by
  cases xs <;> cases ys <;> simp [beqItems] at h
  case nil.nil => rfl
  case cons.cons x xs y ys => rw [eq_of_beq h.1, eq_of_beqItems h.2]

theorem eq_of_beqFields {xs ys : List (String × Json)} (h : beqFields xs ys = true) : xs = ys := by
  match xs, ys with
  | [], [] => rfl
  | [], _ :: _ => simp [beqFields] at h
  | _ :: _, [] => simp [beqFields] at h
  | (m, x) :: xs, (n, y) :: ys =>
    simp [beqFields] at h
    rw [h.1.1, eq_of_beq h.1.2, eq_of_beqFields h.2]

end

mutual

theorem beq_refl : (x : Json) → beq x x = true
  | .null => rfl
  | .bool _ | .integer _ | .float _ | .string _ => by simp [beq]
  | .array items => by simpa [beq] using beqItems_refl items
  | .object fields => by simpa [beq] using beqFields_refl fields

theorem beqItems_refl : (xs : List Json) → beqItems xs xs = true
  | [] => rfl
  | x :: xs => by simp [beqItems, beq_refl x, beqItems_refl xs]

theorem beqFields_refl : (xs : List (String × Json)) → beqFields xs xs = true
  | [] => rfl
  | (_, x) :: xs => by simp [beqFields, beq_refl x, beqFields_refl xs]

end

theorem beq_eq_true {x y : Json} : beq x y = true ↔ x = y :=
  ⟨eq_of_beq, fun h => h ▸ beq_refl x⟩

instance : DecidableEq Json := fun _ _ => decidable_of_iff _ beq_eq_true

end Json

/-- A record: fields with different names. -/
structure Record where
  fields : Fields
  distinct : (fields.map (·.1)).Nodup
deriving DecidableEq

/-- The record that a sequence of written fields leaves. -/
def Record.ofPairs (pairs : List (String × Json)) : Record :=
  ⟨.ofPairs pairs, Fields.nodup_ofPairs pairs⟩

end RowQuery
