import RowQuery.Proofs.Filter.Meaning
import RowQuery.Store.Select

/-!
# Sorted rows

All cells have their places in one order, so rows that are sorted by order terms are in order.

* `Cell.order_eq` — what decides the order of two cells: their ranks, their sizes and their letters.
* `Table.Precedes` says that a row stands before another one by order terms.
* `Table.sort_ordered` — among sorted rows none stands after one that it precedes.

## Design notes

The order is one of all cells, a not-a-number included, so nothing has to be known of what a table
holds.
-/

namespace RowQuery

/-! ### The order of cells -/

namespace Cell

/-- The class of a cell in the order, the numbers that are not finite being classes of their own. -/
def rank : Cell → Nat
  | null => 0
  | real .nan => 1
  | real (.infinity true) => 2
  | integer _ | real (.finite _ _) => 3
  | real (.infinity false) => 4
  | text _ => 5

/-- The size of a finite number, in the units in which sizes are counted. -/
def size : Cell → Int
  | integer n => n * Binary64.unitsPerOne
  | real x => x.units?.getD 0
  | null | text _ => 0

/-- The code points of a text. -/
def letters : Cell → List Nat
  | text s => s.toList.map Char.toNat
  | null | integer _ | real _ => []

theorem textOrder_eq (s t : List Char) :
    textOrder s t = compare (s.map Char.toNat) (t.map Char.toNat) := by
  induction s generalizing t with
  | nil => cases t <;> rfl
  | cons a s ih =>
    cases t with
    | nil => rfl
    | cons b t => rw [textOrder, ih, List.map_cons, List.map_cons, List.compare_cons_cons]

theorem compare_units (m n : Int) :
    compare (m * Binary64.unitsPerOne) (n * Binary64.unitsPerOne) = compare m n := by
  have positive : (0 : Int) < Binary64.unitsPerOne := by decide +kernel
  generalize (Binary64.unitsPerOne : Int) = k at positive
  rcases h : compare m n with _ | _ | _
  · rw [Int.compare_eq_lt] at h ⊢
    exact Int.mul_lt_mul_of_pos_right h positive
  · rw [Int.compare_eq_eq] at h ⊢
    rw [h]
  · rw [Int.compare_eq_gt] at h ⊢
    exact Int.mul_lt_mul_of_pos_right h positive

/-- The order of two cells is decided by their ranks, then by their sizes, then by their letters. -/
theorem order_eq (a b : Cell) : a.order b =
    compareLex (compareOn rank) (compareLex (compareOn size) (compareOn letters)) a b := by
  -- Where the ranks are equal, the letters matter for two texts only.
  have sized (order : Ordering) : order = order.then .eq := by cases order <;> rfl
  rcases a with _ | m | (_ | (_ | _) | x) | s <;> rcases b with _ | n | (_ | (_ | _) | y) | t
  all_goals try rfl
  case integer.integer => exact (compare_units m n).symm.trans (sized _)
  case integer.real.finite =>
    have turned : Std.OrientedCmp (compare : Int → Int → Ordering) := inferInstance
    exact turned.eq_swap.symm.trans (sized _)
  case real.finite.integer => exact sized _
  case real.finite.real.finite => exact sized _
  case text.text => exact textOrder_eq s.toList t.toList

instance : Std.TransCmp order := by
  have same : order =
      compareLex (compareOn rank) (compareLex (compareOn size) (compareOn letters)) :=
    funext fun a => funext (order_eq a)
  rw [same]
  infer_instance

end Cell

/-! ### The order of rows -/

namespace Table

variable {table : Table}

/-- Whether a row stands before another one by order terms: at the first term in which the two
differ its cell is lower than the other, or higher if the term descends. -/
def Precedes (table : Table) : List OrderTerm → Row → Row → Prop
  | [], _, _ => False
  | term :: rest, a, b =>
    let order := (table.cell a term.column).order (table.cell b term.column)
    order = (if term.ascending then .lt else .gt) ∨ order = .eq ∧ Precedes table rest a b

instance decidablePrecedes (table : Table) :
    (order : List OrderTerm) → (a b : Row) → Decidable (table.Precedes order a b)
  | [], _, _ => .isFalse id
  | _ :: rest, a, b =>
    have := decidablePrecedes table rest a b
    inferInstanceAs (Decidable (_ = _ ∨ _ = _ ∧ Precedes table rest a b))

theorem rowOrder_eq_lt_iff {order : List OrderTerm} {a b : Row}
    (present : ∀ term ∈ order, (table.declaration.columnIndex? term.column).isSome) :
    table.rowOrder a b order = .lt ↔ table.Precedes order a b := by
  induction order with
  | nil => simp [rowOrder, Precedes]
  | cons term rest ih =>
    obtain ⟨here, present⟩ := List.forall_mem_cons.mp present
    rw [rowOrder, Precedes, Filter.read_source a here, Filter.read_source b here, ← ih present]
    generalize (table.cell a term.column).order (table.cell b term.column) = first
    generalize table.rowOrder a b rest = later
    cases term.ascending <;> cases first <;> cases later <;> decide

/-- A comparison of rows by what they have under a source. -/
theorem transCmp_read (source : Source) (ascending : Bool) :
    Std.TransCmp fun a b : Row =>
      if ascending then (a.read source).order (b.read source)
      else ((a.read source).order (b.read source)).swap := by
  have up : Std.TransCmp fun a b : Row => (a.read source).order (b.read source) :=
    { eq_swap := Std.OrientedCmp.eq_swap
      isLE_trans := Std.TransCmp.isLE_trans }
  cases ascending with
  | true => exact up
  | false =>
    have turned : (fun a b : Row => ((a.read source).order (b.read source)).swap) =
        fun a b => (b.read source).order (a.read source) :=
      funext fun a => funext fun b => Std.OrientedCmp.eq_swap.symm
    show Std.TransCmp fun a b : Row => ((a.read source).order (b.read source)).swap
    rw [turned]
    exact up.opposite

instance transCmp_rowOrder (table : Table) (order : List OrderTerm) :
    Std.TransCmp fun a b => table.rowOrder a b order := by
  induction order with
  | nil => exact { eq_swap := rfl, isLE_trans := fun _ _ => rfl }
  | cons term rest ih =>
    have first := transCmp_read (table.declaration.source term.column) term.ascending
    exact inferInstanceAs (Std.TransCmp (compareLex _ _))

/-- **Among sorted rows none stands after one that it precedes.** -/
theorem sort_ordered (rows : List Row) {order : List OrderTerm}
    (present : ∀ term ∈ order, (table.declaration.columnIndex? term.column).isSome) :
    (table.sort order rows).Pairwise fun a b => ¬table.Precedes order b a := by
  have compares := transCmp_rowOrder table order
  have trans (a b c : Row) (h : (table.rowOrder a b order).isLE = true)
      (h' : (table.rowOrder b c order).isLE = true) : (table.rowOrder a c order).isLE = true :=
    compares.isLE_trans h h'
  have swap (a b : Row) : table.rowOrder a b order = (table.rowOrder b a order).swap :=
    compares.eq_swap
  have total (a b : Row) :
      ((table.rowOrder a b order).isLE || (table.rowOrder b a order).isLE) = true := by
    rw [swap a b]
    cases table.rowOrder b a order <;> rfl
  refine (List.pairwise_mergeSort trans total rows).imp fun {a b} ordered before => ?_
  rw [← rowOrder_eq_lt_iff present] at before
  rw [swap a b, before] at ordered
  cases ordered

end Table

end RowQuery
