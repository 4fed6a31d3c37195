import RowQuery.Proofs.Clock.Calendar
import RowQuery.Store.Cell

/-!
# Texts of numbers in fixed widths

Texts in which numbers of fixed widths and certain signs follow one another, such as dates. They are
read without looking ahead, and their order is that of the numbers in them.

* `Form.Fits` are the texts of a form, `Form.write` writes numbers in it, and `Form.read?` reads
  them.
* `Form.fits_write` and `Form.read?_write` — what is written has the form and is read as it was.
* `Form.textOrder_write` — two texts of a form are in the order of their numbers, the first one
  coming first.
-/

namespace RowQuery

/-! ### The order of texts -/

namespace Cell

/-- Texts that begin with pieces of the same length are in the order of these, and then of what
follows. -/
theorem textOrder_append {front front' : List Char} (lengths : front.length = front'.length)
    (rest rest' : List Char) : textOrder (front ++ rest) (front' ++ rest') =
      (textOrder front front').then (textOrder rest rest') := by
  induction front generalizing front' with
  | nil =>
    obtain rfl := List.length_eq_zero_iff.mp lengths.symm
    rfl
  | cons c front ih =>
    obtain _ | ⟨d, front'⟩ := front'
    · cases lengths
    · rw [List.cons_append, List.cons_append, textOrder, textOrder, ih (Nat.succ.inj lengths),
        Ordering.then_assoc]

/-- Of two texts the first one is the greater if it stands behind the other one. -/
theorem textOrder_eq_gt_iff {s t : List Char} : textOrder s t = .gt ↔ t < s := by
  induction s generalizing t with
  | nil => cases t <;> simp [textOrder]
  | cons c s ih =>
    cases t with
    | nil => simp [textOrder]
    | cons d t =>
      have apart : compare c.toNat d.toNat = .gt ↔ d < c := Nat.compare_eq_gt
      have same : compare c.toNat d.toNat = .eq ↔ d = c :=
        Nat.compare_eq_eq.trans (Char.toNat_inj.trans eq_comm)
      rw [textOrder, Ordering.then_eq_gt, apart, same, ih, List.cons_lt_cons_iff]

end Cell

/-! ### Digits -/

/-- The last digits of a number, as many as the width. -/
def lastDigits : Nat → Nat → List Char
  | 0, _ => []
  | width + 1, n => lastDigits width (n / 10) ++ [Nat.digitChar (n % 10)]

theorem div_ten_lt {width n : Nat} (small : n < 10 ^ (width + 1)) : n / 10 < 10 ^ width :=
  Nat.div_lt_of_lt_mul (by rwa [Nat.pow_succ'] at small)

theorem length_lastDigits (width n : Nat) : (lastDigits width n).length = width := by
  induction width generalizing n with
  | zero => rfl
  | succ width ih => rw [lastDigits, List.length_append, ih, List.length_singleton]

theorem isDigit_lastDigits (width n : Nat) : ∀ c ∈ lastDigits width n, c.isDigit := by
  induction width generalizing n with
  | zero => exact fun _ mem => absurd mem List.not_mem_nil
  | succ width ih =>
    intro c mem
    rcases List.mem_append.mp mem with front | last
    · exact ih (n / 10) c front
    · rw [List.mem_singleton.mp last, Nat.isDigit_digitChar]
      exact decide_eq_true (Nat.mod_lt n (by decide))

theorem ofDigitChars_lastDigits {width n : Nat} (small : n < 10 ^ width) :
    Nat.ofDigitChars 10 (lastDigits width n) 0 = n := by
  induction width generalizing n with
  | zero => exact (Nat.lt_one_iff.mp small).symm
  | succ width ih =>
    have value : ∀ digit < 10, (Nat.digitChar digit).toNat - '0'.toNat = digit := by decide
    rw [lastDigits, Nat.ofDigitChars_append, ih (div_ten_lt small), Nat.ofDigitChars_cons,
      value (n % 10) (Nat.mod_lt n (by decide))]
    exact Nat.div_add_mod n 10

/-- Numbers that are written with as many digits are in the order of their texts. -/
theorem textOrder_lastDigits {width n m : Nat} (small : n < 10 ^ width) (small' : m < 10 ^ width) :
    Cell.textOrder (lastDigits width n) (lastDigits width m) = compare n m := by
  induction width generalizing n m with
  | zero => rw [Nat.lt_one_iff.mp small, Nat.lt_one_iff.mp small']; rfl
  | succ width ih =>
    have last : ∀ d < 10, ∀ e < 10,
        Cell.textOrder [Nat.digitChar d] [Nat.digitChar e] = compare d e := by decide
    have lengths : (lastDigits width (n / 10)).length = (lastDigits width (m / 10)).length := by
      rw [length_lastDigits, length_lastDigits]
    have digit (n : Nat) : n % 10 < 10 := Nat.mod_lt n (by decide)
    rw [lastDigits, lastDigits, Cell.textOrder_append lengths,
      ih (div_ten_lt small) (div_ten_lt small'), last _ (digit n) _ (digit m)]
    exact compare_div_mod 10 n m

theorem lastDigits_of_lt {width n : Nat} (small : n < 10) :
    lastDigits (width + 1) n = List.replicate width '0' ++ [Nat.digitChar n] := by
  have zeros (width : Nat) : lastDigits width 0 = List.replicate width '0' := by
    induction width with
    | zero => rfl
    | succ width ih => rw [lastDigits, Nat.zero_div, ih, List.replicate_succ']; rfl
  rw [lastDigits, Nat.div_eq_of_lt small, zeros, Nat.mod_eq_of_lt small]

/-- Zeros in front make up for digits that a number does not have. -/
theorem padded_eq {width n : Nat} (positive : 0 < width) (small : n < 10 ^ width) :
    Instant.padded width n = lastDigits width n := by
  obtain ⟨width, rfl⟩ := Nat.exists_eq_add_one.mpr positive
  -- The last digit comes off both texts; the zeros in front are as many as before, since number and
  -- width have both lost one place.
  induction width generalizing n with
  | zero =>
    rw [Nat.zero_add, Nat.pow_one] at small
    rw [Instant.padded, Layout.digits, lastDigits_of_lt small, Nat.toDigits_of_lt_base small]
    rfl
  | succ width ih =>
    by_cases single : n < 10
    · rw [Instant.padded, Layout.digits, Nat.toDigits_of_lt_base single, lastDigits_of_lt single]
      rfl
    · have front := ih (Nat.succ_pos width) (div_ten_lt small)
      rw [lastDigits, ← front, Instant.padded, Instant.padded, Layout.digits, Layout.digits,
        Nat.toDigits_of_base_le (by decide) (Nat.le_of_not_lt single), List.length_append,
        List.length_singleton, Nat.add_sub_add_right, List.append_assoc]

/-! ### Forms -/

/-- A piece of a form: a number that is written with so many digits, or a sign. -/
inductive Form.Piece where
  | number (width : Nat)
  | sign (c : Char)

/-- The pieces of a text, in order. -/
abbrev Form := List Form.Piece

namespace Form

/-- Numbers in a form. -/
def write : Form → List Nat → List Char
  | .number width :: form, n :: numbers => Instant.padded width n ++ write form numbers
  | .sign c :: form, numbers => c :: write form numbers
  | _, _ => []

/-- The texts of a form: the signs stand in their places, and for a number there are as many digits
as it is wide. -/
inductive Fits : Form → List Char → Prop
  | done : Fits [] []
  | sign {form : Form} {text : List Char} (c : Char) (h : Fits form text) :
    Fits (.sign c :: form) (c :: text)
  | number {form : Form} {text digits : List Char} (allDigits : ∀ c ∈ digits, c.isDigit)
    (h : Fits form text) : Fits (.number digits.length :: form) (digits ++ text)

/-- The numbers in a text, provided that it has the form. -/
def read? : Form → List Char → Option (List Nat)
  | [], text => if text.isEmpty then some [] else none
  | .sign c :: form, text => if text.head? = some c then read? form text.tail else none
  | .number width :: form, text =>
    let digits := text.take width
    if digits.length = width ∧ digits.all Char.isDigit then
      (read? form (text.drop width)).map (Nat.ofDigitChars 10 digits 0 :: ·)
    else none

/-- Numbers for which the widths of a form suffice. -/
inductive Holds : Form → List Nat → Prop
  | done : Holds [] []
  | sign {form : Form} {numbers : List Nat} (c : Char) (h : Holds form numbers) :
    Holds (.sign c :: form) numbers
  | number {form : Form} {numbers : List Nat} {width n : Nat} (positive : 0 < width)
    (small : n < 10 ^ width) (h : Holds form numbers) : Holds (.number width :: form) (n :: numbers)

variable {form : Form} {numbers others : List Nat}

/-- What is written has the form. -/
theorem fits_write (h : Holds form numbers) : Fits form (write form numbers) := by
  induction h with
  | done => exact .done
  | sign c _ ih => exact .sign c ih
  | @number form numbers width n positive small _ ih =>
    rw [write, padded_eq positive small]
    have fits := Fits.number (isDigit_lastDigits width n) ih
    rwa [length_lastDigits] at fits

/-- What is written is read as it was. -/
theorem read?_write (h : Holds form numbers) : read? form (write form numbers) = some numbers := by
  induction h with
  | done => rfl
  | sign c _ ih =>
    rw [write, read?, List.head?_cons, if_pos rfl]
    exact ih
  | @number form numbers width n positive small _ ih =>
    have length := length_lastDigits width n
    rw [write, padded_eq positive small, read?, List.take_left' length, List.drop_left' length]
    have digits : (lastDigits width n).length = width ∧ (lastDigits width n).all Char.isDigit :=
      ⟨length, List.all_eq_true.mpr (isDigit_lastDigits width n)⟩
    rw [if_pos digits, ih, ofDigitChars_lastDigits small]
    rfl

/-- **Texts of a form are in the order of their numbers**, the first one coming first. -/
theorem textOrder_write (h : Holds form numbers) (h' : Holds form others) :
    Cell.textOrder (write form numbers) (write form others) = compare numbers others := by
  induction h generalizing others with
  | done =>
    cases h'
    rfl
  | sign c _ ih =>
    obtain _ | @⟨_, _, _, rest⟩ | _ := h'
    rw [write, write, Cell.textOrder, ih rest, Nat.compare_eq_eq.mpr rfl]
    rfl
  | @number form numbers width n positive small _ ih =>
    obtain _ | _ | @⟨_, others, _, m, _, small', h'⟩ := h'
    have lengths : (lastDigits width n).length = (lastDigits width m).length := by
      rw [length_lastDigits, length_lastDigits]
    rw [write, write, padded_eq positive small, padded_eq positive small',
      Cell.textOrder_append lengths, textOrder_lastDigits small small', ih h',
      List.compare_cons_cons]

end Form

end RowQuery
