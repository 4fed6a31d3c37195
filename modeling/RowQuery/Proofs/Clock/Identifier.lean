import Mathlib.Algebra.Group.Nat.Defs
import Mathlib.Data.Set.Function
import Mathlib.Order.Interval.Set.Basic
import RowQuery.Clock.Sources

/-!
# Identifiers made from numbers

The counter of a run makes an identifier from each number. Of the bits of a number some give way to
the version and the variant, and a text holds the others in groups of hexadecimal digits.

* `Json.hexDigits_inj` — a number is told by its digits, if there are enough of them.
* `Identifier.ofNat_injOn` — identifiers do not repeat before the counter comes to the variant;
  `Sources.steady_identifier_injOn` says so of the sources of a run.
-/

namespace RowQuery

namespace Json

theorem length_hexDigits (count n : Nat) : (hexDigits count n).length = count := by
  induction count generalizing n with
  | zero => rfl
  | succ count ih => rw [hexDigits, List.length_append, ih, List.length_singleton]

theorem hexDigit_inj {n m : Nat} (small : n < 16) (small' : m < 16)
    (same : hexDigit n = hexDigit m) : n = m := by
  have apart : ∀ n < 16, ∀ m < 16, hexDigit n = hexDigit m → n = m := by decide
  exact apart n small m small' same

/-- A number is told by its digits, if there are enough of them. -/
theorem hexDigits_inj {count n m : Nat} (small : n < 16 ^ count) (small' : m < 16 ^ count)
    (same : hexDigits count n = hexDigits count m) : n = m := by
  induction count generalizing n m with
  | zero => rw [Nat.lt_one_iff.mp small, Nat.lt_one_iff.mp small']
  | succ count ih =>
    have lengths : (hexDigits count (n / 16)).length = (hexDigits count (m / 16)).length := by
      rw [length_hexDigits, length_hexDigits]
    obtain ⟨front, last⟩ := List.append_inj same lengths
    have high : n / 16 = m / 16 := by
      refine ih ?_ ?_ front
      · exact Nat.div_lt_of_lt_mul (by rwa [Nat.pow_succ'] at small)
      · exact Nat.div_lt_of_lt_mul (by rwa [Nat.pow_succ'] at small')
    have low : n % 16 = m % 16 :=
      hexDigit_inj (Nat.mod_lt _ (by decide)) (Nat.mod_lt _ (by decide)) (List.cons.inj last).1
    rw [← Nat.div_add_mod n 16, ← Nat.div_add_mod m 16, high, low]

end Json

namespace Identifier

/-- The groups of the digits. -/
def groups (digits : List Char) : List (List Char) :=
  [digits.take 8, (digits.drop 8).take 4, (digits.drop 12).take 4, (digits.drop 16).take 4,
    digits.drop 20]

theorem flatten_groups (digits : List Char) : (groups digits).flatten = digits := by
  have cut (n more : Nat) :
      (digits.drop n).take more ++ digits.drop (n + more) = digits.drop n := by
    rw [← List.drop_drop, List.take_append_drop]
  simp only [groups, List.flatten_cons, List.flatten_nil, List.append_nil]
  rw [cut 16 4, cut 12 4, cut 8 4, List.take_append_drop]

/-- Pieces of the same lengths are told by the text that joins them. -/
theorem joinWith_inj {separator : List Char} {pieces others : List (List Char)}
    (lengths : pieces.map List.length = others.map List.length)
    (same : Text.joinWith separator pieces = Text.joinWith separator others) : pieces = others := by
  induction pieces generalizing others with
  | nil => exact (List.map_eq_nil_iff.mp lengths.symm).symm
  | cons piece rest ih =>
    obtain _ | ⟨other, others⟩ := others
    · cases lengths
    obtain ⟨first, lengths'⟩ := List.cons.inj lengths
    cases rest with
    | nil =>
      obtain rfl := List.map_eq_nil_iff.mp lengths'.symm
      exact congrArg (fun piece => [piece]) same
    | cons second rest =>
      obtain _ | ⟨second', others⟩ := others
      · cases lengths'
      have split (piece second : List Char) (rest : List (List Char)) :
          Text.joinWith separator (piece :: second :: rest) =
            piece ++ (separator ++ Text.joinWith separator (second :: rest)) :=
        List.append_assoc piece separator _
      rw [split, split] at same
      obtain ⟨rfl, rest'⟩ := List.append_inj same first
      rw [ih lengths' (List.append_cancel_left rest')]

/-- Below the variant a number is left as it is. -/
theorem bits_of_lt {n : Nat} (small : n < 2 ^ 62) :
    bits n = (4 <<< 76) + (2 <<< 62) + n := by
  have high : n >>> 80 = 0 := by
    rw [Nat.shiftRight_eq_div_pow]
    exact Nat.div_eq_of_lt (by omega)
  have middle : n >>> 64 = 0 := by
    rw [Nat.shiftRight_eq_div_pow]
    exact Nat.div_eq_of_lt (by omega)
  have low : n % (1 <<< 62) = n := Nat.mod_eq_of_lt small
  rw [bits, high, middle, low, Nat.zero_mod, Nat.zero_mod, Nat.zero_shiftLeft, Nat.zero_shiftLeft,
    Nat.zero_add, Nat.add_zero]

/-- **Identifiers do not repeat** before the counter comes to the variant. -/
theorem ofNat_injOn : Set.InjOn ofNat (Set.Iio (2 ^ 62)) := by
  intro n small m small' same
  have few {n : Nat} (small : n < 2 ^ 62) : bits n < 16 ^ 32 := by
    rw [bits_of_lt small]
    omega
  have lengths : (groups (Json.hexDigits 32 (bits n))).map List.length =
      (groups (Json.hexDigits 32 (bits m))).map List.length := by
    simp [groups, Json.length_hexDigits]
  have grouped := joinWith_inj lengths (String.ofList_injective same)
  have digits := congrArg List.flatten grouped
  rw [flatten_groups, flatten_groups] at digits
  have told := Json.hexDigits_inj (few small) (few small') digits
  rw [bits_of_lt small, bits_of_lt small'] at told
  exact Nat.add_left_cancel told

end Identifier

theorem Sources.steady_identifier_injOn (start step : Int) :
    Set.InjOn (Sources.steady start step).identifier (Set.Iio (2 ^ 62 - 1)) := by
  intro n small m small' same
  have next : n + 1 = m + 1 := Identifier.ofNat_injOn (Nat.add_lt_of_lt_sub small)
    (Nat.add_lt_of_lt_sub small') same
  exact Nat.succ.inj next

end RowQuery
