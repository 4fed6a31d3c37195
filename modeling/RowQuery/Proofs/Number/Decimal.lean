import RowQuery.Number.Shortest
import Mathlib.Tactic.Ring

/-!
# Decimals that read back

The number that a decimal stands for depends on the value of the decimal alone, and the shortest
digits of a number stand for that number.

* `Binary64.ofRatio_mul` — a quotient may be expanded.
* `Binary64.ofRatio_units` — the exact value of a number is rounded to the number itself.
* `Binary64.ofDecimal_shift` — zeros at the end of a coefficient may go into the exponent.
* `Decimal.reads_shortest` — the shortest decimal of a magnitude is read as the magnitude.

## Design notes

The shortest decimal is searched for among candidates that are tested for reading back, so that it
reads back needs no estimate of how many digits there have to be. If no candidate passes, the exact
decimal is taken, and that one needs to be rounded only in name.
-/

namespace RowQuery

/-! ### Rounding -/

namespace Number

/-- A quotient is rounded by its value. -/
theorem roundToEven_mul {k : Nat} (positive : 0 < k) (num den : Nat) :
    roundToEven (k * num) (k * den) = roundToEven num den := by
  have twice : 2 * (k * (num % den)) = k * (2 * (num % den)) := by ring
  rw [roundToEven, roundToEven, Nat.mul_div_mul_left _ _ positive, Nat.mul_mod_mul_left, twice]
  simp only [Nat.mul_lt_mul_left positive]

/-- Where nothing is left, nothing is rounded. -/
theorem roundToEven_mul_self {den : Nat} (positive : 0 < den) (n : Nat) :
    roundToEven (n * den) den = n := by
  rw [roundToEven, Nat.mul_div_cancel _ positive, Nat.mul_mod_left]
  exact if_pos positive

/-- A quotient is rounded to one of its two neighbours. -/
theorem roundToEven_cases (num den : Nat) :
    roundToEven num den = num / den ∨ roundToEven num den = num / den + 1 := by
  have parity := Nat.mod_two_eq_zero_or_one (num / den)
  simp only [roundToEven]
  split
  · exact .inl rfl
  · split
    · exact .inr rfl
    · omega

end Number

namespace Magnitude

/-- The leading bit of a magnitude tells its exponent. -/
theorem log2_units (m : Magnitude) : m.units.log2 - 52 = m.exponent := by
  obtain ⟨mantissa, exponent, below, -, normal⟩ := m
  have limit : mantissaLimit = 2 ^ 53 := rfl
  rw [limit] at below normal
  show Nat.log2 (mantissa * 2 ^ exponent) - 52 = exponent
  rcases normal with rfl | leading
  · -- Below the leading bit there is nothing to be shifted.
    rw [Nat.pow_zero, Nat.mul_one]
    by_cases zero : mantissa = 0
    · rw [zero]
      rfl
    · have := (Nat.log2_lt zero).mpr below
      omega
  · have positive : 0 < 2 ^ exponent := Nat.two_pow_pos exponent
    have lower : 2 ^ (52 + exponent) ≤ mantissa * 2 ^ exponent := by
      rw [Nat.pow_add]
      exact Nat.mul_le_mul_right _ (by omega)
    have upper : mantissa * 2 ^ exponent < 2 ^ (52 + exponent + 1) := by
      have split : 2 ^ (52 + exponent + 1) = 2 ^ 53 * 2 ^ exponent := by
        rw [← Nat.pow_add]
        congr 1
        omega
      rw [split]
      exact Nat.mul_lt_mul_of_pos_right below positive
    have nonzero : mantissa * 2 ^ exponent ≠ 0 := by
      have := Nat.two_pow_pos (52 + exponent)
      omega
    rw [(Nat.log2_eq_iff nonzero).mpr ⟨lower, upper⟩]
    omega

theorem ofParts?_self (m : Magnitude) : ofParts? m.mantissa m.exponent = some m :=
  dif_pos m.canonical

end Magnitude

/-! ### Quotients -/

namespace Binary64

/-- A quotient may be expanded. -/
theorem ofRatio_mul {k : Nat} (expands : 0 < k) (negative : Bool) (num den : Nat) :
    ofRatio negative (k * num) (k * den) = ofRatio negative num den := by
  have mantissa (exponent : Nat) :
      Number.roundToEven (k * (num * unitsPerOne)) (k * (den * Nat.pow 2 exponent)) =
        Number.roundToEven (num * unitsPerOne) (den * Nat.pow 2 exponent) :=
    Number.roundToEven_mul expands _ _
  simp only [ofRatio, Nat.mul_assoc, Nat.mul_div_mul_left _ _ expands, mantissa]

/-- The exact value of a number is rounded to the number itself. -/
theorem ofRatio_units (negative : Bool) (m : Magnitude) :
    ofRatio negative m.units unitsPerOne = .finite negative m := by
  have unit : 0 < unitsPerOne := by decide +kernel
  have scaled : 0 < unitsPerOne * Nat.pow 2 m.exponent := Nat.mul_pos unit (Nat.two_pow_pos _)
  have exact : m.units * unitsPerOne = m.mantissa * (unitsPerOne * Nat.pow 2 m.exponent) := by
    rw [Magnitude.units]
    ring
  have mantissa : Number.roundToEven (m.units * unitsPerOne)
      (unitsPerOne * Nat.pow 2 m.exponent) = m.mantissa := by
    rw [exact, Number.roundToEven_mul_self scaled]
  simp only [ofRatio, Nat.mul_div_cancel _ unit, m.log2_units, mantissa]
  rw [ofRounded, m.ofParts?_self]

/-- The sign makes no difference to the magnitude. -/
theorem ofRounded_sign {mantissa exponent : Nat} {m : Magnitude} (negative : Bool)
    (h : ofRounded false mantissa exponent = .finite false m) :
    ofRounded negative mantissa exponent = .finite negative m := by
  unfold ofRounded at h ⊢
  split at h
  · cases h
    rfl
  · split at h
    · cases h
      rfl
    · cases h

theorem ofRatio_sign {num den : Nat} {m : Magnitude} (negative : Bool)
    (h : ofRatio false num den = .finite false m) :
    ofRatio negative num den = .finite negative m := ofRounded_sign negative h

/-! ### Decimals -/

theorem toDigits_mul_ten {n : Nat} (positive : 0 < n) :
    Nat.toDigits 10 (n * 10) = Nat.toDigits 10 n ++ ['0'] := by
  rw [Nat.toDigits_of_base_le (by decide) (by omega), Nat.mul_div_cancel _ (by decide),
    Nat.mul_mod_left]
  rfl

theorem length_toDigits_shift {n : Nat} (positive : 0 < n) (k : Nat) :
    (Nat.toDigits 10 (n * 10 ^ k)).length = (Nat.toDigits 10 n).length + k := by
  induction k with
  | zero => simp
  | succ k ih =>
    have still : 0 < n * 10 ^ k := Nat.mul_pos positive (Nat.pow_pos (by decide))
    rw [Nat.pow_succ, ← Nat.mul_assoc, toDigits_mul_ten still, List.length_append, ih]
    rfl

/-- Zeros at the end of a coefficient may go into the exponent. -/
theorem ofDecimal_shift (negative : Bool) (coefficient k : Nat) (exponent : Int) :
    ofDecimal negative (coefficient * 10 ^ k) exponent =
      ofDecimal negative coefficient (exponent + k) := by
  have power : 0 < 10 ^ k := Nat.pow_pos (by decide)
  by_cases zero : coefficient = 0
  · rw [zero, Nat.zero_mul]
    simp only [ofDecimal, if_pos]
  have nonzero : coefficient * 10 ^ k ≠ 0 := Nat.mul_ne_zero zero (by omega)
  have magnitude : exponent + ((Nat.toDigits 10 (coefficient * 10 ^ k)).length : Int) =
      exponent + k + ((Nat.toDigits 10 coefficient).length : Int) := by
    rw [length_toDigits_shift (by omega)]
    omega
  simp only [ofDecimal, if_neg zero, if_neg nonzero, magnitude]
  split
  · rfl
  split
  · rfl
  -- What is left is the same quotient, whatever the signs of the two exponents are.
  by_cases left : 0 ≤ exponent
  · have right : 0 ≤ exponent + k := by omega
    rw [if_pos left, if_pos right]
    have sum : (exponent + k).toNat = k + exponent.toNat := by omega
    show ofRatio negative (coefficient * 10 ^ k * 10 ^ exponent.toNat) 1 =
      ofRatio negative (coefficient * 10 ^ (exponent + k).toNat) 1
    rw [sum, Nat.pow_add, Nat.mul_assoc]
  · rw [if_neg left]
    by_cases right : 0 ≤ exponent + k
    · rw [if_pos right]
      have sum : k = (-exponent).toNat + (exponent + k).toNat := by omega
      have positive : 0 < 10 ^ (-exponent).toNat := Nat.pow_pos (by decide)
      show ofRatio negative (coefficient * 10 ^ k) (10 ^ (-exponent).toNat) =
        ofRatio negative (coefficient * 10 ^ (exponent + k).toNat) 1
      rw [← ofRatio_mul positive negative (coefficient * 10 ^ (exponent + k).toNat) 1, Nat.mul_one]
      congr 1
      conv_lhs => rw [sum, Nat.pow_add]
      ring
    · rw [if_neg right]
      have sum : (-exponent).toNat = k + (-(exponent + k)).toNat := by omega
      show ofRatio negative (coefficient * 10 ^ k) (10 ^ (-exponent).toNat) =
        ofRatio negative coefficient (10 ^ (-(exponent + k)).toNat)
      rw [← ofRatio_mul power negative coefficient, sum, Nat.pow_add, Nat.mul_comm coefficient]

/-- A decimal with places after the point, in reach of the format, is a quotient. -/
theorem ofDecimal_neg (negative : Bool) {coefficient places : Nat} (nonzero : coefficient ≠ 0)
    (fraction : 0 < places) (lower : places ≤ 400 + (Nat.toDigits 10 coefficient).length)
    (upper : (Nat.toDigits 10 coefficient).length ≤ 400 + places) :
    ofDecimal negative coefficient (-places) =
      ofRatio negative coefficient (Nat.pow 10 places) := by
  have large : ¬400 < -(places : Int) + ((Nat.toDigits 10 coefficient).length : Int) := by omega
  have small : ¬-(places : Int) + ((Nat.toDigits 10 coefficient).length : Int) < -400 := by omega
  have whole : ¬(0 : Int) ≤ -places := by omega
  simp only [ofDecimal, if_neg nonzero, if_neg large, if_neg small, if_neg whole, neg_neg,
    Int.toNat_natCast]

theorem ofDecimal_sign {coefficient : Nat} {exponent : Int} {m : Magnitude} (negative : Bool)
    (h : ofDecimal false coefficient exponent = .finite false m) :
    ofDecimal negative coefficient exponent = .finite negative m := by
  simp only [ofDecimal] at h ⊢
  by_cases zero : coefficient = 0
  · rw [if_pos zero] at h ⊢
    cases h
    rfl
  rw [if_neg zero] at h ⊢
  split at h
  · cases h
  split at h
  · next _ small =>
    rw [if_neg ‹_›, if_pos small]
    cases h
    rfl
  · next large small =>
    rw [if_neg large, if_neg small]
    by_cases whole : 0 ≤ exponent
    · rw [if_pos whole] at h ⊢
      exact ofRatio_sign negative h
    · rw [if_neg whole] at h ⊢
      exact ofRatio_sign negative h

end Binary64

/-! ### Shortest digits -/

namespace Magnitude

theorem units_pos {m : Magnitude} (nonzero : m.mantissa ≠ 0) : 0 < m.units :=
  Nat.mul_pos (Nat.pos_of_ne_zero nonzero) (Nat.two_pow_pos _)

theorem units_le (m : Magnitude) (most : Nat) (within : m.exponent ≤ most) :
    m.units ≤ mantissaLimit * Nat.pow 2 most :=
  Nat.mul_le_mul (le_of_lt m.canonical.1) (Nat.pow_le_pow_right (by decide) within)

/-- A magnitude is below ten to the four hundredth. -/
theorem units_lt (m : Magnitude) : m.units < 10 ^ 400 * Binary64.unitsPerOne :=
  Nat.lt_of_le_of_lt (units_le m 2045 m.canonical.2.1) (by decide +kernel)

end Magnitude

namespace Decimal

theorem readsBack_iff {m : Magnitude} {d : Decimal} :
    readsBack m d = true ↔ Binary64.ofDecimal false d.coefficient d.exponent = .finite false m :=
  beq_iff_eq

/-- A neighbour that is taken reads back, also if it is the nearer of two that do. -/
theorem readsBack_of_neighbour? {m : Magnitude} {digits : Nat} {d : Decimal}
    (found : neighbour? m digits = some d) : readsBack m d = true := by
  unfold neighbour? at found
  generalize leadingExponent m.units Binary64.unitsPerOne - ((digits - 1 : Nat) : Int) = exponent
    at found
  dsimp only at found
  split at found
  · next below above =>
    cases found
    let scaled := scaleDown m.units Binary64.unitsPerOne exponent
    rcases Number.roundToEven_cases scaled.1 scaled.2 with nearer | nearer
    · rw [nearer]
      exact below
    · rw [nearer]
      exact above
  · next below _ =>
    cases found
    exact below
  · next _ above =>
    cases found
    exact above
  · cases found

/-- A decimal that is the exact value of a magnitude is read as the magnitude. The powers are
variables here, since they are too large to be computed. -/
theorem readsBack_exact {m : Magnitude} (fives places : Nat) (nonzero : m.mantissa ≠ 0)
    (expanded : fives * Binary64.unitsPerOne = 10 ^ places) (many : 10 ^ (places - 400) ≤ fives)
    (fraction : 400 < places) : readsBack m ⟨m.units * fives, -places⟩ = true := by
  have positive := Magnitude.units_pos nonzero
  have expands : 0 < fives := lt_of_lt_of_le (Nat.pow_pos (by decide)) many
  have lower : 10 ^ (places - 400) ≤ m.units * fives :=
    le_trans many (Nat.le_mul_of_pos_left _ positive)
  have upper : m.units * fives < 10 ^ (400 + places) := by
    calc m.units * fives < 10 ^ 400 * Binary64.unitsPerOne * fives :=
          Nat.mul_lt_mul_of_pos_right m.units_lt expands
      _ = 10 ^ 400 * (fives * Binary64.unitsPerOne) := by
          rw [Nat.mul_assoc, Nat.mul_comm fives]
      _ = 10 ^ (400 + places) := by rw [expanded, Nat.pow_add]
  have long : places - 400 < (Nat.toDigits 10 (m.units * fives)).length := by
    rw [← not_le, Nat.length_toDigits_le_iff (by decide) (by omega)]
    exact not_lt.mpr lower
  have short : (Nat.toDigits 10 (m.units * fives)).length ≤ 400 + places :=
    (Nat.length_toDigits_le_iff (by decide) (by omega)).mpr upper
  have some : m.units * fives ≠ 0 := Nat.mul_ne_zero (by omega) (by omega)
  have quotient : Binary64.ofRatio false (m.units * fives) (Nat.pow 10 places) =
      .finite false m := by
    show Binary64.ofRatio false (m.units * fives) (10 ^ places) = _
    rw [← expanded, Nat.mul_comm m.units, Binary64.ofRatio_mul expands, Binary64.ofRatio_units]
  rw [readsBack_iff, ← quotient]
  show Binary64.ofDecimal false (m.units * fives) (-places) = _
  exact Binary64.ofDecimal_neg false some (by omega) (by omega) short

/-- **The shortest decimal of a magnitude is read as the magnitude.** -/
theorem reads_shortest {m : Magnitude} (nonzero : m.mantissa ≠ 0) :
    Binary64.ofDecimal false (shortest m).coefficient (shortest m).exponent = .finite false m := by
  apply readsBack_iff.mp
  unfold shortest
  split
  · next d found =>
    obtain ⟨k, -, found⟩ := List.exists_of_findSome?_eq_some found
    exact readsBack_of_neighbour? found
  · exact readsBack_exact (Nat.pow 5 1074) 1074 nonzero (by decide +kernel) (by decide +kernel)
      (by decide)

end Decimal

end RowQuery
