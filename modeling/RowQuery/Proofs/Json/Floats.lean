import RowQuery.Proofs.Json.Scalars
import RowQuery.Proofs.Number.Decimal

/-!
# Numbers with a point that are written and read

* `Layout.read_write` — the text of a decimal is read as the number nearest to it, in every layout.
* `Json.readNumber_text` — a finite number is read as it was, its sign included.

## Design notes

The layouts write the same digits with the point in different places. What a text is read as is
therefore stated by its digits and the exponent of the leading one, and zeros that a layout adds at
the end are taken off again with `Binary64.ofDecimal_shift`.
-/

namespace RowQuery

namespace Json

/-! ### Parts of a number -/

/-- Digits go up to the next character that is none. -/
theorem spanDigits_of_stop {ds rest : List Char} (digits : ∀ c ∈ ds, c.isDigit)
    (next : ∀ c ∈ rest.head?, c.isDigit = false) : spanDigits (ds ++ rest) = (ds, rest) := by
  have stop : rest.takeWhile Char.isDigit = [] ∧ rest.dropWhile Char.isDigit = rest := by
    cases rest with
    | nil => exact ⟨rfl, rfl⟩
    | cons c rest =>
      have other : c.isDigit = false := next c rfl
      simp [other]
  rw [spanDigits, List.takeWhile_append_of_pos digits, List.dropWhile_append_of_pos digits, stop.1,
    stop.2, List.append_nil]

/-- Digits of which the first is not zero. -/
structure Leading (ds : List Char) : Prop where
  digits : ∀ c ∈ ds, c.isDigit
  leads : ∃ c rest, ds = c :: rest ∧ c ≠ '0'

theorem Leading.ne_nil {ds : List Char} (leading : Leading ds) : ds ≠ [] := by
  obtain ⟨-, c, rest, rfl, -⟩ := leading
  exact List.cons_ne_nil _ _

theorem Leading.readWhole_eq {ds rest : List Char} (leading : Leading ds)
    (next : ∀ c ∈ rest.head?, c.isDigit = false) : readWhole (ds ++ rest) = some (ds, rest) := by
  obtain ⟨digits, c, later, rfl, nonzero⟩ := leading
  rw [List.cons_append, readWhole_cons nonzero, if_pos (digits c List.mem_cons_self),
    ← List.cons_append, spanDigits_of_stop digits next]

theorem readFraction_digits {ds rest : List Char} (some : ds ≠ []) (digits : ∀ c ∈ ds, c.isDigit)
    (next : ∀ c ∈ rest.head?, c.isDigit = false) :
    readFraction ('.' :: (ds ++ rest)) = .some (ds, rest) := by
  cases ds with
  | nil => exact absurd rfl some
  | cons d ds =>
    rw [List.cons_append, readFraction, if_pos (digits d List.mem_cons_self), ← List.cons_append,
      spanDigits_of_stop digits next]

/-- A written exponent is read as it was. -/
theorem readExponent_exponentText (exponent : Int) :
    readExponent (Layout.exponentText exponent) = some (exponent, []) := by
  obtain ⟨ds, written⟩ : ∃ ds, ds = Layout.digits exponent.natAbs := ⟨_, rfl⟩
  have digits : ∀ c ∈ '0' :: ds, c.isDigit := by
    rw [written]
    exact List.forall_mem_cons.mpr ⟨rfl, isDigit_toDigits _⟩
  have value : Nat.ofDigitChars 10 ds 0 = exponent.natAbs := by
    rw [written]
    exact Nat.ofDigitChars_ten_toDigits
  have nonempty : ds ≠ [] := by
    rw [written]
    exact Nat.toDigits_ne_nil
  -- A zero in front changes neither the value nor that there are only digits.
  obtain ⟨padded, shape, digits, value, nonempty⟩ : ∃ padded,
      padded = (if ds.length < 2 then '0' :: ds else ds) ∧ (∀ c ∈ padded, c.isDigit) ∧
        Nat.ofDigitChars 10 padded 0 = exponent.natAbs ∧ padded ≠ [] := by
    refine ⟨_, rfl, ?_⟩
    split
    · exact ⟨digits, value, List.cons_ne_nil _ _⟩
    · exact ⟨fun c mem => digits c (List.mem_cons_of_mem _ mem), value, nonempty⟩
  have text : Layout.exponentText exponent =
      'e' :: (if exponent < 0 then '-' else '+') :: padded := by
    rw [Layout.exponentText, ← written, ← shape]
  have span := spanDigits_of_digits digits
  cases padded with
  | nil => exact absurd rfl nonempty
  | cons d padded =>
    rw [text, readExponent_marked (.inl rfl)]
    by_cases below : exponent < 0
    · have sign : exponentSign ('-' :: d :: padded) = (true, d :: padded) := rfl
      have size : -(exponent.natAbs : Int) = exponent := by omega
      simp only [if_pos below, sign, span, value, if_true, size]
    · have sign : exponentSign ('+' :: d :: padded) = (false, d :: padded) := rfl
      have size : (exponent.natAbs : Int) = exponent := by omega
      simp only [if_neg below, sign, span, value, Bool.false_eq_true, if_false, size]

/-- What a number with a point or an exponent is read as, from what its parts are read as. -/
theorem readUnsigned_float {negative : Bool} {s whole fraction afterWhole afterFraction : List Char}
    {exponent : Option (Int × List Char)} (first : readWhole s = some (whole, afterWhole))
    (point : (readFraction afterWhole).getD ([], afterWhole) = (fraction, afterFraction))
    (mark : readExponent afterFraction = exponent) (float : fraction = [] → exponent ≠ none) :
    readUnsigned negative s = .ok (some (.float (.ofDecimal negative
      (Nat.ofDigitChars 10 (whole ++ fraction) 0)
        ((exponent.getD (0, afterFraction)).1 - fraction.length)),
          (exponent.getD (0, afterFraction)).2)) := by
  unfold readUnsigned
  rw [first]
  dsimp only
  rw [point]
  dsimp only
  rw [mark]
  split
  · exact absurd rfl (float rfl)
  · rfl

/-- Digits before and after a point. -/
theorem readUnsigned_point {whole fraction : List Char} (negative : Bool)
    (first : readWhole (whole ++ '.' :: fraction) = some (whole, '.' :: fraction))
    (some : fraction ≠ []) (digits : ∀ c ∈ fraction, c.isDigit) :
    readUnsigned negative (whole ++ '.' :: fraction) = .ok (.some (.float (.ofDecimal negative
      (Nat.ofDigitChars 10 (whole ++ fraction) 0) (-fraction.length)), [])) := by
  have point : readFraction ('.' :: (fraction ++ [])) = .some (fraction, []) :=
    readFraction_digits some digits fun _ none => by cases none
  rw [List.append_nil] at point
  rw [readUnsigned_float first (by rw [point]; rfl) rfl fun none => absurd none some]
  show Except.ok (Option.some (Json.float (.ofDecimal _ _ (0 - fraction.length)), _)) = _
  rw [Int.zero_sub]
  rfl

/-- Digits with an exponent, with or without further digits after a point. -/
theorem readUnsigned_exponent {whole fraction point : List Char} (negative : Bool)
    (leading : Leading whole) (digits : ∀ c ∈ fraction, c.isDigit)
    (shape : fraction = [] ∧ point = [] ∨ fraction ≠ [] ∧ point = '.' :: fraction)
    (exponent : Int) :
    readUnsigned negative (whole ++ point ++ Layout.exponentText exponent) =
      .ok (some (.float (.ofDecimal negative (Nat.ofDigitChars 10 (whole ++ fraction) 0)
        (exponent - fraction.length)), [])) := by
  have mark : ∀ c ∈ (Layout.exponentText exponent).head?, c.isDigit = false := by
    rintro _ ⟨⟩
    rfl
  have read := readExponent_exponentText exponent
  have exists_mark : ∃ later, Layout.exponentText exponent = 'e' :: later := ⟨_, rfl⟩
  generalize Layout.exponentText exponent = text at mark read exists_mark
  have next : ∀ c ∈ (point ++ text).head?, c.isDigit = false := by
    rcases shape with ⟨-, rfl⟩ | ⟨-, rfl⟩
    · exact mark
    · rintro _ ⟨⟩
      rfl
  have point : (readFraction (point ++ text)).getD ([], point ++ text) = (fraction, text) := by
    rcases shape with ⟨rfl, rfl⟩ | ⟨some, rfl⟩
    · obtain ⟨later, rfl⟩ := exists_mark
      rfl
    · rw [List.cons_append, readFraction_digits some digits mark]
      rfl
  rw [List.append_assoc, readUnsigned_float (leading.readWhole_eq next) point read]
  · rfl
  · exact fun _ => Option.some_ne_none _

end Json

/-! ### Layouts -/

namespace Layout

open Json (Leading readUnsigned)

/-- Digits are the significant ones and the zeros at their end. -/
theorem exists_significant {ds : List Char} (leading : Leading ds) :
    ∃ k, ds = significant ds ++ List.replicate k '0' ∧ Leading (significant ds) := by
  obtain ⟨digits, c, later, start, nonzero⟩ := leading
  have zeros : ds.reverse.takeWhile (· = '0') =
      List.replicate (ds.reverse.takeWhile (· = '0')).length '0' := by
    rw [List.eq_replicate_iff]
    exact ⟨rfl, fun c mem => by simpa using List.mem_takeWhile_imp mem⟩
  have parts : ds = (ds.reverse.dropWhile (· = '0')).reverse ++
      List.replicate (ds.reverse.takeWhile (· = '0')).length '0' := by
    rw [← List.reverse_replicate, ← zeros, ← List.reverse_append, List.takeWhile_append_dropWhile,
      List.reverse_reverse]
  generalize (ds.reverse.takeWhile (· = '0')).length = k at parts
  unfold significant
  cases kept : (ds.reverse.dropWhile (· = '0')).reverse with
  | nil =>
    -- There is a digit that is not zero, the first one.
    rw [kept, List.nil_append, start] at parts
    have first : c ∈ List.replicate k '0' := by
      rw [← parts]
      exact List.mem_cons_self
    exact absurd (List.eq_of_mem_replicate first) nonzero
  | cons d kept' =>
    rw [kept] at parts
    refine ⟨k, parts, ?_, d, kept', rfl, ?_⟩
    · intro e mem
      refine digits e ?_
      rw [parts]
      exact List.mem_append_left _ mem
    · rw [start] at parts
      rw [← (List.cons.inj parts).1]
      exact nonzero

theorem isDigit_replicate_zero (k : Nat) : ∀ c ∈ List.replicate k '0', c.isDigit := by
  intro c mem
  rw [List.eq_of_mem_replicate mem]
  rfl

/-- Zeros after the digits of a coefficient may be left out. -/
theorem ofDecimal_zeros (negative : Bool) (ds : List Char) (k : Nat) (exponent : Int) :
    Binary64.ofDecimal negative (Nat.ofDigitChars 10 (ds ++ List.replicate k '0') 0) exponent =
      .ofDecimal negative (Nat.ofDigitChars 10 ds 0) (exponent + k) := by
  rw [Nat.ofDigitChars_append, Nat.ofDigitChars_replicate_zero, Nat.mul_comm,
    Binary64.ofDecimal_shift]

/-- Digits around a point are read as they stand. -/
theorem read_positional {ds : List Char} (leading : Leading ds) (exponent : Int) (negative : Bool) :
    readUnsigned negative (positional ds exponent) = .ok (some (.float (.ofDecimal negative
      (Nat.ofDigitChars 10 ds 0) (exponent + 1 - ds.length)), [])) := by
  have digits := leading.digits
  unfold positional
  by_cases below : exponent < 0
  · rw [if_pos below]
    generalize zeros : (-exponent - 1).toNat = k
    have fraction : ∀ c ∈ List.replicate k '0' ++ ds, c.isDigit :=
      List.forall_mem_append.mpr ⟨isDigit_replicate_zero k, leading.digits⟩
    have value : Nat.ofDigitChars 10 (['0'] ++ (List.replicate k '0' ++ ds)) 0 =
        Nat.ofDigitChars 10 ds 0 := by
      rw [Nat.ofDigitChars_append, Nat.ofDigitChars_append, Nat.ofDigitChars_replicate_zero]
      rfl
    have places : -((List.replicate k '0' ++ ds).length : Int) = exponent + 1 - ds.length := by
      rw [List.length_append, List.length_replicate]
      omega
    have first : Json.readWhole (['0'] ++ '.' :: (List.replicate k '0' ++ ds)) =
        some (['0'], '.' :: (List.replicate k '0' ++ ds)) := rfl
    have read := Json.readUnsigned_point negative first
      (List.append_ne_nil_of_right_ne_nil _ leading.ne_nil) fraction
    rw [value, places] at read
    exact read
  · rw [if_neg below]
    generalize whole : exponent.toNat + 1 = n
    obtain ⟨c, later, start, nonzero⟩ := leading.leads
    have stops (rest : List Char) : ∀ c ∈ ('.' :: rest).head?, c.isDigit = false := by
      rintro _ ⟨⟩
      rfl
    by_cases enough : n < ds.length
    · have padding : n - ds.length = 0 := by omega
      have some : ds.drop n ≠ [] := mt List.drop_eq_nil_iff.mp (by omega)
      have first : Leading (ds.take n) := by
        refine ⟨fun c mem => leading.digits c (List.mem_of_mem_take mem), c,
          later.take exponent.toNat, ?_, nonzero⟩
        rw [start, ← whole, List.take_succ_cons]
      have places : -((ds.drop n).length : Int) = exponent + 1 - ds.length := by
        rw [List.length_drop]
        omega
      have read := Json.readUnsigned_point negative (first.readWhole_eq (stops (ds.drop n))) some
        fun c mem => leading.digits c (List.mem_of_mem_drop mem)
      rw [List.take_append_drop, places] at read
      simpa [padding, some] using read
    · have first : Leading (ds ++ List.replicate (n - ds.length) '0') := by
        refine ⟨List.forall_mem_append.mpr ⟨leading.digits, isDigit_replicate_zero _⟩, c,
          later ++ List.replicate (n - ds.length) '0', ?_, nonzero⟩
        rw [start, List.cons_append]
      have zeros : ds ++ List.replicate (n - ds.length) '0' ++ ['0'] =
          ds ++ List.replicate (n - ds.length + 1) '0' := by
        rw [List.append_assoc, List.replicate_succ']
      have places : -(['0'].length : Int) + (n - ds.length + 1 : Nat) =
          exponent + 1 - ds.length := by
        rw [List.length_singleton]
        omega
      have read := Json.readUnsigned_point negative (first.readWhole_eq (stops ['0']))
        (List.cons_ne_nil _ _) (isDigit_replicate_zero 1)
      rw [zeros, ofDecimal_zeros, places] at read
      have all : ds.take n = ds := List.take_of_length_le (by omega)
      have none : ds.drop n = [] := List.drop_eq_nil_iff.mpr (by omega)
      simpa [all, none] using read

/-- Digits with an exponent are read as they stand. -/
theorem read_scientific (layout : Layout) {ds : List Char} (leading : Leading ds) (exponent : Int)
    (negative : Bool) :
    readUnsigned negative (layout.scientific ds exponent) = .ok (some (.float (.ofDecimal negative
      (Nat.ofDigitChars 10 ds 0) (exponent + 1 - ds.length)), [])) := by
  obtain ⟨digits, c, later, rfl, nonzero⟩ := leading
  have first : Leading [c] := ⟨by simpa using digits c List.mem_cons_self, c, [], rfl, nonzero⟩
  have others : ∀ c ∈ later, c.isDigit := fun c mem => digits c (List.mem_cons_of_mem _ mem)
  have places : exponent - later.length = exponent + 1 - (c :: later).length := by
    rw [List.length_cons]
    omega
  unfold scientific
  cases later with
  | cons d later =>
    have read := Json.readUnsigned_exponent negative first others
      (.inr ⟨List.cons_ne_nil _ _, rfl⟩) exponent
    rw [places] at read
    exact read
  | nil =>
    cases alone : layout.pointBeforeExponent with
    | false =>
      have read := Json.readUnsigned_exponent negative first others (.inl ⟨rfl, rfl⟩) exponent
      rw [places] at read
      simpa [alone] using read
    | true =>
      have read := Json.readUnsigned_exponent negative first (isDigit_replicate_zero 1)
        (.inr ⟨List.cons_ne_nil _ _, rfl⟩) exponent
      have places' : exponent - (List.replicate 1 '0').length + (1 : Nat) =
          exponent + 1 - [c].length := by
        rw [List.length_replicate, List.length_singleton]
        omega
      rw [ofDecimal_zeros, places'] at read
      simpa [alone] using read

/-- **The text of a decimal is read as the number nearest to the decimal**, in every layout. -/
theorem read_write (layout : Layout) {d : Decimal} (positive : 0 < d.coefficient)
    (negative : Bool) :
    readUnsigned negative (layout.write d) =
      .ok (some (.float (.ofDecimal negative d.coefficient d.exponent), [])) := by
  have leading : Leading (digits d.coefficient) :=
    ⟨Json.isDigit_toDigits _, Json.exists_toDigits positive⟩
  obtain ⟨k, parts, kept⟩ := exists_significant leading
  have whole : 0 < (digits d.coefficient).length := List.length_pos_iff.mpr leading.ne_nil
  have length : (digits d.coefficient).length =
      (significant (digits d.coefficient)).length + k := by
    conv_lhs => rw [parts]
    rw [List.length_append, List.length_replicate]
  have places : d.exponent + ((digits d.coefficient).length - 1 : Nat) + 1 -
      (significant (digits d.coefficient)).length = d.exponent + k := by
    omega
  have value : Binary64.ofDecimal negative d.coefficient d.exponent = .ofDecimal negative
      (Nat.ofDigitChars 10 (significant (digits d.coefficient)) 0) (d.exponent + k) := by
    rw [← ofDecimal_zeros, ← parts]
    exact congrArg (Binary64.ofDecimal negative · d.exponent) Nat.ofDigitChars_ten_toDigits.symm
  rw [value, ← places]
  unfold write
  dsimp only
  split
  · exact read_positional kept _ negative
  · exact read_scientific layout kept _ negative

end Layout

/-! ### Numbers in documents -/

namespace Magnitude

/-- There is one magnitude without a mantissa. -/
theorem eq_zero {m : Magnitude} (empty : m.mantissa = 0) : m = zero := by
  have small : ¬mantissaLimit / 2 ≤ m.mantissa := by
    rw [empty]
    decide
  have least : m.exponent = 0 := m.canonical.2.2.resolve_right small
  cases m
  rw [zero, mk.injEq]
  exact ⟨empty, least⟩

end Magnitude

namespace Json

/-- A number that is read without its sign is read as such. -/
theorem readNumber_unsigned {s : List Char} {found : Json × List Char}
    (h : readUnsigned false s = .ok (some found)) : readNumber s = .ok (some found) := by
  unfold readNumber
  split
  · -- A sign is no digit.
    cases h
  · exact h

/-- **A finite number is read from its text**, whichever sign it has. -/
theorem readNumber_text (negative : Bool) (m : Magnitude) :
    readNumber (Binary64.finite negative m).text.toList =
      .ok (some (.float (.finite negative m), [])) := by
  have body (negative : Bool) : readUnsigned negative
      (if m.mantissa = 0 then ['0', '.', '0'] else Layout.document.write (.shortest m)) =
        .ok (some (.float (.finite negative m), [])) := by
    split
    · next empty =>
      rw [Magnitude.eq_zero empty]
      rfl
    · next nonzero =>
      have reads := Decimal.reads_shortest nonzero
      have positive : 0 < (Decimal.shortest m).coefficient := by
        refine Nat.pos_of_ne_zero fun empty => nonzero ?_
        rw [empty] at reads
        cases reads
        rfl
      rw [Layout.read_write _ positive, Binary64.ofDecimal_sign negative reads]
  have text : (Binary64.finite negative m).text.toList =
      (if negative then ['-'] else []) ++
        (if m.mantissa = 0 then ['0', '.', '0'] else Layout.document.write (.shortest m)) := by
    cases negative <;> simp [Binary64.text]
  rw [text]
  cases negative with
  | true => exact body true
  | false => exact readNumber_unsigned (body false)

end Json

end RowQuery
