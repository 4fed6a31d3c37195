import RowQuery.Proofs.Json.RoundTrip

/-!
# Documents that texts hold

Whatever is read of a text is a proper document, so that it is restored when it has been written
again.

* `Json.proper_of_read` — a document that is read is proper.
* `Json.read_ne_string` — no text holds itself: a string is shorter than the text it is read from.
-/

namespace RowQuery

namespace Json

theorem properFields_iff {fields : List (String × Json)} :
    ProperFields fields ↔ ∀ field ∈ fields, field.2.Proper := by
  induction fields with
  | nil => simp [ProperFields]
  | cons field rest ih => rw [ProperFields, ih, List.forall_mem_cons]

/-- Fields that are written one after the other, each with a proper value, are those of a proper
object. -/
theorem proper_ofPairs {pairs : List (String × Json)} (proper : ProperFields pairs) :
    (object (Fields.ofPairs pairs)).Proper := by
  have written (pairs fields : Fields) (later : ∀ field ∈ pairs, field.2.Proper)
      (before : (object fields).Proper) :
      (object
        (pairs.foldl (fun fields pair => Fields.put fields pair.1 pair.2) fields)).Proper := by
    induction pairs generalizing fields with
    | nil => exact before
    | cons pair pairs ih =>
      obtain ⟨here, later⟩ := List.forall_mem_cons.mp later
      refine ih _ later ⟨Fields.nodup_put before.1, properFields_iff.mpr fun field mem => ?_⟩
      rcases Fields.mem_put mem with old | rfl
      · exact properFields_iff.mp before.2 field old
      · exact here
  exact written pairs [] (properFields_iff.mp proper) ⟨List.nodup_nil, trivial⟩

/-! ### Numbers -/

/-- A number of so many digits is below that power of ten. -/
theorem ofDigitChars_lt {ds : List Char} (digits : ∀ c ∈ ds, c.isDigit) :
    Nat.ofDigitChars 10 ds 0 < 10 ^ ds.length := by
  induction ds with
  | nil => decide
  | cons c ds ih =>
    obtain ⟨digit, digits⟩ := List.forall_mem_cons.mp digits
    have most : c.toNat - '0'.toNat ≤ 9 := by
      have upper : c.toNat ≤ '9'.toNat := (Char.isDigit_iff_toNat.mp digit).2
      have nine : '9'.toNat = '0'.toNat + 9 := rfl
      omega
    have later := ih digits
    rw [Nat.ofDigitChars_cons, Nat.ofDigitChars_eq_ofDigitChars_zero, List.length_cons,
      Nat.pow_succ]
    calc 10 ^ ds.length * (10 * 0 + (c.toNat - '0'.toNat)) + Nat.ofDigitChars 10 ds 0
        < 10 ^ ds.length * (10 * 0 + (c.toNat - '0'.toNat)) + 10 ^ ds.length := by omega
      _ = 10 ^ ds.length * (c.toNat - '0'.toNat + 1) := by
          rw [Nat.mul_zero, Nat.zero_add, Nat.mul_succ]
      _ ≤ 10 ^ ds.length * 10 := Nat.mul_le_mul_left _ (by omega)

theorem isDigit_of_readWhole {s whole rest : List Char} (h : readWhole s = some (whole, rest)) :
    ∀ c ∈ whole, c.isDigit := by
  unfold readWhole at h
  split at h
  · cases h
    simp
  · next c later _ =>
    split at h
    · cases h
      exact fun d mem => List.mem_takeWhile_imp mem
    · cases h
  · cases h

/-- A number is proper, and no string. -/
theorem proper_of_readUnsigned {negative : Bool} {s rest : List Char} {value : Json}
    (h : readUnsigned negative s = .ok (some (value, rest))) :
    value.Proper ∧ ∀ inner, value ≠ .string inner := by
  unfold readUnsigned at h
  cases found : readWhole s with
  | none =>
    rw [found] at h
    cases h
  | some parts =>
    obtain ⟨whole, afterWhole⟩ := parts
    rw [found] at h
    dsimp only at h
    split at h
    · split at h
      · cases h
      · next short =>
        -- As many digits as have been read are enough to write the number.
        cases h
        have small := ofDigitChars_lt (isDigit_of_readWhole found)
        have size : (if negative then -(Nat.ofDigitChars 10 whole 0 : Int)
            else (Nat.ofDigitChars 10 whole 0 : Int)).natAbs = Nat.ofDigitChars 10 whole 0 := by
          split <;> simp
        refine ⟨?_, fun _ => Json.noConfusion⟩
        show digitCount _ ≤ maxIntegerDigits
        rw [digitCount, size, Nat.length_toDigits_le_iff (by decide) (by decide)]
        exact lt_of_lt_of_le small (Nat.pow_le_pow_right (by decide) (Nat.le_of_not_lt short))
    · cases h
      exact ⟨trivial, fun _ => Json.noConfusion⟩

/-- A word or a number is proper, and no string. -/
theorem proper_of_readPlain {s rest : List Char} {value : Json}
    (h : readPlain s = .ok (value, rest)) : value.Proper ∧ ∀ inner, value ≠ .string inner := by
  unfold readPlain at h
  split at h
  · next found word =>
    cases h
    obtain ⟨⟨letters, value⟩, listed, dropped⟩ := List.exists_of_findSome?_eq_some word
    obtain ⟨left, -, same⟩ := Option.map_eq_some_iff.mp dropped
    cases same
    have all : ∀ entry ∈ words, entry.2.Proper ∧ ∀ inner, entry.2 ≠ .string inner := by
      simp [words, Proper]
    exact all _ listed
  · split at h
    · next number =>
      cases h
      unfold readNumber at number
      split at number
      · exact proper_of_readUnsigned number
      · exact proper_of_readUnsigned number
    · cases h
    · cases h

/-! ### Documents -/

/-- What stands after blanks and a separator is shorter. -/
theorem length_skipSpace_lt {r r' : List Char} {c : Char} (found : skipSpace r = c :: r') :
    (skipSpace r').length < r.length := by
  have before := skipSpace_length r
  have after := skipSpace_length r'
  rw [found, List.length_cons] at before
  omega

mutual

/-- The recursion is on a bound of the length, since the text itself is taken apart. -/
theorem proper_of_readValue (most : Nat) {s : List Char} (short : s.length ≤ most) {value : Json}
    {rest : Rest s} (h : readValue s = .ok (value, rest)) : value.Proper := by
  unfold readValue at h
  split at h
  · split at h
    · cases h
      trivial
    · cases h
  · next text =>
    have less : (skipSpace text).length < most := lt_of_le_of_lt (skipSpace_length text) short
    split at h
    · cases h
      trivial
    · split at h
      · next found =>
        cases h
        exact proper_of_readItems (skipSpace text).length (le_refl _) found
      · cases h
  · next text =>
    have less : (skipSpace text).length < most := lt_of_le_of_lt (skipSpace_length text) short
    split at h
    · cases h
      exact ⟨List.nodup_nil, trivial⟩
    · split at h
      · next found =>
        cases h
        exact proper_ofPairs (proper_of_readFields (skipSpace text).length (le_refl _) found)
      · cases h
  · split at h
    · next found =>
      cases h
      exact (proper_of_readPlain found).1
    · cases h
termination_by (most, 0)

theorem proper_of_readItems (most : Nat) {s : List Char} (short : s.length ≤ most)
    {items : List Json} {rest : Rest s} (h : readItems s = .ok (items, rest)) :
    ProperItems items := by
  unfold readItems at h
  split at h
  · cases h
  · next item r shorter read =>
    have proper := proper_of_readValue most short read
    split at h
    · cases h
      exact ⟨proper, trivial⟩
    · next r' comma =>
      have less : (skipSpace r').length < most :=
        (length_skipSpace_lt comma).trans (lt_of_lt_of_le shorter short)
      split at h
      · next found =>
        cases h
        exact ⟨proper, proper_of_readItems (skipSpace r').length (le_refl _) found⟩
      · cases h
    · cases h
termination_by (most, 1)

theorem proper_of_readFields (most : Nat) {s : List Char} (short : s.length ≤ most)
    {fields : List (String × Json)} {rest : Rest s} (h : readFields s = .ok (fields, rest)) :
    ProperFields fields := by
  unfold readFields at h
  split at h
  · next text =>
    split at h
    · cases h
    · next name afterName named =>
      have inside : afterName.length < most := (readString_length named).trans short
      split at h
      · next afterColon colon =>
        have less : (skipSpace afterColon).length < most :=
          (length_skipSpace_lt colon).trans inside
        split at h
        · cases h
        · next value r shorter read =>
          have proper := proper_of_readValue (skipSpace afterColon).length (le_refl _) read
          split at h
          · cases h
            exact ⟨proper, trivial⟩
          · next r' comma =>
            have less' : (skipSpace r').length < most :=
              (length_skipSpace_lt comma).trans (shorter.trans less)
            split at h
            · next found =>
              cases h
              exact ⟨proper, proper_of_readFields (skipSpace r').length (le_refl _) found⟩
            · cases h
          · cases h
      · cases h
  · cases h
termination_by (most, 1)

end

/-- A document is what its text begins with, but for blanks. -/
theorem exists_readValue {text : String} {value : Json} (h : read text = .ok value) :
    ∃ rest, readValue (skipSpace text.toList) = .ok (value, rest) := by
  unfold read readAll at h
  split at h
  · cases h
  · cases found : readValue (skipSpace text.toList) with
    | error stuck =>
      rw [found] at h
      cases h
    | ok parts =>
      rw [found] at h
      dsimp only at h
      split at h
      · cases h
        exact ⟨_, rfl⟩
      · cases h

/-- **A document that is read is proper.** -/
theorem proper_of_read {text : String} {value : Json} (h : read text = .ok value) :
    value.Proper := by
  obtain ⟨rest, found⟩ := exists_readValue h
  exact proper_of_readValue _ (le_refl _) found

/-! ### Strings in texts -/

theorem length_joinPieces_le (pieces : List Piece) :
    (joinPieces pieces).length ≤ pieces.length := by
  fun_induction joinPieces pieces with
  | case1 => exact le_refl _
  | case2 c rest ih => exact Nat.succ_le_succ ih
  | case3 high low rest pair ih =>
    exact (Nat.succ_le_succ ih).trans (Nat.le_succ _)
  | case4 high low rest lone ih => exact Nat.succ_le_succ ih
  | case5 code rest other ih => exact Nat.succ_le_succ ih

theorem length_readPieces_lt {opening : Nat} {s rest : List Char} {pieces : List Piece}
    (h : readPieces opening s = .ok (pieces, rest)) : pieces.length < s.length := by
  fun_induction readPieces opening s generalizing pieces with
  | case1 | case3 | case5 | case6 | case8 | case9 => cases h
  | case2 rest =>
    cases h
    exact Nat.zero_lt_succ _
  | case4 a b c d e later code value ih =>
    obtain ⟨⟨others, left⟩, read, same⟩ := readPieces_length.map_ok h
    cases same
    have := ih read
    simp only [List.length_cons] at this ⊢
    omega
  | case7 c later _ other c' letter ih =>
    obtain ⟨⟨others, left⟩, read, same⟩ := readPieces_length.map_ok h
    cases same
    have := ih read
    simp only [List.length_cons]
    omega
  | case10 c later _ _ _ _ control ih =>
    obtain ⟨⟨others, left⟩, read, same⟩ := readPieces_length.map_ok h
    cases same
    have := ih read
    simp only [List.length_cons]
    omega

/-- A string is shorter than the text that holds it. -/
theorem length_lt_of_readValue {s : List Char} {inner : String} {rest : Rest s}
    (h : readValue s = .ok (.string inner, rest)) : inner.toList.length < s.length := by
  unfold readValue at h
  split at h
  · split at h
    · next read =>
      cases h
      obtain ⟨⟨pieces, left⟩, found, same⟩ := readPieces_length.map_ok read
      cases same
      have less := length_readPieces_lt found
      have joined := length_joinPieces_le pieces
      rw [String.toList_ofList, List.length_cons]
      omega
    · cases h
  · split at h
    · cases h
    · split at h <;> cases h
  · split at h
    · cases h
    · split at h <;> cases h
  · split at h
    · next found =>
      cases h
      exact absurd rfl ((proper_of_readPlain found).2 inner)
    · cases h

/-- **No text holds itself**: a string is shorter than the text it is read from. -/
theorem read_ne_string (text : String) : read text ≠ .ok (.string text) := by
  intro h
  obtain ⟨rest, found⟩ := exists_readValue h
  have less := length_lt_of_readValue found
  have skipped := skipSpace_length text.toList
  omega

end Json

end RowQuery
