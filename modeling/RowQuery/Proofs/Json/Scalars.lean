import RowQuery.Json.Reader
import RowQuery.Json.Writer
import Mathlib.Data.List.TakeWhile

/-!
# Strings and numbers that are written and read

* `Json.readString_stringText` — a string is read as it was, whatever characters it has.
* `Json.readNumber_append` — what follows a number makes no difference, if no number goes on with
  it.
* `Json.readNumber_integerText` — an integer is read as it was, unless it is too long.
* `Json.readPlain_number` — a number is never taken for a word.
-/

namespace RowQuery.Json

/-! ### Strings -/

/-- The piece as which a character of a string is read. -/
def pieceOf (c : Char) : Piece :=
  if c.toNat < 32 ∧ c ∉ ['\n', '\r', '\t', '\x0c', '\x08'] then .unit c.toNat else .char c

/-- The digits of a control character are read as its code. -/
theorem hexValue4?_unicodeEscape : ∀ code < 32,
    hexValue4? (hexDigit (code / 4096 % 16)) (hexDigit (code / 256 % 16))
      (hexDigit (code / 16 % 16)) (hexDigit (code % 16)) = some code := by
  decide

/-- A character is read back as one piece, provided that something follows it. -/
theorem readPieces_escapeChar (opening : Nat) (c next : Char) (rest : List Char) :
    readPieces opening (escapeChar c ++ next :: rest) =
      (readPieces opening (next :: rest)).map
        fun (pieces, left) => (pieceOf c :: pieces, left) := by
  by_cases letter : c ∈ ['"', '\\', '\n', '\r', '\t', '\x0c', '\x08']
  · -- A letter stands for the character.
    simp only [List.mem_cons, List.not_mem_nil, or_false] at letter
    rcases letter with rfl | rfl | rfl | rfl | rfl | rfl | rfl <;> rfl
  · obtain ⟨quote, slash, newline, back, tab, feed, bell⟩ : c ≠ '"' ∧ c ≠ '\\' ∧ c ≠ '\n' ∧
        c ≠ '\r' ∧ c ≠ '\t' ∧ c ≠ '\x0c' ∧ c ≠ '\x08' := by simpa using letter
    by_cases control : c.toNat < 32
    · have escaped : escapeChar c = unicodeEscape c.toNat := by
        simp [escapeChar, quote, slash, newline, back, tab, feed, bell, control]
      have piece : pieceOf c = .unit c.toNat := by
        simp [pieceOf, newline, back, tab, feed, bell, control]
      rw [escaped, piece]
      show readPieces opening ('\\' :: 'u' :: _ :: _ :: _ :: _ :: next :: rest) = _
      rw [readPieces, hexValue4?_unicodeEscape _ control]
    · have escaped : escapeChar c = [c] := by
        simp [escapeChar, quote, slash, newline, back, tab, feed, bell, control]
      have piece : pieceOf c = .char c := by simp [pieceOf, control]
      rw [escaped, piece, List.singleton_append, readPieces]
      · rw [if_neg control]
      · exact quote
      · exact fun same _ => slash same
      · exact fun _ _ _ _ _ _ same _ => slash same
      · exact fun _ _ same _ => slash same

theorem readPieces_escaped (opening : Nat) (text rest : List Char) :
    readPieces opening (text.flatMap escapeChar ++ '"' :: rest) =
      .ok (text.map pieceOf, rest) := by
  induction text with
  | nil => rfl
  | cons c text ih =>
    obtain ⟨next, others, follow⟩ : ∃ next others,
        text.flatMap escapeChar ++ '"' :: rest = next :: others := by
      cases text.flatMap escapeChar with
      | nil => exact ⟨_, _, rfl⟩
      | cons next others => exact ⟨_, _, rfl⟩
    rw [List.flatMap_cons, List.append_assoc, follow, readPieces_escapeChar, ← follow, ih]
    rfl

/-- A code below those of the halves of pairs is a character by itself. -/
theorem joinPieces_unit {code : Nat} (low : code < 0xD800) (pieces : List Piece) :
    joinPieces (.unit code :: pieces) = Char.ofNat code :: joinPieces pieces := by
  have lone : joinPieces.loneUnit code = Char.ofNat code := if_neg (by omega)
  rw [← lone]
  cases pieces with
  | nil => rfl
  | cons piece pieces =>
    cases piece with
    | char c => rfl
    | unit other => rw [joinPieces, if_neg (by omega)]

theorem joinPieces_pieceOf (text : List Char) : joinPieces (text.map pieceOf) = text := by
  induction text with
  | nil => rfl
  | cons c text ih =>
    rw [List.map_cons, pieceOf]
    split
    · next control => rw [joinPieces_unit (by omega), Char.ofNat_toNat, ih]
    · rw [joinPieces, ih]

theorem readString_stringText (s : String) (rest : List Char) :
    readString (s.toList.flatMap escapeChar ++ '"' :: rest) = .ok (s, rest) := by
  rw [readString, readPieces_escaped]
  show Except.ok (String.ofList (joinPieces (s.toList.map pieceOf)), rest) = _
  rw [joinPieces_pieceOf, String.ofList_toList]

/-! ### Numbers -/

/-- Nothing that a number could go on with: the text is at its end, or a separator follows. -/
def Stops (rest : List Char) : Prop := ∀ c ∈ rest.head?, c ∈ [',', ']', '}']

theorem stops_cons {c : Char} (rest : List Char) (separator : c ∈ [',', ']', '}']) :
    Stops (c :: rest) := by
  rintro _ ⟨⟩
  exact separator

theorem Stops.ne {c : Char} {rest : List Char} (stops : Stops (c :: rest)) {d : Char}
    (other : d ∉ [',', ']', '}']) : c ≠ d := fun same => other (same ▸ stops c rfl)

theorem Stops.not_isDigit {c : Char} {rest : List Char} (stops : Stops (c :: rest)) :
    c.isDigit = false := by
  have listed := stops c rfl
  revert listed
  simp only [List.mem_cons, List.not_mem_nil, or_false]
  rintro (rfl | rfl | rfl) <;> rfl

theorem readWhole_cons {c : Char} (nonzero : c ≠ '0') (s : List Char) :
    readWhole (c :: s) = if c.isDigit then some (spanDigits (c :: s)) else none := by
  rw [readWhole]
  exact fun same => nonzero same

theorem readFraction_cons {c : Char} (point : c ≠ '.') (s : List Char) :
    readFraction (c :: s) = none := by
  rw [readFraction]
  exact fun _ _ same => absurd same (by simp [point])

theorem readExponent_cons {c : Char} (mark : ¬(c = 'e' ∨ c = 'E')) (s : List Char) :
    readExponent (c :: s) = none := by
  unfold readExponent
  exact if_neg mark

/-- The sign of an exponent, and the text after it. -/
def exponentSign : List Char → Bool × List Char
  | '-' :: r => (true, r)
  | '+' :: r => (false, r)
  | r => (false, r)

theorem exponentSign_cons {c : Char} (minus : c ≠ '-') (plus : c ≠ '+') (s : List Char) :
    exponentSign (c :: s) = (false, c :: s) := by
  unfold exponentSign
  split
  · next same => exact absurd (List.cons.inj same).1 minus
  · next same => exact absurd (List.cons.inj same).1 plus
  · rfl

theorem readExponent_marked {mark : Char} (marked : mark = 'e' ∨ mark = 'E') (s : List Char) :
    readExponent (mark :: s) = match spanDigits (exponentSign s).2 with
      | ([], _) => none
      | (ds, r) => some (if (exponentSign s).1 then -(Nat.ofDigitChars 10 ds 0 : Int)
        else (Nat.ofDigitChars 10 ds 0 : Int), r) := by
  unfold readExponent
  refine (if_pos marked).trans ?_
  rfl

section Append

variable {rest : List Char} (stops : Stops rest)

include stops

theorem spanDigits_append (s : List Char) :
    spanDigits (s ++ rest) = ((spanDigits s).1, (spanDigits s).2 ++ rest) := by
  induction s with
  | nil =>
    cases rest with
    | nil => rfl
    | cons c rest => simp [spanDigits, stops.not_isDigit]
  | cons c s ih =>
    by_cases digit : c.isDigit
    · simpa [spanDigits, digit] using ih
    · simp [spanDigits, digit]

theorem readWhole_append (s : List Char) :
    readWhole (s ++ rest) = (readWhole s).map fun (whole, left) => (whole, left ++ rest) := by
  cases s with
  | nil =>
    cases rest with
    | nil => rfl
    | cons c rest =>
      rw [List.nil_append, readWhole_cons (stops.ne (by decide)), stops.not_isDigit]
      rfl
  | cons c s =>
    by_cases zero : c = '0'
    · subst zero
      rfl
    · rw [readWhole_cons zero, List.cons_append, readWhole_cons zero, ← List.cons_append,
        spanDigits_append stops]
      split <;> rfl

theorem readFraction_append (s : List Char) :
    readFraction (s ++ rest) =
      (readFraction s).map fun (digits, left) => (digits, left ++ rest) := by
  cases s with
  | nil =>
    cases rest with
    | nil => rfl
    | cons c rest => exact readFraction_cons (stops.ne (by decide)) rest
  | cons c s =>
    by_cases point : c = '.'
    · subst point
      cases s with
      | nil =>
        cases rest with
        | nil => rfl
        | cons c rest =>
          rw [List.singleton_append, readFraction, stops.not_isDigit]
          rfl
      | cons d s =>
        rw [List.cons_append, List.cons_append, readFraction, readFraction, ← List.cons_append,
          spanDigits_append stops]
        split <;> rfl
    · rw [readFraction_cons point, List.cons_append, readFraction_cons point]
      rfl

theorem exponentSign_append (s : List Char) :
    exponentSign (s ++ rest) = ((exponentSign s).1, (exponentSign s).2 ++ rest) := by
  cases s with
  | nil =>
    cases rest with
    | nil => rfl
    | cons c rest => exact exponentSign_cons (stops.ne (by decide)) (stops.ne (by decide)) rest
  | cons c s =>
    by_cases minus : c = '-'
    · subst minus
      rfl
    · by_cases plus : c = '+'
      · subst plus
        rfl
      · rw [List.cons_append, exponentSign_cons minus plus, exponentSign_cons minus plus]
        rfl

theorem readExponent_append (s : List Char) :
    readExponent (s ++ rest) = (readExponent s).map fun (power, left) => (power, left ++ rest) := by
  cases s with
  | nil =>
    cases rest with
    | nil => rfl
    | cons c rest =>
      have other : ¬(c = 'e' ∨ c = 'E') := not_or.mpr ⟨stops.ne (by decide), stops.ne (by decide)⟩
      rw [List.nil_append, readExponent_cons other]
      rfl
  | cons mark s =>
    by_cases marked : mark = 'e' ∨ mark = 'E'
    · rw [List.cons_append, readExponent_marked marked, readExponent_marked marked,
        exponentSign_append stops, spanDigits_append stops]
      rcases spanDigits (exponentSign s).2 with ⟨_ | ⟨d, ds⟩, left⟩ <;> rfl
    · rw [readExponent_cons marked, List.cons_append, readExponent_cons marked]
      rfl

/-- A number is read as it is without what follows it. -/
theorem readUnsigned_append {negative : Bool} {s left : List Char} {value : Json}
    (h : readUnsigned negative s = .ok (some (value, left))) :
    readUnsigned negative (s ++ rest) = .ok (some (value, left ++ rest)) := by
  unfold readUnsigned at h ⊢
  rw [readWhole_append stops]
  rcases whole : readWhole s with _ | ⟨digits, afterWhole⟩
  · rw [whole] at h
    cases h
  · rw [whole] at h
    dsimp only [Option.map_some] at h ⊢
    rw [readFraction_append stops]
    generalize fraction : (readFraction afterWhole).getD ([], afterWhole) = found at h
    have appended : ((readFraction afterWhole).map
        fun (digits, left) => (digits, left ++ rest)).getD ([], afterWhole ++ rest) =
          (found.1, found.2 ++ rest) := by
      rw [← fraction]
      cases readFraction afterWhole <;> rfl
    rw [appended]
    obtain ⟨places, afterFraction⟩ := found
    dsimp only at h ⊢
    rw [readExponent_append stops]
    generalize readExponent afterFraction = exponent at h ⊢
    rcases exponent with _ | ⟨power, afterPower⟩
    · cases places with
      | nil =>
        dsimp only [Option.map_none] at h ⊢
        split at h
        · cases h
        · next fits =>
          cases h
          exact if_neg fits
      | cons d places =>
        cases h
        rfl
    · cases places <;> cases h <;> rfl

theorem readNumber_append {s left : List Char} {value : Json}
    (h : readNumber s = .ok (some (value, left))) :
    readNumber (s ++ rest) = .ok (some (value, left ++ rest)) := by
  cases s with
  | nil => cases h
  | cons c s =>
    by_cases minus : c = '-'
    · subst minus
      exact readUnsigned_append stops h
    · have unsigned (t : List Char) : readNumber (c :: t) = readUnsigned false (c :: t) := by
        rw [readNumber]
        exact fun _ same => minus (List.cons.inj same).1
      rw [unsigned] at h
      rw [List.cons_append, unsigned]
      exact readUnsigned_append stops h

end Append

/-! ### Integers -/

theorem spanDigits_of_digits {s : List Char} (digits : ∀ c ∈ s, c.isDigit) :
    spanDigits s = (s, []) := by
  rw [spanDigits, List.takeWhile_eq_self_iff.mpr digits, List.dropWhile_eq_nil_iff.mpr digits]

/-- A number other than zero is not written with a leading zero. -/
theorem exists_toDigits {n : Nat} (positive : 0 < n) :
    ∃ c rest, Nat.toDigits 10 n = c :: rest ∧ c ≠ '0' := by
  induction n using Nat.strongRecOn with
  | _ n ih =>
    by_cases small : n < 10
    · refine ⟨Nat.digitChar n, [], Nat.toDigits_of_lt_base small, ?_⟩
      have nonzero : ∀ m < 10, 0 < m → Nat.digitChar m ≠ '0' := by decide
      exact nonzero n small positive
    · obtain ⟨c, rest, written, nonzero⟩ := ih (n / 10) (by omega) (by omega)
      have whole := Nat.toDigits_of_base_le (by decide) (Nat.le_of_not_lt small)
      rw [written, List.cons_append] at whole
      exact ⟨c, _, whole, nonzero⟩

theorem isDigit_toDigits (n : Nat) : ∀ c ∈ Nat.toDigits 10 n, c.isDigit := fun _ mem =>
  Nat.isDigit_of_mem_toDigits (by decide) (by decide) mem

theorem readWhole_toDigits (n : Nat) :
    readWhole (Nat.toDigits 10 n) = some (Nat.toDigits 10 n, []) := by
  rcases Nat.eq_zero_or_pos n with rfl | positive
  · rfl
  · obtain ⟨c, rest, written, nonzero⟩ := exists_toDigits positive
    have digits := isDigit_toDigits n
    rw [written] at digits ⊢
    rw [readWhole_cons nonzero, if_pos (digits c List.mem_cons_self), spanDigits_of_digits digits]

/-- How many digits an integer is written with, its sign apart. -/
def digitCount (n : Int) : Nat := (Nat.toDigits 10 n.natAbs).length

theorem readUnsigned_toDigits (negative : Bool) {n : Nat}
    (short : (Nat.toDigits 10 n).length ≤ maxIntegerDigits) :
    readUnsigned negative (Nat.toDigits 10 n) =
      .ok (some (.integer (if negative then -(n : Int) else n), [])) := by
  have read : readUnsigned negative (Nat.toDigits 10 n) =
      if maxIntegerDigits < (Nat.toDigits 10 n).length then
        .error ⟨.integerTooLong (Nat.toDigits 10 n).length, (Nat.toDigits 10 n).length⟩
      else .ok (some (.integer (if negative then
        -(Nat.ofDigitChars 10 (Nat.toDigits 10 n) 0 : Int)
          else (Nat.ofDigitChars 10 (Nat.toDigits 10 n) 0 : Int)), [])) := by
    unfold readUnsigned
    rw [readWhole_toDigits]
    rfl
  rw [read, if_neg (Nat.not_lt.mpr short), Nat.ofDigitChars_ten_toDigits]

theorem readNumber_integerText {n : Int} (short : digitCount n ≤ maxIntegerDigits) :
    readNumber (integerText n) = .ok (some (.integer n, [])) := by
  have read (negative : Bool) := readUnsigned_toDigits negative short
  rw [integerText]
  split
  · next negative =>
    have value : -(n.natAbs : Int) = n := by omega
    show readUnsigned true _ = _
    rw [read, if_pos rfl, value]
  · next positive =>
    have value : (n.natAbs : Int) = n := by omega
    have unsigned : readNumber (Nat.toDigits 10 n.natAbs) =
        readUnsigned false (Nat.toDigits 10 n.natAbs) := by
      rw [readNumber]
      intro rest same
      have digit := isDigit_toDigits n.natAbs '-' (by rw [same]; exact List.mem_cons_self)
      cases digit
    rw [unsigned, read, if_neg Bool.false_ne_true, value]

/-! ### Words -/

/-- A number begins with a digit, or with a sign and a digit. -/
theorem exists_digit_of_readNumber {s left : List Char} {value : Json}
    (h : readNumber s = .ok (some (value, left))) :
    ∃ c rest, c.isDigit ∧ (s = c :: rest ∨ s = '-' :: c :: rest) := by
  have unsigned {negative : Bool} {s : List Char}
      (h : readUnsigned negative s = .ok (some (value, left))) :
      ∃ c rest, c.isDigit ∧ s = c :: rest := by
    unfold readUnsigned at h
    cases s with
    | nil => cases h
    | cons c rest =>
      refine ⟨c, rest, ?_, rfl⟩
      by_cases zero : c = '0'
      · rw [zero]
        rfl
      · rw [readWhole_cons zero] at h
        cases digit : c.isDigit with
        | true => rfl
        | false =>
          rw [digit] at h
          cases h
  unfold readNumber at h
  split at h
  · obtain ⟨c, rest, digit, rfl⟩ := unsigned h
    exact ⟨c, rest, digit, .inr rfl⟩
  · obtain ⟨c, rest, digit, rfl⟩ := unsigned h
    exact ⟨c, rest, digit, .inl rfl⟩

/-- No word begins with a digit, or with a sign and a digit. -/
theorem readWord_of_digit {c : Char} (digit : c.isDigit) (rest : List Char) :
    readWord (c :: rest) = none ∧ readWord ('-' :: c :: rest) = none := by
  have other (d : Char) (letter : d.isDigit = false) : ¬d = c := by
    rintro rfl
    rw [letter] at digit
    cases digit
  simp [readWord, words, dropWord?, other 'n' rfl, other 't' rfl, other 'f' rfl, other 'N' rfl,
    other 'I' rfl, other '-' rfl]

/-- A number is read as such, with what follows it left. -/
theorem readPlain_number {s rest : List Char} {value : Json}
    (h : readNumber s = .ok (some (value, []))) (stops : Stops rest) :
    readPlain (s ++ rest) = .ok (value, rest) := by
  have number := readNumber_append stops h
  obtain ⟨c, later, digit, start⟩ := exists_digit_of_readNumber number
  have word : readWord (s ++ rest) = none := by
    obtain ⟨plain, signed⟩ := readWord_of_digit digit later
    rcases start with start | start
    · rw [start, plain]
    · rw [start, signed]
  rw [readPlain, word]
  dsimp only
  rw [number]
  rfl

end RowQuery.Json
