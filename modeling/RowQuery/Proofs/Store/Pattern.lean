import Mathlib.Data.List.TakeWhile
import RowQuery.Proofs.Text.LowerCase
import RowQuery.Store.Pattern

/-!
# Patterns for a part

A part between two percent signs is the pattern for the texts that have the part. Both sides are
lowered before they are compared, the signs together with the part.

* `Pattern.matchesChars_surrounded_iff` — a part between percent signs matches the texts in which it
  occurs.
* `Pattern.upToNull_lowerFrom` — a text may be cut off at a null character before it is lowered.
* `Pattern.matchesText_surrounded_iff` — the pattern matches the texts whose lower case has that of
  the part.
-/

namespace RowQuery.Pattern

open Text (lowerChars lowerFrom lowerFrom_cons lowerAt lowerChar startsCased endsCased)

/-! ### Patterns with two percent signs -/

/-- The pattern that looks for a part. -/
def surrounded (part : String) : String := "%" ++ part ++ "%"

theorem toList_surrounded (part : String) :
    (surrounded part).toList = '%' :: (part.toList ++ ['%']) := by
  simp [surrounded]

theorem sameLetter_iff {a b : Char} (small : a.isUpper = false) (small' : b.isUpper = false) :
    sameLetter a b = true ↔ a = b := by
  have own {c : Char} (h : c.isUpper = false) : c.toLower = c := dif_neg fun ⟨first, last⟩ => by
    have capital : c.isUpper = true := Text.isUpper_iff.mpr ⟨first, last⟩
    exact Bool.false_ne_true (h.symm.trans capital)
  rw [sameLetter, own small, own small', Bool.or_self, decide_eq_true_iff]

/-- After a percent sign a pattern matches the texts some end of which its rest matches. -/
theorem matchesChars_percent_iff {pattern text : List Char} :
    matchesChars ('%' :: pattern) text = true ↔
      ∃ rest, matchesChars pattern rest = true ∧ rest <:+ text := by
  induction text with
  | nil =>
    rw [matchesChars, if_pos rfl, Bool.or_false]
    simp only [List.suffix_nil, exists_eq_right]
  | cons d text ih =>
    rw [matchesChars, if_pos rfl, Bool.or_eq_true, ih]
    simp only [List.suffix_cons_iff, and_or_left, exists_or, exists_eq_right]

/-- Characters that stand for themselves match the texts that begin with them. -/
theorem matchesChars_append_percent_iff {part text : List Char}
    (plain : ∀ c ∈ part, c ≠ '%' ∧ c ≠ '_') (small : ∀ c ∈ part, c.isUpper = false)
    (small' : ∀ c ∈ text, c.isUpper = false) :
    matchesChars (part ++ ['%']) text = true ↔ part <+: text := by
  induction part generalizing text with
  | nil =>
    refine iff_of_true ?_ List.nil_prefix
    exact matchesChars_percent_iff.mpr ⟨[], by simp [matchesChars], List.nil_suffix⟩
  | cons c part ih =>
    obtain ⟨⟨percent, underscore⟩, plain⟩ := List.forall_mem_cons.mp plain
    obtain ⟨here, small⟩ := List.forall_mem_cons.mp small
    cases text with
    | nil => simp [matchesChars, percent]
    | cons d text =>
      obtain ⟨there, small'⟩ := List.forall_mem_cons.mp small'
      rw [List.cons_append, matchesChars, if_neg percent, Bool.and_eq_true,
        decide_eq_false underscore, Bool.false_or, sameLetter_iff here there,
        ih plain small small', List.cons_prefix_cons]

/-- **A part between percent signs matches the texts in which it occurs.** -/
theorem matchesChars_surrounded_iff {part text : List Char}
    (plain : ∀ c ∈ part, c ≠ '%' ∧ c ≠ '_') (small : ∀ c ∈ part, c.isUpper = false)
    (small' : ∀ c ∈ text, c.isUpper = false) :
    matchesChars ('%' :: (part ++ ['%'])) text = true ↔ part <:+: text := by
  rw [matchesChars_percent_iff, List.infix_iff_prefix_suffix]
  refine exists_congr fun rest => and_congr_left fun ends => ?_
  exact matchesChars_append_percent_iff plain small fun c mem => small' c (ends.subset mem)

/-! ### Lowering -/

theorem upToNull_cons {c : Char} (h : c ≠ '\x00') (text : List Char) :
    upToNull (c :: text) = c :: upToNull text :=
  List.takeWhile_cons_of_pos (decide_eq_true h)

theorem upToNull_append {front : List Char} (free : '\x00' ∉ front) (rest : List Char) :
    upToNull (front ++ rest) = front ++ upToNull rest :=
  List.takeWhile_append_of_pos fun _ mem => decide_eq_true fun null => free (null ▸ mem)

/-- A sign that is no letter ends a word, as the end of the text does. -/
theorem startsCased_append {text rest : List Char} (stops : startsCased rest = false) :
    startsCased (text ++ rest) = startsCased text := by
  induction text with
  | nil => exact stops
  | cons c text ih => rw [List.cons_append, startsCased, startsCased, ih]

/-- The percent signs around a part are kept, and make no difference to its lower case. -/
theorem lowerChars_surrounded (part : List Char) :
    lowerChars ('%' :: (part ++ ['%'])) = '%' :: (lowerChars part ++ ['%']) := by
  have stops : startsCased ['%'] = false := by decide +kernel
  have sign (afterCased : Bool) : lowerFrom afterCased ['%'] = ['%'] := by
    cases afterCased <;> decide +kernel
  have inside : lowerFrom false (part ++ ['%']) =
      lowerFrom false part ++ lowerFrom (endsCased false part) ['%'] :=
    Text.lowerFrom_append fun front back _ => by rw [startsCased_append stops]
  have first : lowerFrom false (['%'] ++ (part ++ ['%'])) =
      lowerFrom false ['%'] ++ lowerFrom (endsCased false ['%']) (part ++ ['%']) :=
    Text.lowerFrom_append fun front back split => by
      have sigma : 'Σ' ∈ ['%'] := split ▸ List.mem_append_right _ List.mem_cons_self
      exact absurd sigma (by decide)
  have uncased : endsCased false ['%'] = false := by decide +kernel
  rw [uncased, inside, sign, sign] at first
  exact first

/-- Nothing before a null character is in a word with what follows it. -/
theorem startsCased_upToNull (text : List Char) :
    startsCased (upToNull text) = startsCased text := by
  induction text with
  | nil => rfl
  | cons c text ih =>
    by_cases null : c = '\x00'
    · have other : Text.isCaseIgnorable '\x00' = false := by decide +kernel
      have uncased : Text.isCased '\x00' = false := by decide +kernel
      rw [null, startsCased, other, uncased]
      rfl
    · rw [upToNull_cons null, startsCased, startsCased, ih]

/-- A text may be cut off at its first null character before it is lowered. -/
theorem upToNull_lowerFrom (afterCased : Bool) (text : List Char) :
    upToNull (lowerFrom afterCased text) = lowerFrom afterCased (upToNull text) := by
  induction text generalizing afterCased with
  | nil => rfl
  | cons c text ih =>
    by_cases null : c = '\x00'
    · subst null
      have mapped : lowerChar '\x00' = ['\x00'] := by decide +kernel
      rw [lowerFrom_cons, lowerAt, if_neg (by decide), mapped]
      rfl
    · have free : '\x00' ∉ lowerAt afterCased c text := by
        intro mem
        rcases Text.mem_lowerAt mem with beyond | ⟨same, -⟩
        · exact absurd beyond (by decide)
        · exact null same.symm
      have same : lowerAt afterCased c (upToNull text) = lowerAt afterCased c text :=
        Text.lowerAt_congr fun _ => by rw [startsCased_upToNull]
      rw [upToNull_cons null, lowerFrom_cons, lowerFrom_cons, same, upToNull_append free, ih]

/-- **A part between percent signs is found where its lower case occurs in that of the text**, up to
the first null character. -/
theorem matchesText_surrounded_iff {part : String}
    (plain : ∀ c ∈ part.toList, c ≠ '%' ∧ c ≠ '_' ∧ c ≠ '\x00') (text : List Char) :
    matchesText (lowerChars (surrounded part).toList) (lowerChars text) = true ↔
      lowerChars part.toList <:+: lowerChars (upToNull text) := by
  let lowered := lowerChars part.toList
  -- Nothing is lowered to a sign that stands for something else.
  have kept {c : Char} (mem : c ∈ lowered) : c ≠ '%' ∧ c ≠ '_' ∧ c ≠ '\x00' := by
    rcases Text.mem_lowerFrom mem with beyond | ⟨same, -⟩
    · refine ⟨?_, ?_, ?_⟩ <;> (rintro rfl; exact absurd beyond (by decide))
    · exact plain c same
  have whole : upToNull ('%' :: (lowered ++ ['%'])) = '%' :: (lowered ++ ['%']) := by
    refine List.takeWhile_eq_self_iff.mpr fun c mem => decide_eq_true ?_
    rcases List.mem_cons.mp mem with rfl | inside
    · decide
    · rcases List.mem_append.mp inside with here | last
      · exact (kept here).2.2
      · rw [List.mem_singleton.mp last]
        decide
  have cut : upToNull (lowerChars text) = lowerChars (upToNull text) :=
    upToNull_lowerFrom false text
  rw [matchesText, toList_surrounded, lowerChars_surrounded, whole, cut]
  exact matchesChars_surrounded_iff (fun c mem => ⟨(kept mem).1, (kept mem).2.1⟩)
    (fun c => Text.isUpper_of_mem_lowerFrom) fun c => Text.isUpper_of_mem_lowerFrom

end RowQuery.Pattern
