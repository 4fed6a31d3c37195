import Mathlib
import RowQuery.Text.Lower

/-!
# Lower case of a part

What the lower case of a text has to do with the lower case of its parts. Characters are lowered one
by one, but for the capital sigma, which becomes a final one where it ends a word; and a part of a
text may end in the middle of a word.

* `Text.mem_lowerFrom` — a character of a lowered text is beyond the capital letters of ASCII, or
  stands in the text itself.
* `Text.Steady` says of a part of a text that its capital sigmas end a word in the text where they
  end one in the part by itself.
* `Text.lowerChars_infix` — the lower case of a steady part is a part of the lower case of the text.
-/

namespace RowQuery.Text

/-! ### Single characters -/

/-- Mapped code points are those of characters, and come after the capital letters of ASCII. -/
theorem shifted_of_mem_lowerRuns : ∀ run ∈ lowerRuns, 97 ≤ (run.first : Int) + run.shift ∧
    ((run.last : Int) + run.shift < 0xD800 ∨
      0xE000 ≤ (run.first : Int) + run.shift ∧ (run.last : Int) + run.shift < 0x110000) := by
  decide +kernel

theorem exists_run_of_lowerShift? {code : Nat} {shift : Int} (h : lowerShift? code = some shift) :
    ∃ run ∈ lowerRuns, run.shift = shift ∧ run.first ≤ code ∧ code ≤ run.last := by
  obtain ⟨run, found, rfl⟩ := Option.map_eq_some_iff.mp h
  have holds := List.find?_some found
  simp only [CaseRun.holds, Bool.and_eq_true, decide_eq_true_eq] at holds
  exact ⟨run, List.mem_of_find?_eq_some found, rfl, holds.1⟩

/-- A character that is mapped to another one is mapped beyond the capital letters of ASCII. -/
theorem le_toNat_shifted {code : Nat} {shift : Int} (h : lowerShift? code = some shift) :
    97 ≤ (Char.ofNat (code + shift).toNat).toNat := by
  obtain ⟨run, mem, rfl, first, last⟩ := exists_run_of_lowerShift? h
  obtain ⟨small, valid⟩ := shifted_of_mem_lowerRuns run mem
  have scalar : (code + run.shift).toNat.isValidChar := by
    rcases valid with low | ⟨high, bound⟩
    · exact .inl (by omega)
    · exact .inr (by omega)
  have code_eq : (Char.ofNat (code + run.shift).toNat).toNat = (code + run.shift).toNat := by
    rw [Char.ofNat, dif_pos scalar]
    rfl
  rw [code_eq]
  omega

theorem isUpper_iff {c : Char} : c.isUpper = true ↔ 65 ≤ c.toNat ∧ c.toNat ≤ 90 := by
  simp [Char.isUpper, UInt32.le_iff_toNat_le, ← Char.toNat_val]

/-- Capital letters of ASCII are mapped. -/
theorem lowerShift?_isSome_of_isUpper {c : Char} (capital : c.isUpper = true) :
    (lowerShift? c.toNat).isSome = true := by
  obtain ⟨first, last⟩ := isUpper_iff.mp capital
  have latin : CaseRun.mk 0x41 0x5A 1 32 ∈ lowerRuns := List.mem_cons_self
  rw [lowerShift?, Option.isSome_map, List.find?_isSome]
  exact ⟨_, latin, by simp [CaseRun.holds, first, last, Nat.mod_one]⟩

/-- A character is lowered beyond the capital letters of ASCII, or to itself and is none of them. -/
theorem mem_lowerChar {c d : Char} (h : d ∈ lowerChar c) :
    97 ≤ d.toNat ∨ d = c ∧ c.isUpper = false := by
  rw [lowerChar] at h
  split at h
  · refine .inl ?_
    rcases List.mem_pair.mp h with rfl | rfl <;> decide
  · split at h
    · next shift found =>
      rw [List.mem_singleton] at h
      exact .inl (h ▸ le_toNat_shifted found)
    · next unmapped =>
      refine .inr ⟨List.mem_singleton.mp h, ?_⟩
      by_contra capital
      have mapped := lowerShift?_isSome_of_isUpper (Bool.not_eq_false _ ▸ capital)
      rw [unmapped] at mapped
      cases mapped

/-! ### Characters in a text -/

/-- Whether a cased character stands before what follows a character. -/
def casedAfter (afterCased : Bool) (c : Char) : Bool :=
  if isCaseIgnorable c then afterCased else isCased c

/-- Whether a cased character stands before what follows a text. -/
def endsCased (afterCased : Bool) (text : List Char) : Bool := text.foldl casedAfter afterCased

/-- The lower case of a character in front of a text. -/
def lowerAt (afterCased : Bool) (c : Char) (rest : List Char) : List Char :=
  if c = 'Σ' then [if afterCased && !startsCased rest then 'ς' else 'σ'] else lowerChar c

theorem lowerFrom_cons (afterCased : Bool) (c : Char) (rest : List Char) :
    lowerFrom afterCased (c :: rest) =
      lowerAt afterCased c rest ++ lowerFrom (casedAfter afterCased c) rest := rfl

/-- Only of a capital sigma the lower case depends on what stands around it. -/
theorem lowerAt_congr {inside alone : Bool} {c : Char} {rest other : List Char}
    (same : c = 'Σ' → (inside && !startsCased rest) = (alone && !startsCased other)) :
    lowerAt inside c rest = lowerAt alone c other := by
  rw [lowerAt, lowerAt]
  by_cases sigma : c = 'Σ'
  · rw [if_pos sigma, if_pos sigma, same sigma]
  · rw [if_neg sigma, if_neg sigma]

/-- Wherever it stands, a character is lowered beyond the capital letters of ASCII, or to itself and
is none of them. -/
theorem mem_lowerAt {afterCased : Bool} {c d : Char} {rest : List Char}
    (h : d ∈ lowerAt afterCased c rest) : 97 ≤ d.toNat ∨ d = c ∧ c.isUpper = false := by
  rw [lowerAt] at h
  split at h
  · refine .inl ?_
    split at h <;> rw [List.mem_singleton.mp h] <;> decide
  · exact mem_lowerChar h

/-- A character of a lowered text is beyond the capital letters of ASCII, or stands in the text
itself and is none of them. -/
theorem mem_lowerFrom {afterCased : Bool} {text : List Char} {d : Char}
    (h : d ∈ lowerFrom afterCased text) : 97 ≤ d.toNat ∨ d ∈ text ∧ d.isUpper = false := by
  induction text generalizing afterCased with
  | nil => cases h
  | cons c rest ih =>
    rcases List.mem_append.mp h with here | later
    · rcases mem_lowerAt here with beyond | ⟨rfl, small⟩
      · exact .inl beyond
      · exact .inr ⟨List.mem_cons_self, small⟩
    · rcases ih later with beyond | ⟨mem, small⟩
      · exact .inl beyond
      · exact .inr ⟨List.mem_cons_of_mem _ mem, small⟩

/-- There are no capital letters of ASCII in a lowered text. -/
theorem isUpper_of_mem_lowerFrom {afterCased : Bool} {text : List Char} {d : Char}
    (h : d ∈ lowerFrom afterCased text) : d.isUpper = false := by
  rcases mem_lowerFrom h with beyond | ⟨-, small⟩
  · refine Bool.eq_false_iff.mpr fun capital => ?_
    have last := (isUpper_iff.mp capital).2
    omega
  · exact small

/-- What comes before a text in the lower case of both does not change but for the first flag. -/
theorem lowerFrom_suffix (afterCased : Bool) (before text : List Char) :
    lowerFrom (endsCased afterCased before) text <:+ lowerFrom afterCased (before ++ text) := by
  induction before generalizing afterCased with
  | nil => exact List.suffix_rfl
  | cons c before ih => exact (ih (casedAfter afterCased c)).trans (List.suffix_append _ _)

/-- A part at the beginning is lowered as by itself, if the same of its sigmas end a word. -/
theorem lowerFrom_append {inside alone : Bool} {part after : List Char}
    (same : ∀ front back, part = front ++ 'Σ' :: back →
      (endsCased inside front && !startsCased (back ++ after)) =
        (endsCased alone front && !startsCased back)) :
    lowerFrom inside (part ++ after) =
      lowerFrom alone part ++ lowerFrom (endsCased inside part) after := by
  induction part generalizing inside alone with
  | nil => rfl
  | cons c part ih =>
    have here : lowerAt inside c (part ++ after) = lowerAt alone c part :=
      lowerAt_congr fun sigma => same [] part (congrArg (· :: part) sigma)
    have rest : lowerFrom (casedAfter inside c) (part ++ after) =
        lowerFrom (casedAfter alone c) part ++
          lowerFrom (endsCased (casedAfter inside c) part) after :=
      ih fun front back split => same (c :: front) back (congrArg (c :: ·) split)
    rw [List.cons_append, lowerFrom_cons, lowerFrom_cons, here, rest, List.append_assoc]
    rfl

/-! ### Parts of a text -/

/-- Whether a sigma between two texts ends a word. -/
def endsWord (before after : List Char) : Bool := endsCased false before && !startsCased after

/-- Of a part of a text, the capital sigmas end a word in the text where they end one in the part by
itself. -/
def Steady (before part after : List Char) : Prop :=
  ∀ front back, part = front ++ 'Σ' :: back →
    endsWord (before ++ front) (back ++ after) = endsWord front back

/-- A part without capital sigmas is steady wherever it stands. -/
theorem steady_of_not_mem {before part after : List Char} (h : 'Σ' ∉ part) :
    Steady before part after := by
  rintro front back rfl
  exact absurd (List.mem_append_right _ List.mem_cons_self) h

/-- **The lower case of a steady part is a part of the lower case.** -/
theorem lowerChars_infix {before part after : List Char} (steady : Steady before part after) :
    lowerChars part <:+: lowerChars (before ++ part ++ after) := by
  have inside : lowerFrom (endsCased false before) (part ++ after) = _ :=
    lowerFrom_append fun front back split => by
      have same := steady front back split
      rw [endsWord, endsWord, endsCased, List.foldl_append] at same
      exact same
  have tail := lowerFrom_suffix false before (part ++ after)
  rw [inside] at tail
  rw [List.append_assoc]
  exact (List.prefix_append _ _).isInfix.trans tail.isInfix

end RowQuery.Text
