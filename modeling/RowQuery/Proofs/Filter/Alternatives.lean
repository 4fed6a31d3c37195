import RowQuery.Filter.Alternatives
import Mathlib.Data.List.DropRight

/-!
# Alternatives that are written and read

A text of alternatives is read segment by segment, and what is read can be written again.

* `Text.splitOn_eq` and `Text.joinWith_eq` — cutting and joining are those of lists, so that one
  undoes the other.
* `Text.Tight` are the texts without blanks at their ends; `Text.trim` leaves such a text.
* `Alternative.Admissible` are the alternatives that some text states; `Alternatives.States` says
  with which segments a text states them.
* `Alternatives.reads_what_is_stated` — reading undoes writing, exactly on the admissible
  alternatives.
-/

namespace RowQuery

/-! ### Cutting and joining -/

namespace Text

theorem splitOn_eq (separator : Char) (text : List Char) :
    splitOn separator text = text.splitOn separator := by
  induction text with
  | nil => rfl
  | cons c rest ih =>
    have step : (c :: rest).splitOn separator = if c == separator then [] :: rest.splitOn separator
        else (rest.splitOn separator).modifyHead (c :: ·) := List.splitOnP_cons_eq_if_modifyHead ..
    rw [splitOn, ih, step]
    by_cases cut : c = separator
    · rw [if_pos cut, if_pos (beq_iff_eq.mpr cut)]
    · rw [if_neg cut, if_neg (mt beq_iff_eq.mp cut)]
      cases pieces : rest.splitOn separator with
      | nil => exact absurd pieces (List.splitOn_ne_nil _ _)
      | cons piece pieces => rfl

theorem joinWith_eq (separator : List Char) (pieces : List (List Char)) :
    joinWith separator pieces = separator.intercalate pieces := by
  induction pieces with
  | nil => rfl
  | cons piece rest ih =>
    cases rest with
    | nil => simp [joinWith]
    | cons next rest =>
      rw [joinWith, ih]
      · simp
      · exact List.cons_ne_nil _ _

/-- No piece has the separator in it. -/
theorem not_mem_of_mem_splitOn {separator : Char} {text piece : List Char}
    (mem : piece ∈ splitOn separator text) : separator ∉ piece := by
  fun_induction splitOn separator text generalizing piece with
  | case1 =>
    rw [List.mem_singleton.mp mem]
    exact List.not_mem_nil
  | case2 rest ih =>
    rcases List.mem_cons.mp mem with rfl | mem
    · exact List.not_mem_nil
    · exact ih mem
  | case3 c rest differs none ih => exact absurd none (splitOn_ne_nil separator rest)
  | case4 c rest differs first others cut ih =>
    rw [cut] at ih
    rcases List.mem_cons.mp mem with rfl | mem
    · simpa [Ne.symm differs] using ih List.mem_cons_self
    · exact ih (List.mem_cons_of_mem _ mem)

theorem joinWith_splitOn (separator : Char) (text : List Char) :
    joinWith [separator] (splitOn separator text) = text := by
  rw [joinWith_eq, splitOn_eq, List.intercalate_splitOn]

/-- What is joined of the later pieces stands at the end. -/
theorem joinWith_suffix (separator : List Char) (piece : List Char) (rest : List (List Char)) :
    joinWith separator rest <:+ joinWith separator (piece :: rest) := by
  cases rest with
  | nil => exact List.nil_suffix
  | cons next rest =>
    rw [joinWith.eq_3 _ _ _ (List.cons_ne_nil _ _)]
    exact List.suffix_append _ _

/-- The first piece stands at the beginning. -/
theorem prefix_joinWith (separator : List Char) (piece : List Char) (rest : List (List Char)) :
    piece <+: joinWith separator (piece :: rest) := by
  cases rest with
  | nil => exact List.prefix_rfl
  | cons next rest =>
    rw [joinWith.eq_3 _ _ _ (List.cons_ne_nil _ _), List.append_assoc]
    exact List.prefix_append _ _

/-! ### Blanks at the ends -/

/-- A text that neither begins nor ends with a blank. -/
def Tight (text : List Char) : Prop :=
  (∀ c ∈ text.head?, isBlank c = false) ∧ (∀ c ∈ text.getLast?, isBlank c = false)

/-- A text of blanks only. -/
def Blank (text : List Char) : Prop := ∀ c ∈ text, isBlank c = true

instance (text : List Char) : Decidable (Blank text) := List.decidableBAll (isBlank · = true) text

theorem trim_of_blank {text : List Char} (blank : Blank text) : trim text = [] := by
  rw [trim, trimLeft, List.dropWhile_eq_nil_iff.mpr blank]
  rfl

/-- Blanks around a tight text are taken off, and nothing else. -/
theorem Tight.trim_eq {text before after : List Char} (tight : Tight text)
    (first : Blank before) (last : Blank after) : trim (before ++ text ++ after) = text := by
  obtain ⟨begins, ends⟩ := tight
  rw [List.append_assoc, trim, trimLeft, List.dropWhile_append_of_pos first]
  cases text with
  | nil => exact trim_of_blank last
  | cons c rest =>
    have solid : isBlank c = false := begins c rfl
    have stays : (c :: rest ++ after).dropWhile isBlank = c :: rest ++ after := by
      simp [solid]
    have last' : ∀ c ∈ after.reverse, isBlank c = true := fun c mem =>
      last c (List.mem_reverse.mp mem)
    rw [stays, trimRight, List.reverse_append, List.dropWhile_append_of_pos last']
    -- From the other end, the text begins with a character that is no blank as well.
    show (c :: rest).rdropWhile isBlank = c :: rest
    rw [List.rdropWhile_eq_self_iff]
    intro nonempty blank
    rw [ends _ (List.getLast?_eq_getLast_of_ne_nil nonempty)] at blank
    cases blank

theorem trim_isLeading (text : List Char) : trim text <+: trimLeft text :=
  List.rdropWhile_prefix isBlank (trimLeft text)

/-- What has been trimmed is part of the text. -/
theorem mem_of_mem_trim {c : Char} {text : List Char} (mem : c ∈ trim text) : c ∈ text :=
  (List.dropWhile_sublist _).subset ((trim_isLeading text).subset mem)

theorem head?_of_leading {c : Char} {part text : List Char} (begins : part <+: text)
    (first : c ∈ part.head?) : c ∈ text.head? := by
  obtain ⟨rest, rfl⟩ := begins
  rw [List.head?_append, Option.mem_def.mp first]
  rfl

theorem getLast?_of_trailing {c : Char} {part text : List Char} (ends : part <:+ text)
    (last : c ∈ part.getLast?) : c ∈ text.getLast? := by
  obtain ⟨rest, rfl⟩ := ends
  rw [List.getLast?_append, Option.mem_def.mp last]
  rfl

theorem tight_trim (text : List Char) : Tight (trim text) := by
  constructor
  · intro c first
    have begins := head?_of_leading (trim_isLeading text) first
    have solid := List.head?_dropWhile_not isBlank text
    rw [show (text.dropWhile isBlank).head? = some c from begins] at solid
    exact solid
  · intro c last
    obtain ⟨nonempty, rfl⟩ := List.mem_getLast?_eq_getLast last
    exact Bool.eq_false_iff.mpr (List.rdropWhile_last_not isBlank _ nonempty)

end Text

/-! ### Segments -/

/-- An alternative that some text states: no point and no comma can stand in its column and no comma
in its value, and a blank before the one or after the other would be taken off. -/
structure Alternative.Admissible (alternative : Alternative) : Prop where
  column_point : '.' ∉ alternative.column.toList
  column_comma : ',' ∉ alternative.column.toList
  column_begins : ∀ c ∈ alternative.column.toList.head?, Text.isBlank c = false
  value_comma : ',' ∉ alternative.value.toList
  value_ends : ∀ c ∈ alternative.value.toList.getLast?, Text.isBlank c = false

theorem Comparison.ofWord_word (comparison : Comparison) :
    ofWord comparison.word.toList = comparison := by
  cases comparison <;> decide

theorem Comparison.letters (comparison : Comparison) :
    '.' ∉ comparison.word.toList ∧ ',' ∉ comparison.word.toList := by
  cases comparison <;> decide

namespace Alternatives

open Text (Tight Blank)

theorem ofSegment_segment {alternative : Alternative} (admissible : alternative.Admissible) :
    ofSegment (segment alternative) = alternative := by
  obtain ⟨column, comparison, value⟩ := alternative
  have cut : Text.splitOn '.' (segment ⟨column, comparison, value⟩) =
      column.toList :: comparison.word.toList :: Text.splitOn '.' value.toList := by
    rw [segment, Text.splitOn_eq, Text.splitOn_eq, List.append_assoc, List.cons_append,
      List.splitOn_append_cons_self_of_not_mem admissible.column_point,
      List.splitOn_append_cons_self_of_not_mem comparison.letters.1]
  -- The points of the value are put back where they were.
  rw [ofSegment, cut]
  simp only [Text.joinWith_splitOn, Comparison.ofWord_word, String.ofList_toList]

theorem tight_segment {alternative : Alternative} (admissible : alternative.Admissible) :
    Tight (segment alternative) := by
  constructor
  · intro c first
    cases column : alternative.column.toList with
    | nil =>
      rw [segment, column] at first
      cases first
      rfl
    | cons d rest =>
      rw [segment, column] at first
      cases first
      exact admissible.column_begins _ (by rw [column]; rfl)
  · intro c last
    rw [segment, List.getLast?_append, List.getLast?_cons] at last
    cases value : alternative.value.toList.getLast? with
    | none =>
      rw [value] at last
      cases last
      rfl
    | some d =>
      rw [value] at last
      cases last
      exact admissible.value_ends d value

theorem comma_segment {alternative : Alternative} (admissible : alternative.Admissible) :
    ',' ∉ segment alternative := by
  simp [segment, admissible.column_comma, admissible.value_comma,
    alternative.comparison.letters.2]

/-- What a tight segment without a comma states is admissible, whatever is missing in it. -/
theorem admissible_ofSegment {text : List Char} (tight : Tight text) (whole : ',' ∉ text) :
    (ofSegment text).Admissible := by
  have joined := Text.joinWith_splitOn '.' text
  have free {piece : List Char} (mem : piece ∈ Text.splitOn '.' text) : '.' ∉ piece :=
    Text.not_mem_of_mem_splitOn mem
  unfold ofSegment
  split
  · exact ⟨by simp, by simp, by simp, by simp, by simp⟩
  · next column cut =>
    rw [cut] at joined free
    obtain rfl : column = text := joined
    refine ⟨?_, ?_, ?_, by simp, by simp⟩ <;> simp only [String.toList_ofList]
    · exact free List.mem_cons_self
    · exact whole
    · exact tight.1
  · next column word value cut =>
    rw [cut] at joined free
    have begins : column <+: text := joined ▸ Text.prefix_joinWith _ _ _
    have ends : Text.joinWith ['.'] value <:+ text :=
      joined ▸ (Text.joinWith_suffix _ _ _).trans (Text.joinWith_suffix _ _ _)
    refine ⟨?_, ?_, ?_, ?_, ?_⟩ <;> simp only [String.toList_ofList]
    · exact free List.mem_cons_self
    · exact fun comma => whole (begins.subset comma)
    · exact fun c first => tight.1 c (Text.head?_of_leading begins first)
    · exact fun comma => whole (ends.subset comma)
    · exact fun c last => tight.2 c (Text.getLast?_of_trailing ends last)

/-! ### Texts -/

/-- The segments of a text that states alternatives: one for each of them, with blanks around it,
and blank segments anywhere. -/
inductive States : List (List Char) → List Alternative → Prop where
  | nil : States [] []
  | blank {blanks : List Char} {segments : List (List Char)} {alternatives : List Alternative}
    (empty : Blank blanks) (rest : States segments alternatives) :
    States (blanks :: segments) alternatives
  | alternative {before after : List Char} {segments : List (List Char)}
    {alternatives : List Alternative} (alternative : Alternative) (first : Blank before)
    (last : Blank after) (rest : States segments alternatives) :
    States ((before ++ segment alternative ++ after) :: segments) (alternative :: alternatives)

theorem states_segments (alternatives : List Alternative) :
    States (alternatives.map segment) alternatives := by
  have none : Blank [] := fun _ mem => by cases mem
  induction alternatives with
  | nil => exact .nil
  | cons alternative rest ih =>
    have stated := ih.alternative alternative none none
    rwa [List.nil_append, List.append_nil] at stated

theorem comma_not_blank {blanks : List Char} (blank : Blank blanks) : ',' ∉ blanks := by
  intro comma
  have := blank ',' comma
  revert this
  decide

namespace States

variable {segments : List (List Char)} {alternatives : List Alternative}
  (states : States segments alternatives)
  (admissible : ∀ alternative ∈ alternatives, alternative.Admissible)

include states admissible

theorem comma : ∀ segment ∈ segments, ',' ∉ segment := by
  induction states with
  | nil => exact fun _ mem => by cases mem
  | blank empty _ ih =>
    exact List.forall_mem_cons.mpr ⟨comma_not_blank empty, ih admissible⟩
  | alternative alternative first last _ ih =>
    obtain ⟨here, later⟩ := List.forall_mem_cons.mp admissible
    refine List.forall_mem_cons.mpr ⟨?_, ih later⟩
    simp [comma_not_blank first, comma_not_blank last, comma_segment here]

theorem read : ((segments.map Text.trim).filter (· ≠ [])).map ofSegment = alternatives := by
  induction states with
  | nil => rfl
  | blank empty _ ih =>
    rw [List.map_cons, Text.trim_of_blank empty]
    exact ih admissible
  | alternative alternative first last _ ih =>
    obtain ⟨here, later⟩ := List.forall_mem_cons.mp admissible
    have kept : segment alternative ≠ [] := by simp [segment]
    rw [List.map_cons, (tight_segment here).trim_eq first last,
      List.filter_cons_of_pos (by simpa using kept), List.map_cons, ofSegment_segment here,
      ih later]

theorem parse_eq : parse (String.ofList (Text.joinWith [','] segments)) = alternatives := by
  rw [parse, String.toList_ofList, parseChars]
  cases segments with
  | nil =>
    cases states
    rfl
  | cons segment rest =>
    rw [Text.joinWith_eq, Text.splitOn_eq,
      List.splitOn_intercalate ',' (states.comma admissible) (List.cons_ne_nil _ _)]
    exact states.read admissible

end States

theorem parse_print {alternatives : List Alternative}
    (admissible : ∀ alternative ∈ alternatives, alternative.Admissible) :
    parse (print alternatives) = alternatives :=
  (states_segments alternatives).parse_eq admissible

theorem admissible_of_mem_parse {text : String} :
    ∀ alternative ∈ parse text, alternative.Admissible := by
  intro alternative mem
  obtain ⟨trimmed, kept, rfl⟩ := List.mem_map.mp mem
  obtain ⟨segment, listed, rfl⟩ := List.mem_map.mp (List.mem_of_mem_filter kept)
  refine admissible_ofSegment (Text.tight_trim segment) fun comma => ?_
  exact Text.not_mem_of_mem_splitOn listed (Text.mem_of_mem_trim comma)

/-- Two texts with a comma between them state what they state one after the other. -/
theorem parse_append (text other : String) :
    parse (text ++ "," ++ other) = parse text ++ parse other := by
  have chars : (text ++ "," ++ other).toList = text.toList ++ ',' :: other.toList := by
    simp
  rw [parse, chars, parseChars, Text.splitOn_eq, List.splitOn_append_cons_self, ← Text.splitOn_eq,
    ← Text.splitOn_eq, List.map_append, List.filter_append, List.map_append]
  rfl

/-- **Reading undoes writing, exactly on admissible alternatives.** Admissible alternatives are read
as they were written, also with blanks around segments and blank segments in between. Whatever is
read of a text is admissible, and is read again once it is written; so these are the alternatives
that are ever read. Texts that are joined by a comma are read one after the other. -/
theorem reads_what_is_stated :
    (∀ alternatives : List Alternative, (∀ alternative ∈ alternatives, alternative.Admissible) →
      parse (print alternatives) = alternatives ∧
        ∀ segments, States segments alternatives →
          parse (String.ofList (Text.joinWith [','] segments)) = alternatives) ∧
    (∀ text, (∀ alternative ∈ parse text, alternative.Admissible) ∧
      parse (print (parse text)) = parse text) ∧
    (∀ alternatives : List Alternative, (∃ text, parse text = alternatives) ↔
      ∀ alternative ∈ alternatives, alternative.Admissible) ∧
    (∀ text other, parse (text ++ "," ++ other) = parse text ++ parse other) := by
  refine ⟨fun alternatives admissible => ?_, fun text => ?_, fun alternatives => ?_, parse_append⟩
  · exact ⟨parse_print admissible, fun segments states => states.parse_eq admissible⟩
  · exact ⟨admissible_of_mem_parse, parse_print admissible_of_mem_parse⟩
  · constructor
    · rintro ⟨text, rfl⟩
      exact admissible_of_mem_parse
    · exact fun admissible => ⟨print alternatives, parse_print admissible⟩

/-- An alternative without a column and a value. -/
def emptyAlternative : Alternative := ⟨"", .ge, ""⟩

/-- An alternative with blanks and points where they may be. -/
def looseAlternative : Alternative := ⟨"e mail ", .ne, " a.b@x"⟩

/-- Segments that state the two, with blanks around the first and a blank segment after it. -/
def looseSegments : List (List Char) :=
  [['\t'] ++ segment emptyAlternative ++ ['\u00a0'], [' '],
    ['\n'] ++ segment looseAlternative ++ [' ']]

theorem reads_what_is_stated_loose :
    (∀ alternative ∈ [emptyAlternative, looseAlternative], alternative.Admissible) ∧
      States looseSegments [emptyAlternative, looseAlternative] ∧
        parse "\t.gte.\u00a0, ,\ne mail .neq. a.b@x " = [emptyAlternative, looseAlternative] := by
  have admissible : ∀ alternative ∈ [emptyAlternative, looseAlternative],
      alternative.Admissible := by
    intro alternative mem
    rcases List.mem_pair.mp mem with rfl | rfl
    · exact ⟨by decide, by decide, by rintro _ ⟨⟩, by decide, by rintro _ ⟨⟩⟩
    · refine ⟨by decide, by decide, ?_, by decide, ?_⟩
      · rintro _ ⟨⟩
        rfl
      · rintro _ ⟨⟩
        rfl
  have states : States looseSegments [emptyAlternative, looseAlternative] := by
    refine .alternative _ (by decide) (by decide) (.blank (by decide) ?_)
    exact .alternative _ (by decide) (by decide) .nil
  have written : "\t.gte.\u00a0, ,\ne mail .neq. a.b@x " =
      String.ofList (Text.joinWith [','] looseSegments) := by decide +kernel
  rw [written]
  exact ⟨admissible, states, (reads_what_is_stated.1 _ admissible).2 _ states⟩

end Alternatives

end RowQuery
