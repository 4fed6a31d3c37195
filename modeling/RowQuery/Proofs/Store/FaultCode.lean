import RowQuery.Store.Fault

/-!
# Codes of faults

The code of a fault is read off its text, so what is quoted in a text counts as much as its
wording.

* `Failure.code_ofFault` and `Failure.document_ofFault` — both ways to a failure lead to the code of
  the fault, and to the same document.
* `StoreFault.code?_ne_of_letter` and `StoreFault.code?_ne_of_marker` — two ways in which a wording
  rules a code out: by a letter that it lacks, and by an earlier marker with which it begins.
* `StoreFault.code?_ne_undefined` — of the faults of the store, only those that quote a name have
  the code of an unknown column.
-/

namespace RowQuery

namespace Text

variable {part text : List Char}

/-- A text has every character of its parts. -/
theorem mem_of_contains (h : contains part text = true) {c : Char} (mem : c ∈ part) :
    c ∈ text := by
  induction text with
  | nil =>
    rw [contains, List.isEmpty_iff] at h
    exact h ▸ mem
  | cons d rest ih =>
    rw [contains, Bool.or_eq_true] at h
    rcases h with front | later
    · exact (List.isPrefixOf_iff_prefix.mp front).subset mem
    · exact List.mem_cons_of_mem _ (ih later)

theorem contains_append (part rest : List Char) : contains part (part ++ rest) = true := by
  cases part with
  | nil => cases rest <;> rfl
  | cons c part =>
    show ((c :: part).isPrefixOf ((c :: part) ++ rest) || _) = true
    rw [List.isPrefixOf_iff_prefix.mpr (List.prefix_append _ _)]
    rfl

end Text

namespace Fault

/-- The code of an unknown column. -/
def undefinedColumn : String := "42703"

/-- A text without a letter that all markers of a code have does not have the code. -/
theorem code?_ne_of_not_mem {fault : Fault} {code : String} {c : Char}
    (missing : c ∉ fault.text.toList)
    (telling : ∀ marker ∈ markers, marker.2 = code → c ∈ marker.1.toList) :
    fault.code? ≠ some code := by
  intro h
  obtain ⟨marker, found, same⟩ := Option.map_eq_some_iff.mp h
  have mentioned : mentions fault.text marker.1 = true := by simpa using List.find?_some found
  have mem := telling marker (List.mem_of_find?_eq_some found) same
  exact missing (Text.mem_of_contains mentioned mem)

/-- A text with a marker has the code of the marker or of one before it. -/
theorem code?_of_mentions {fault : Fault} {n : Nat} {marker : String × String}
    (listed : markers[n]? = some marker) (mentioned : mentions fault.text marker.1 = true) :
    ∃ other ∈ markers.take (n + 1), fault.code? = some other.2 := by
  have mem : marker ∈ markers.take (n + 1) := by
    rw [List.mem_take_iff_getElem]
    obtain ⟨bound, rfl⟩ := List.getElem?_eq_some_iff.mp listed
    exact ⟨n, by omega, rfl⟩
  -- The search for a marker ends here at the latest.
  have here : ((markers.take (n + 1)).find? fun other => mentions fault.text other.1).isSome :=
    List.find?_isSome.mpr ⟨marker, mem, mentioned⟩
  obtain ⟨other, found⟩ := Option.isSome_iff_exists.mp here
  refine ⟨other, List.mem_of_find?_eq_some found, ?_⟩
  rw [code?, ← List.take_append_drop (n + 1) markers, List.find?_append, found]
  rfl

/-- The text of a fault with a message is the message. -/
theorem text_of_mem {fault : Fault} {c : Char} (h : c ∈ fault.message.toList) :
    fault.text = fault.message := by
  refine if_neg fun empty => ?_
  rw [empty] at h
  exact List.not_mem_nil h

end Fault

/-- A message that tells a repeated value is the text of its fault. -/
theorem Fault.text_of_isUniqueViolation {fault : Fault} (h : fault.isUniqueViolation = true) :
    fault.text = fault.message :=
  text_of_mem (c := 'U') (Text.mem_of_contains h (by decide))

/-- Both ways from a fault to a failure lead to the code of the fault. -/
theorem Failure.code_ofFault (fault : Fault) : (Failure.ofFault fault).code = fault.code? := by
  by_cases unique : fault.isUniqueViolation
  · -- The marker is the first of all, so no other code can come before its code.
    have mentioned : Fault.mentions fault.text Fault.uniqueMarker = true :=
      Fault.text_of_isUniqueViolation unique ▸ unique
    have listed : Fault.markers[0]? = some (Fault.uniqueMarker, "23505") := rfl
    obtain ⟨other, mem, code⟩ := Fault.code?_of_mentions listed mentioned
    rw [Failure.ofFault, if_pos unique, code, List.mem_singleton.mp mem]
    rfl
  · rw [Failure.ofFault, if_neg unique]
    rfl

/-- Both ways lead to the text of the fault. -/
theorem Failure.message_ofFault (fault : Fault) : (Failure.ofFault fault).message = fault.text := by
  by_cases unique : fault.isUniqueViolation
  · rw [Failure.ofFault, if_pos unique]
    exact (Fault.text_of_isUniqueViolation unique).symm
  · rw [Failure.ofFault, if_neg unique]
    rfl

/-- Both ways lead to the same document. -/
theorem Failure.document_ofFault (fault : Fault) :
    (Failure.ofFault fault).document = (Failure.engine fault).document := by
  have code : (Failure.ofFault fault).code = (Failure.engine fault).code := code_ofFault fault
  have message : (Failure.ofFault fault).message = (Failure.engine fault).message :=
    message_ofFault fault
  have details : (Failure.ofFault fault).details = (Failure.engine fault).details := by
    rw [Failure.ofFault]
    split <;> rfl
  rw [document, document, message, code, details]

namespace StoreFault

open Fault

/-- Whether the wording of a fault may quote a name from a statement and nothing before it tells
another fault. Of the kinds of values only those of documents are never bound. -/
def QuotesName : StoreFault → Prop
  | readOnly _ | noColumn _ | noInsertColumn _ _ => True
  | unsupported _ kind => kind ≠ "list" ∧ kind ≠ "dict"
  | _ => False

/-- A wording without a letter that all markers of a code have does not have the code. -/
theorem code?_ne_of_letter {f : StoreFault} {code : String} {c d : Char}
    (nonempty : d ∈ f.message.toList) (missing : c ∉ f.message.toList)
    (telling : ∀ marker ∈ markers, marker.2 = code → c ∈ marker.1.toList) :
    f.fault.code? ≠ some code := by
  have text : f.fault.text = f.message := text_of_mem nonempty
  exact code?_ne_of_not_mem (text ▸ missing) telling

/-- A wording that begins with an earlier marker has an earlier code, whatever it quotes. -/
theorem code?_ne_of_marker {f : StoreFault} {front rest : String} {n : Nat}
    {marker : String × String} (message : f.message = front ++ rest)
    (listed : markers[n]? = some marker) (begins : marker.1.toList <+: front.toList) {c : Char}
    (nonempty : c ∈ front.toList) {code : String}
    (earlier : ∀ other ∈ markers.take (n + 1), other.2 ≠ code) : f.fault.code? ≠ some code := by
  obtain ⟨between, front_eq⟩ := begins
  have text : f.fault.text = f.message := by
    refine text_of_mem (c := c) ?_
    show c ∈ f.message.toList
    rw [message, String.toList_append]
    exact List.mem_append_left _ nonempty
  have mentioned : mentions f.fault.text marker.1 = true := by
    rw [text, mentions, message, String.toList_append, ← front_eq, List.append_assoc]
    exact Text.contains_append _ _
  obtain ⟨other, mem, found⟩ := code?_of_mentions listed mentioned
  rw [found, Ne, Option.some_inj]
  exact earlier other mem

theorem not_mem_toString {c : Char} (h : c.isDigit = false) (n : Nat) :
    c ∉ (toString n).toList := by
  intro mem
  rw [Nat.toString_eq_ofList_toDigits, String.toList_ofList] at mem
  have digit := Nat.isDigit_of_mem_toDigits (by decide) (by decide) mem
  exact absurd digit (by simp [h])

theorem code?_tooDeep (limit : Nat) {code : String}
    (telling : ∀ marker ∈ markers, marker.2 = code → 'c' ∈ marker.1.toList) :
    (tooDeep limit).fault.code? ≠ some code := by
  have chars : (tooDeep limit).message.toList =
      "Expression tree is too large (maximum depth ".toList ++ (toString limit).toList ++
        ")".toList := by
    show ("Expression tree is too large (maximum depth " ++ toString limit ++ ")").toList = _
    rw [String.toList_append, String.toList_append]
  have nonempty : 'E' ∈ (tooDeep limit).message.toList := by
    rw [chars]
    exact List.mem_append_left _ (List.mem_append_left _ (by decide))
  have missing : 'c' ∉ (tooDeep limit).message.toList := by
    rw [chars, List.mem_append, List.mem_append, not_or, not_or]
    exact ⟨⟨by decide, not_mem_toString rfl limit⟩, by decide⟩
  exact code?_ne_of_letter nonempty missing telling

/-- Only lists and objects cannot be bound for their kind. -/
theorem code?_unsupported (position : Nat) {kind code : String} (h : kind = "list" ∨ kind = "dict")
    (telling : ∀ marker ∈ markers, marker.2 = code → 'h' ∈ marker.1.toList) :
    (unsupported position kind).fault.code? ≠ some code := by
  have chars : (unsupported position kind).message.toList =
      "Error binding parameter ".toList ++ (toString position).toList ++ ": type '".toList ++
        kind.toList ++ "' is not supported".toList := by
    show ("Error binding parameter " ++ toString position ++ ": type '" ++ kind ++
      "' is not supported").toList = _
    rw [String.toList_append, String.toList_append, String.toList_append, String.toList_append]
  have nonempty : 'E' ∈ (unsupported position kind).message.toList := by
    rw [chars, List.append_assoc, List.append_assoc, List.append_assoc]
    exact List.mem_append_left _ (by decide)
  have missing : 'h' ∉ (unsupported position kind).message.toList := by
    have known : 'h' ∉ kind.toList := by rcases h with rfl | rfl <;> decide
    simp only [chars, List.mem_append, not_or]
    exact ⟨⟨⟨⟨by decide, not_mem_toString rfl position⟩, by decide⟩, known⟩, by decide⟩
  exact code?_ne_of_letter nonempty missing telling

theorem code?_noTable (name : String) : (noTable name).fault.code? ≠ some undefinedColumn := by
  have message : (noTable name).message = "no such table: " ++ name := rfl
  have listed : markers[4]? = some ("no such table", "42P01") := rfl
  exact code?_ne_of_marker (c := 'n') message listed (by decide) (by decide) (by decide)

theorem code?_notNull (table column : String) {code : String}
    (earlier : ∀ other ∈ markers.take 3, other.2 ≠ code) :
    (notNull table column).fault.code? ≠ some code := by
  have message : (notNull table column).message =
      "NOT NULL constraint failed: " ++ qualified table column := rfl
  have listed : markers[2]? = some ("NOT NULL constraint failed", "23502") := rfl
  exact code?_ne_of_marker (c := 'N') message listed (by decide) (by decide) earlier

theorem code?_notUnique (table : String) (columns : List String) {code : String}
    (earlier : ∀ other ∈ markers.take 1, other.2 ≠ code) :
    (notUnique table columns).fault.code? ≠ some code := by
  have message : (notUnique table columns).message =
      "UNIQUE constraint failed: " ++ Text.join ", " (columns.map (qualified table)) := rfl
  have listed : markers[0]? = some ("UNIQUE constraint failed", "23505") := rfl
  exact code?_ne_of_marker (c := 'U') message listed (by decide) (by decide) earlier

/-- Of the faults of the store, only those that quote a name have the code of an unknown column. -/
theorem code?_ne_undefined {f : StoreFault} (h : ¬f.QuotesName) :
    f.fault.code? ≠ some undefinedColumn := by
  cases f with
  | readOnly _ | noColumn _ | noInsertColumn _ _ => exact absurd trivial h
  | tooDeep limit => exact code?_tooDeep limit (by decide)
  | noTable name => exact code?_noTable name
  | notNull table column => exact code?_notNull table column (by decide)
  | notUnique table columns => exact code?_notUnique table columns (by decide)
  | unsupported position kind =>
    refine code?_unsupported position (Decidable.or_iff_not_imp_left.mpr fun list => ?_) (by decide)
    exact Decidable.byContradiction fun dict => h ⟨list, dict⟩
  | nullCharacter | hugeInteger =>
    exact code?_ne_of_letter (c := 'm') (d := 't') (by decide) (by decide) (by decide)
  | noColumns | tooManyParams | tooManyAssigned | notDatabase | tooManyColumns | tooManyTerms =>
    exact code?_ne_of_letter (c := 'h') (d := 't') (by decide) (by decide) (by decide)
  | patternTooComplex | dangling =>
    exact code?_ne_of_letter (c := 'h') (d := 'o') (by decide) (by decide) (by decide)
  | mismatch =>
    exact code?_ne_of_letter (c := 'u') (d := 't') (by decide) (by decide) (by decide)

end StoreFault

end RowQuery
