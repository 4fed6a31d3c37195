import RowQuery.Proofs.Json.Fields
import RowQuery.Proofs.Json.Floats

/-!
# Documents that are written and read

A document that is written on one line is read as the same document.

* `Json.ReadsTo`, `Json.ItemsTo` and `Json.FieldsTo` say what a text begins with, by rules that
  follow the grammar.
* `Json.Proper` are the documents that a text can hold: no object has a name twice and integers are
  not too long. Other numbers may be any.
* `Json.Restorable` are those among them in which every number is read as a number; the words for
  what is not a finite number are read as words.
* `Json.read_compact` — a proper document is restored from its text.
-/

namespace RowQuery

/-- The text of a number reads as that number, all of it. -/
def Binary64.ReadsBack (x : Binary64) : Prop :=
  Json.readNumber x.text.toList = .ok (some (.float x, []))

namespace Json

/-! ### Values -/

/-- A text begins with a value, after which the rest is left. -/
def ReadsTo (s : List Char) (value : Json) (rest : List Char) : Prop :=
  ∃ h, readValue s = .ok (value, ⟨rest, h⟩)

/-- A text begins with the items of an array and its closing bracket. -/
def ItemsTo (s : List Char) (items : List Json) (rest : List Char) : Prop :=
  ∃ h, readItems s = .ok (items, ⟨rest, h⟩)

/-- A text begins with the fields of an object and its closing brace. -/
def FieldsTo (s : List Char) (fields : Fields) (rest : List Char) : Prop :=
  ∃ h, readFields s = .ok (fields, ⟨rest, h⟩)

/-- A text that begins neither with a blank, which would be skipped, nor with a closing or a byte
order mark. -/
def Starts (s : List Char) : Prop :=
  ∃ c rest, s = c :: rest ∧ isSpace c = false ∧ c ∉ [']', '}', '\uFEFF']

theorem skipSpace_cons {c : Char} (solid : isSpace c = false) (s : List Char) :
    skipSpace (c :: s) = c :: s := by
  rw [skipSpace, List.dropWhile_cons, solid]
  rfl

/-- There is nothing to be skipped. -/
theorem Starts.skipSpace_eq {s : List Char} (starts : Starts s) : skipSpace s = s := by
  obtain ⟨c, rest, rfl, solid, -⟩ := starts
  exact skipSpace_cons solid rest

theorem ReadsTo.string (s : String) (rest : List Char) :
    ReadsTo (stringText s ++ rest) (.string s) rest := by
  have text : stringText s ++ rest = '"' :: (s.toList.flatMap escapeChar ++ '"' :: rest) := by
    simp [stringText]
  have read := readString_stringText s rest
  have shorter := readString_length read
  rw [text]
  refine ⟨Nat.lt_succ_of_lt shorter, ?_⟩
  rw [readValue]
  split
  · next found =>
    rw [read] at found
    cases found
    rfl
  · next found =>
    rw [read] at found
    cases found

theorem ReadsTo.plain {c : Char} {s rest : List Char} {value : Json}
    (other : c ∉ ['"', '[', '{']) (h : readPlain (c :: s) = .ok (value, rest)) :
    ReadsTo (c :: s) value rest := by
  obtain ⟨quote, bracket, brace⟩ : c ≠ '"' ∧ c ≠ '[' ∧ c ≠ '{' := by simpa using other
  refine ⟨readPlain_length h, ?_⟩
  rw [readValue]
  · split
    · next found =>
      rw [h] at found
      cases found
      rfl
    · next found =>
      rw [h] at found
      cases found
  · exact fun _ same => quote (List.cons.inj same).1
  · exact fun _ same => bracket (List.cons.inj same).1
  · exact fun _ same => brace (List.cons.inj same).1

/-- An array and an object with nothing in them. -/
theorem ReadsTo.closed (rest : List Char) :
    ReadsTo ('[' :: ']' :: rest) (.array []) rest ∧
      ReadsTo ('{' :: '}' :: rest) (.object []) rest := by
  have shorter (a b : Char) : rest.length < (a :: b :: rest).length :=
    Nat.lt_succ_of_lt (Nat.lt_succ_self _)
  have bracket : skipSpace (']' :: rest) = ']' :: rest := skipSpace_cons rfl rest
  have brace : skipSpace ('}' :: rest) = '}' :: rest := skipSpace_cons rfl rest
  refine ⟨⟨shorter _ _, ?_⟩, shorter _ _, ?_⟩
  all_goals
    rw [readValue]
    split
    · next found =>
      simp only [bracket, brace] at found
      cases found
      rfl
    · next other => exact absurd (by assumption) (other rest)

/-- An array and an object with something in them. -/
theorem ReadsTo.opened {s rest : List Char} (starts : Starts s) :
    (∀ items, ItemsTo s items rest → ReadsTo ('[' :: s) (.array items) rest) ∧
      ∀ fields, FieldsTo s fields rest →
        ReadsTo ('{' :: s) (.object (Fields.ofPairs fields)) rest := by
  obtain ⟨c, later, rfl, solid, other⟩ := starts
  have skipped := skipSpace_cons solid later
  refine ⟨fun items h => ?_, fun fields h => ?_⟩
  all_goals
    rw [← skipped] at h
    obtain ⟨shorter, read⟩ := h
    have shorter' : rest.length < (c :: later).length := by
      rw [skipped] at shorter
      exact shorter
    refine ⟨Nat.lt_succ_of_lt shorter', ?_⟩
    rw [readValue]
    split
    · next found =>
      -- What stands first does not close.
      rw [skipped] at found
      rw [(List.cons.inj found).1] at other
      exact absurd (by decide) other
    · rw [read]

/-- The last item of an array. -/
theorem ItemsTo.last {s rest : List Char} {item : Json} (h : ReadsTo s item (']' :: rest)) :
    ItemsTo s [item] rest := by
  obtain ⟨shorter, read⟩ := h
  rw [List.length_cons] at shorter
  refine ⟨by omega, ?_⟩
  rw [readItems, read]
  have skipped : skipSpace (']' :: rest) = ']' :: rest := skipSpace_cons rfl rest
  dsimp only
  split
  · next found =>
    rw [skipped] at found
    cases found
    rfl
  · next found =>
    rw [skipped] at found
    cases found
  · next other _ => exact absurd skipped (other rest)

theorem ItemsTo.cons {s later rest : List Char} {item : Json} {items : List Json}
    (h : ReadsTo s item (',' :: later)) (starts : Starts later) (h' : ItemsTo later items rest) :
    ItemsTo s (item :: items) rest := by
  rw [← starts.skipSpace_eq] at h'
  obtain ⟨shorter, read⟩ := h
  obtain ⟨shorter', read'⟩ := h'
  have comma : skipSpace (',' :: later) = ',' :: later := skipSpace_cons rfl _
  refine ⟨?_, ?_⟩
  · rw [starts.skipSpace_eq] at shorter'
    rw [List.length_cons] at shorter
    omega
  · rw [readItems, read]
    dsimp only
    split
    · next found =>
      rw [comma] at found
      cases found
    · next found =>
      rw [comma] at found
      cases found
      rw [read']
    · next other => exact absurd comma (other _)

/-- A field of an object, after which the object is closed or a comma and further fields follow. -/
theorem FieldsTo.field {name : String} {s next rest : List Char} {value : Json} {fields : Fields}
    (starts : Starts s) (h : ReadsTo s value next)
    (tail : (next = '}' :: rest ∧ fields = []) ∨
      ∃ later, next = ',' :: later ∧ Starts later ∧ FieldsTo later fields rest) :
    FieldsTo (stringText name ++ ':' :: s) ((name, value) :: fields) rest := by
  rw [← starts.skipSpace_eq] at h
  obtain ⟨shorter, read⟩ := h
  have text : stringText name ++ ':' :: s =
      '"' :: (name.toList.flatMap escapeChar ++ '"' :: ':' :: s) := by
    simp [stringText]
  have named := readString_stringText name (':' :: s)
  have colon : skipSpace (':' :: s) = ':' :: s := skipSpace_cons rfl _
  have shorter' : rest.length < next.length := by
    rcases tail with ⟨rfl, rfl⟩ | ⟨later, rfl, -, shorter', -⟩
    · exact Nat.lt_succ_self _
    · exact Nat.lt_succ_of_lt shorter'
  rw [text]
  refine ⟨?_, ?_⟩
  · rw [starts.skipSpace_eq] at shorter
    simp only [List.length_cons, List.length_append] at shorter ⊢
    omega
  rw [readFields]
  split
  · next found =>
    rw [named] at found
    cases found
  · next found =>
    rw [named] at found
    cases found
    split
    · next found =>
      rw [colon] at found
      cases found
      rw [read]
      rcases tail with ⟨rfl, rfl⟩ | ⟨later, rfl, starts', h'⟩
      · have closed : skipSpace ('}' :: rest) = '}' :: rest := skipSpace_cons rfl rest
        dsimp only
        split
        · next found =>
          rw [closed] at found
          cases found
          rfl
        · next found =>
          rw [closed] at found
          cases found
        · next other _ => exact absurd closed (other rest)
      · have comma : skipSpace (',' :: later) = ',' :: later := skipSpace_cons rfl _
        rw [← starts'.skipSpace_eq] at h'
        obtain ⟨shorter', read'⟩ := h'
        dsimp only
        split
        · next found =>
          rw [comma] at found
          cases found
        · next found =>
          rw [comma] at found
          cases found
          rw [read']
        · next other => exact absurd comma (other _)
    · next other => exact absurd colon (other _)

/-! ### Documents -/

mutual

/-- A document that can be restored from its text: no object has a name twice and no integer is too
long, which is so in every document that a text holds, and other numbers read back. -/
def Restorable : Json → Prop
  | .null | .bool _ | .string _ => True
  | .integer n => digitCount n ≤ maxIntegerDigits
  | .float x => x.ReadsBack
  | .array items => RestorableItems items
  | .object fields => (fields.map (·.1)).Nodup ∧ RestorableFields fields

/-- The items of an array can be restored. -/
def RestorableItems : List Json → Prop
  | [] => True
  | item :: rest => Restorable item ∧ RestorableItems rest

/-- The values of the fields of an object can be restored. -/
def RestorableFields : List (String × Json) → Prop
  | [] => True
  | (_, value) :: rest => Restorable value ∧ RestorableFields rest

end

mutual

/-- A document that a text can hold: no object has a name twice and no integer is too long. -/
def Proper : Json → Prop
  | .null | .bool _ | .string _ | .float _ => True
  | .integer n => digitCount n ≤ maxIntegerDigits
  | .array items => ProperItems items
  | .object fields => (fields.map (·.1)).Nodup ∧ ProperFields fields

/-- The items of an array are proper. -/
def ProperItems : List Json → Prop
  | [] => True
  | item :: rest => Proper item ∧ ProperItems rest

/-- The values of the fields of an object are proper. -/
def ProperFields : List (String × Json) → Prop
  | [] => True
  | (_, value) :: rest => Proper value ∧ ProperFields rest

end

mutual

theorem Restorable.proper : {value : Json} → value.Restorable → value.Proper
  | .null, _ | .bool _, _ | .string _, _ | .float _, _ => trivial
  | .integer _, short => short
  | .array _, restorable => RestorableItems.proper restorable
  | .object _, restorable => ⟨restorable.1, RestorableFields.proper restorable.2⟩

theorem RestorableItems.proper : {items : List Json} → RestorableItems items → ProperItems items
  | [], _ => trivial
  | _ :: _, restorable => ⟨restorable.1.proper, RestorableItems.proper restorable.2⟩

theorem RestorableFields.proper :
    {fields : List (String × Json)} → RestorableFields fields → ProperFields fields
  | [], _ => trivial
  | (_, _) :: _, restorable => ⟨restorable.1.proper, RestorableFields.proper restorable.2⟩

end

/-- The text of a number begins with no blank, bracket, brace or quote. -/
theorem exists_cons_of_readNumber {s left : List Char} {value : Json}
    (h : readNumber s = .ok (some (value, left))) :
    ∃ c rest, s = c :: rest ∧ (c = '-' ∨ c.isDigit) := by
  obtain ⟨c, rest, digit, rfl | rfl⟩ := exists_digit_of_readNumber h
  · exact ⟨c, rest, rfl, .inr digit⟩
  · exact ⟨'-', _, rfl, .inl rfl⟩

theorem numberStart {c : Char} (start : c = '-' ∨ c.isDigit) :
    isSpace c = false ∧ c ∉ [']', '}', '\uFEFF', '"', '[', '{'] := by
  rcases start with rfl | digit
  · decide
  · have other (d : Char) (letter : d.isDigit = false) : ¬c = d := by
      rintro rfl
      rw [letter] at digit
      cases digit
    simp [isSpace, other ' ' rfl, other '\t' rfl, other '\n' rfl, other '\r' rfl, other ']' rfl,
      other '}' rfl, other '\uFEFF' rfl, other '"' rfl, other '[' rfl, other '{' rfl]

theorem Starts.append {s : List Char} (starts : Starts s) (rest : List Char) :
    Starts (s ++ rest) := by
  obtain ⟨c, later, rfl, solid⟩ := starts
  exact ⟨c, later ++ rest, rfl, solid⟩

theorem starts_of_number {s left : List Char} {value : Json}
    (h : readNumber s = .ok (some (value, left))) : Starts s := by
  obtain ⟨c, rest, rfl, start⟩ := exists_cons_of_readNumber h
  obtain ⟨solid, other⟩ := numberStart start
  exact ⟨c, rest, rfl, solid, fun mem => other (List.mem_append_left ['"', '[', '{'] mem)⟩

theorem ReadsTo.number {s rest : List Char} {value : Json}
    (h : readNumber s = .ok (some (value, []))) (stops : Stops rest) :
    ReadsTo (s ++ rest) value rest := by
  have plain := readPlain_number h stops
  obtain ⟨c, later, rfl, start⟩ := exists_cons_of_readNumber h
  obtain ⟨-, other⟩ := numberStart start
  refine ReadsTo.plain (fun mem => other ?_) plain
  exact List.mem_append_right [']', '}', '\uFEFF'] mem

theorem starts_float (x : Binary64) : Starts x.text.toList := by
  cases x with
  | nan => exact ⟨'N', _, rfl, rfl, by decide⟩
  | infinity negative =>
    cases negative
    · exact ⟨'I', _, rfl, rfl, by decide⟩
    · exact ⟨'-', _, rfl, rfl, by decide⟩
  | finite negative m => exact starts_of_number (readNumber_text negative m)

/-- A number with a point is read back, and so are the words for what is no finite number. -/
theorem ReadsTo.float (x : Binary64) {rest : List Char} (stops : Stops rest) :
    ReadsTo (x.text.toList ++ rest) (.float x) rest := by
  cases x with
  | nan => exact ReadsTo.plain (by decide) rfl
  | infinity negative =>
    cases negative
    · exact ReadsTo.plain (by decide) rfl
    · exact ReadsTo.plain (by decide) rfl
  | finite negative m => exact ReadsTo.number (readNumber_text negative m) stops

theorem starts_chars {value : Json} (proper : value.Proper) : Starts value.chars := by
  cases value with
  | null => exact ⟨'n', _, rfl, rfl, by decide⟩
  | bool b =>
    cases b
    · exact ⟨'f', _, rfl, rfl, by decide⟩
    · exact ⟨'t', _, rfl, rfl, by decide⟩
  | integer n => exact starts_of_number (readNumber_integerText proper)
  | float x => exact starts_float x
  | string s => exact ⟨'"', _, rfl, rfl, by decide⟩
  | array items => exact ⟨'[', _, rfl, rfl, by decide⟩
  | object fields => exact ⟨'{', _, rfl, rfl, by decide⟩

/-- Pieces that are joined begin as the first one does. -/
theorem Starts.joinWith {first : List Char} (starts : Starts first) (separator : List Char)
    (others : List (List Char)) : Starts (Text.joinWith separator (first :: others)) := by
  cases others with
  | nil => exact starts
  | cons second others =>
    rw [Text.joinWith, List.append_assoc]
    · exact starts.append _
    · exact List.cons_ne_nil _ _

theorem starts_fieldTexts (name : String) (value : Json) (fields : Fields) (rest : List Char) :
    Starts (Text.joinWith [','] (fieldTexts ((name, value) :: fields)) ++ rest) := by
  have starts : Starts (stringText name ++ ':' :: value.chars) :=
    ⟨'"', _, rfl, rfl, by decide⟩
  exact (starts.joinWith _ _).append rest

mutual

/-- A document is read from its text, wherever the text stands. -/
theorem readsTo_chars : (value : Json) → value.Proper → (rest : List Char) → Stops rest →
    ReadsTo (value.chars ++ rest) value rest
  | .null, _, rest, _ => ReadsTo.plain (by decide) rfl
  | .bool b, _, rest, _ => by
    cases b
    · exact ReadsTo.plain (by decide) rfl
    · exact ReadsTo.plain (by decide) rfl
  | .integer n, short, rest, stops => ReadsTo.number (readNumber_integerText short) stops
  | .float x, _, _, stops => ReadsTo.float x stops
  | .string s, _, rest, _ => ReadsTo.string s rest
  | .array [], _, rest, _ => (ReadsTo.closed rest).1
  | .array (item :: items), proper, rest, _ => by
    have text : (Json.array (item :: items)).chars ++ rest =
        '[' :: (Text.joinWith [','] (itemTexts (item :: items)) ++ ']' :: rest) := by
      simp [chars]
    have starts : Starts (Text.joinWith [','] (itemTexts (item :: items)) ++ ']' :: rest) :=
      ((starts_chars proper.1).joinWith _ _).append _
    rw [text]
    exact (ReadsTo.opened starts).1 _
      (itemsTo_itemTexts (item :: items) proper (List.cons_ne_nil _ _) rest)
  | .object [], _, rest, _ => (ReadsTo.closed rest).2
  | .object ((name, value) :: fields), proper, rest, _ => by
    have text : (Json.object ((name, value) :: fields)).chars ++ rest =
        '{' :: (Text.joinWith [','] (fieldTexts ((name, value) :: fields)) ++ '}' :: rest) := by
      simp [chars]
    have read := (ReadsTo.opened (starts_fieldTexts name value fields ('}' :: rest))).2 _
      (fieldsTo_fieldTexts ((name, value) :: fields) proper.2 (List.cons_ne_nil _ _) rest)
    rw [Fields.ofPairs_of_nodup proper.1] at read
    rw [text]
    exact read

theorem itemsTo_itemTexts : (items : List Json) → ProperItems items → items ≠ [] →
    (rest : List Char) →
    ItemsTo (Text.joinWith [','] (itemTexts items) ++ ']' :: rest) items rest
  | [item], proper, _, rest =>
    ItemsTo.last (readsTo_chars item proper.1 (']' :: rest) (stops_cons rest (by decide)))
  | item :: next :: items, proper, _, rest => by
    let later := Text.joinWith [','] (itemTexts (next :: items)) ++ ']' :: rest
    have text : Text.joinWith [','] (itemTexts (item :: next :: items)) ++ ']' :: rest =
        item.chars ++ ',' :: later := by
      simp [itemTexts, Text.joinWith, later]
    have starts : Starts later := ((starts_chars proper.2.1).joinWith _ _).append _
    rw [text]
    exact ItemsTo.cons (readsTo_chars item proper.1 _ (stops_cons _ (by decide))) starts
      (itemsTo_itemTexts (next :: items) proper.2 (List.cons_ne_nil _ _) rest)

theorem fieldsTo_fieldTexts : (fields : List (String × Json)) → ProperFields fields →
    fields ≠ [] → (rest : List Char) →
    FieldsTo (Text.joinWith [','] (fieldTexts fields) ++ '}' :: rest) fields rest
  | [(name, value)], proper, _, rest => by
    have text : Text.joinWith [','] (fieldTexts [(name, value)]) ++ '}' :: rest =
        stringText name ++ ':' :: (value.chars ++ '}' :: rest) := by
      simp [fieldTexts, Text.joinWith]
    rw [text]
    exact FieldsTo.field ((starts_chars proper.1).append _)
      (readsTo_chars value proper.1 _ (stops_cons rest (by decide))) (.inl ⟨rfl, rfl⟩)
  | (name, value) :: (other, next) :: fields, proper, _, rest => by
    let later := Text.joinWith [','] (fieldTexts ((other, next) :: fields)) ++ '}' :: rest
    have text : Text.joinWith [','] (fieldTexts ((name, value) :: (other, next) :: fields)) ++
        '}' :: rest = stringText name ++ ':' :: (value.chars ++ ',' :: later) := by
      simp [fieldTexts, Text.joinWith, later]
    have tail := fieldsTo_fieldTexts ((other, next) :: fields) proper.2 (List.cons_ne_nil _ _)
      rest
    rw [text]
    exact FieldsTo.field ((starts_chars proper.1).append _)
      (readsTo_chars value proper.1 _ (stops_cons later (by decide)))
      (.inr ⟨later, rfl, starts_fieldTexts other next fields _, tail⟩)

end

/-- **A proper document is read as it was written.** -/
theorem read_compact {value : Json} (proper : value.Proper) :
    read value.compact = .ok value := by
  have ends : Stops [] := by
    rintro _ ⟨⟩
  obtain ⟨c, later, start, solid, other⟩ := starts_chars proper
  have found := readsTo_chars value proper [] ends
  rw [List.append_nil, start, ← skipSpace_cons solid later, ← start] at found
  obtain ⟨shorter, found⟩ := found
  have whole : readAll value.chars = .ok value := by
    unfold readAll
    split
    · next mark =>
      rw [start] at mark
      rw [(List.cons.inj mark).1] at other
      exact absurd (by decide) other
    · rw [found]
      rfl
  rw [read, compact, String.toList_ofList, whole]
  rfl

end Json

end RowQuery
