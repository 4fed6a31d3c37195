import RowQuery.Json.Basic
import RowQuery.Text.Basic

/-!
# Reading documents

A reader of JSON text. Beside the standard grammar it takes the numbers `NaN`, `Infinity` and
`-Infinity`; it refuses a leading byte order mark and integers of more than 4300 digits.

* `Json.read` reads a whole text, or says what is wrong and where.
* `ReadError.message` words an error.

## Design notes

Each part of the reader takes the text that is left and gives back what it read and the text left
after it, which is shorter; that is what the recursion goes down on. Where a text cannot be read,
the fault is reported with the number of characters left, and `Json.read` turns that into a
position.
-/

namespace RowQuery

/-- Why a text is no document. -/
inductive ReadFault where
  | expectingValue
  | expectingName
  | expectingColon
  | expectingComma
  | unterminatedString
  | controlCharacter
  | invalidEscape
  | invalidUnicodeEscape
  | extraData
  | byteOrderMark
  | integerTooLong (digits : Nat)
deriving DecidableEq

/-- A fault and how many characters were left where it was found. -/
structure Stuck where
  fault : ReadFault
  left : Nat
deriving DecidableEq

/-- A fault and its place in a text, by lines and columns from one and by characters from zero. -/
structure ReadError where
  fault : ReadFault
  line : Nat
  column : Nat
  position : Nat
deriving DecidableEq

namespace Json

/-! ### Strings -/

/-- The value of a hexadecimal digit of either case. -/
def hexValue? (c : Char) : Option Nat :=
  if '0' ≤ c ∧ c ≤ '9' then some (c.toNat - '0'.toNat)
  else if 'a' ≤ c ∧ c ≤ 'f' then some (c.toNat - 'a'.toNat + 10)
  else if 'A' ≤ c ∧ c ≤ 'F' then some (c.toNat - 'A'.toNat + 10)
  else none

/-- The value of four hexadecimal digits. -/
def hexValue4? (a b c d : Char) : Option Nat :=
  match hexValue? a, hexValue? b, hexValue? c, hexValue? d with
  | some a, some b, some c, some d => some (((a * 16 + b) * 16 + c) * 16 + d)
  | _, _, _, _ => none

/-- The character that a one-letter escape stands for. -/
def unescape? (c : Char) : Option Char :=
  match c with
  | '"' => some '"'
  | '\\' => some '\\'
  | '/' => some '/'
  | 'b' => some '\x08'
  | 'f' => some '\x0c'
  | 'n' => some '\n'
  | 'r' => some '\r'
  | 't' => some '\t'
  | _ => none

/-- What one step of reading a string yields: a character, or a code unit written as an escape. -/
inductive Piece where
  | char (c : Char)
  | unit (code : Nat)
deriving DecidableEq

/-- The characters of the pieces of a string. Two escaped units that form a surrogate pair are one
character; half of a pair on its own is read as the replacement character. -/
def joinPieces : List Piece → List Char
  | [] => []
  | .char c :: rest => c :: joinPieces rest
  | .unit high :: .unit low :: rest =>
    if 0xD800 ≤ high ∧ high < 0xDC00 ∧ 0xDC00 ≤ low ∧ low < 0xE000 then
      Char.ofNat (0x10000 + (high - 0xD800) * 0x400 + (low - 0xDC00)) :: joinPieces rest
    else loneUnit high :: joinPieces (.unit low :: rest)
  | .unit code :: rest => loneUnit code :: joinPieces rest
where
  /-- The character of a unit that has no partner. -/
  loneUnit (code : Nat) : Char :=
    if 0xD800 ≤ code ∧ code < 0xE000 then '\uFFFD' else Char.ofNat code

/-- The pieces of a string up to its closing quote, and the text after it. A missing closing quote
is reported where `opening` characters are left. A unit escape needs a character behind it. -/
def readPieces (opening : Nat) : List Char → Except Stuck (List Piece × List Char)
  | [] => .error ⟨.unterminatedString, opening⟩
  | '"' :: rest => .ok ([], rest)
  | ['\\'] => .error ⟨.unterminatedString, opening⟩
  | '\\' :: 'u' :: a :: b :: c :: d :: e :: rest =>
    match hexValue4? a b c d with
    | some code => (readPieces opening (e :: rest)).map fun (ps, r) => (.unit code :: ps, r)
    | none => .error ⟨.invalidUnicodeEscape, rest.length + 6⟩
  | '\\' :: c :: rest =>
    if c = 'u' then .error ⟨.invalidUnicodeEscape, rest.length + 1⟩
    else match unescape? c with
      | some c => (readPieces opening rest).map fun (ps, r) => (.char c :: ps, r)
      | none => .error ⟨.invalidEscape, rest.length + 2⟩
  | c :: rest =>
    if c.toNat < 32 then .error ⟨.controlCharacter, rest.length + 1⟩
    else (readPieces opening rest).map fun (ps, r) => (.char c :: ps, r)

/-- A string, whose opening quote has been read already, and the text after it. -/
def readString (text : List Char) : Except Stuck (String × List Char) :=
  (readPieces (text.length + 1) text).map fun (ps, r) => (String.ofList (joinPieces ps), r)

theorem readPieces_length {opening : Nat} {s r : List Char} {ps : List Piece}
    (h : readPieces opening s = .ok (ps, r)) : r.length < s.length := by
  fun_induction readPieces opening s generalizing ps with
  | case1 | case3 | case5 | case6 | case8 | case9 => cases h
  | case2 rest => cases h; simp
  | case4 a b c d e rest code hc ih =>
    obtain ⟨⟨qs, q⟩, hq, he⟩ := map_ok h
    cases he
    have := ih hq
    simp at this ⊢
    omega
  | case7 c rest _ hu c' hc ih =>
    obtain ⟨⟨qs, q⟩, hq, he⟩ := map_ok h
    cases he
    have := ih hq
    simp
    omega
  | case10 c rest h1 h2 h3 h4 hc ih =>
    obtain ⟨⟨qs, q⟩, hq, he⟩ := map_ok h
    cases he
    have := ih hq
    simp
    omega
where
  map_ok {α β : Type} {x : Except Stuck α} {f : α → β} {b : β} (h : x.map f = .ok b) :
      ∃ a, x = .ok a ∧ f a = b := by
    cases x with
    | error => cases h
    | ok a => exact ⟨a, rfl, by simpa [Except.map] using h⟩

theorem readString_length {text r : List Char} {value : String}
    (h : readString text = .ok (value, r)) : r.length < text.length := by
  obtain ⟨⟨ps, q⟩, hq, he⟩ := readPieces_length.map_ok h
  cases he
  exact readPieces_length hq

/-! ### Numbers -/

/-- The digits that a text begins with, and the text after them. -/
def spanDigits (s : List Char) : List Char × List Char :=
  (s.takeWhile Char.isDigit, s.dropWhile Char.isDigit)

/-- The digits before the point of a number: a zero, or digits that begin with another one. -/
def readWhole : List Char → Option (List Char × List Char)
  | '0' :: rest => some (['0'], rest)
  | c :: rest => if c.isDigit then some (spanDigits (c :: rest)) else none
  | [] => none

/-- The digits after a point. Without a digit the point is no part of the number. -/
def readFraction : List Char → Option (List Char × List Char)
  | '.' :: d :: rest => if d.isDigit then some (spanDigits (d :: rest)) else none
  | _ => none

/-- A written exponent. Without a digit its mark is no part of the number. -/
def readExponent : List Char → Option (Int × List Char)
  | mark :: rest =>
    if mark = 'e' ∨ mark = 'E' then
      let (negative, rest) := match rest with
        | '-' :: r => (true, r)
        | '+' :: r => (false, r)
        | r => (false, r)
      match spanDigits rest with
      | ([], _) => none
      | (ds, r) =>
        let size : Int := Nat.ofDigitChars 10 ds 0
        some (if negative then -size else size, r)
    else none
  | [] => none

/-- The most digits an integer may have. -/
def maxIntegerDigits : Nat := 4300

/-- The value of a number whose sign has been read, and the text after it. -/
def readUnsigned (negative : Bool) (s : List Char) : Except Stuck (Option (Json × List Char)) :=
  match readWhole s with
  | none => .ok none
  | some (whole, rest) =>
    let (fraction, rest) := (readFraction rest).getD ([], rest)
    match fraction, readExponent rest with
    | [], none =>
      if maxIntegerDigits < whole.length then
        .error ⟨.integerTooLong whole.length, s.length⟩
      else
        let size : Int := Nat.ofDigitChars 10 whole 0
        .ok (some (.integer (if negative then -size else size), rest))
    | _, exponent =>
      let (power, rest) := exponent.getD (0, rest)
      let coefficient := Nat.ofDigitChars 10 (whole ++ fraction) 0
      .ok (some (.float (.ofDecimal negative coefficient (power - fraction.length)), rest))

/-- A number, if the text begins with one. -/
def readNumber (s : List Char) : Except Stuck (Option (Json × List Char)) :=
  match s with
  | '-' :: rest => readUnsigned true rest
  | _ => readUnsigned false s

/-! ### Words -/

/-- The words that are values. -/
def words : List (List Char × Json) := [
  ("null".toList, .null), ("true".toList, .bool true), ("false".toList, .bool false),
  ("NaN".toList, .float .nan), ("Infinity".toList, .float (.infinity false)),
  ("-Infinity".toList, .float (.infinity true))]

/-- The text after `word`, if the text begins with it. -/
def dropWord? (word s : List Char) : Option (List Char) :=
  if word.isPrefixOf s then some (s.drop word.length) else none

/-- The value of a word that the text begins with. -/
def readWord (s : List Char) : Option (Json × List Char) :=
  words.findSome? fun (word, value) => (dropWord? word s).map (value, ·)

/-- A word or a number. -/
def readPlain (s : List Char) : Except Stuck (Json × List Char) :=
  match readWord s with
  | some found => .ok found
  | none =>
    match readNumber s with
    | .ok (some found) => .ok found
    | .ok none => .error ⟨.expectingValue, s.length⟩
    | .error stuck => .error stuck

theorem spanDigits_length (s : List Char) : (spanDigits s).2.length ≤ s.length :=
  (List.dropWhile_sublist _).length_le

theorem readWhole_length {s ds r : List Char} (h : readWhole s = some (ds, r)) :
    r.length < s.length := by
  unfold readWhole at h
  split at h
  · cases h; simp
  · next c rest _ =>
    split at h
    · next hd =>
      cases h
      have := spanDigits_length rest
      simp [spanDigits, hd] at this ⊢
      omega
    · cases h
  · cases h

theorem readFraction_length (s : List Char) :
    ((readFraction s).getD ([], s)).2.length ≤ s.length := by
  unfold readFraction
  split
  · next d rest =>
    split
    · have := spanDigits_length (d :: rest)
      simp at this ⊢
      omega
    · simp
  · simp

theorem readExponent_length (s : List Char) :
    ((readExponent s).getD (0, s)).2.length ≤ s.length := by
  unfold readExponent
  split
  · next mark rest =>
    split
    · dsimp only
      split
      · simp
      · next ds r h =>
        have := spanDigits_length (match rest with
          | '-' :: r => (true, r)
          | '+' :: r => (false, r)
          | r => (false, r)).2
        rw [h] at this
        simp only [Option.getD_some, List.length_cons]
        split at this <;> simp_all <;> omega
    · simp
  · simp

theorem readUnsigned_length {negative : Bool} {s r : List Char} {v : Json}
    (h : readUnsigned negative s = .ok (some (v, r))) : r.length < s.length := by
  unfold readUnsigned at h
  split at h
  · cases h
  · next whole rest hw =>
    have h1 := readWhole_length hw
    have h2 := readFraction_length rest
    dsimp only at h
    split at h
    · split at h
      · cases h
      · cases h; omega
    · have h3 := readExponent_length ((readFraction rest).getD ([], rest)).2
      cases h
      omega

theorem readNumber_length {s r : List Char} {v : Json}
    (h : readNumber s = .ok (some (v, r))) : r.length < s.length := by
  unfold readNumber at h
  split at h
  · have := readUnsigned_length h
    simp
    omega
  · exact readUnsigned_length h

theorem readWord_length {s r : List Char} {v : Json} (h : readWord s = some (v, r)) :
    r.length < s.length := by
  obtain ⟨⟨word, value⟩, hmem, hw⟩ := List.exists_of_findSome?_eq_some h
  have hpos : 0 < word.length := by
    revert hmem
    simp only [words, List.mem_cons, List.not_mem_nil, or_false, Prod.mk.injEq]
    rintro (⟨rfl, -⟩ | ⟨rfl, -⟩ | ⟨rfl, -⟩ | ⟨rfl, -⟩ | ⟨rfl, -⟩ | ⟨rfl, -⟩) <;> decide
  simp only [dropWord?] at hw
  split at hw
  · next hp =>
    cases hw
    have := (List.isPrefixOf_iff_prefix.1 hp).length_le
    simp
    omega
  · cases hw

theorem readPlain_length {s r : List Char} {v : Json} (h : readPlain s = .ok (v, r)) :
    r.length < s.length := by
  unfold readPlain at h
  split at h
  · next hw => cases h; exact readWord_length hw
  · split at h
    · next hn => cases h; exact readNumber_length hn
    · cases h
    · cases h

/-! ### Values -/

/-- The blanks between the parts of a document. -/
def isSpace (c : Char) : Bool := c = ' ' || c = '\t' || c = '\n' || c = '\r'

/-- The text after the blanks it begins with. -/
def skipSpace (s : List Char) : List Char := s.dropWhile isSpace

theorem skipSpace_length (s : List Char) : (skipSpace s).length ≤ s.length :=
  (List.dropWhile_sublist _).length_le

/-- What is left of a text after a part of it has been read. -/
abbrev Rest (s : List Char) := { r : List Char // r.length < s.length }

mutual

/-- A value at the beginning of a text. -/
def readValue (s : List Char) : Except Stuck (Json × Rest s) :=
  match s with
  | '"' :: text =>
    match h : readString text with
    | .ok (value, r) => .ok (.string value, ⟨r, by have := readString_length h; simp; omega⟩)
    | .error stuck => .error stuck
  | '[' :: text =>
    match hs : skipSpace text with
    | ']' :: r => .ok (.array [], ⟨r, by have := skipSpace_length text; simp_all; omega⟩)
    | _ =>
      match readItems (skipSpace text) with
      | .ok (items, ⟨r, hr⟩) =>
        .ok (.array items, ⟨r, by have := skipSpace_length text; simp; omega⟩)
      | .error stuck => .error stuck
  | '{' :: text =>
    match hs : skipSpace text with
    | '}' :: r => .ok (.object [], ⟨r, by have := skipSpace_length text; simp_all; omega⟩)
    | _ =>
      match readFields (skipSpace text) with
      | .ok (fields, ⟨r, hr⟩) =>
        .ok (.object (Fields.ofPairs fields), ⟨r, by have := skipSpace_length text; simp; omega⟩)
      | .error stuck => .error stuck
  | s =>
    match h : readPlain s with
    | .ok (value, r) => .ok (value, ⟨r, readPlain_length h⟩)
    | .error stuck => .error stuck
termination_by (s.length, 0)
decreasing_by
  all_goals
    simp only [Prod.lex_def, List.length_cons]
    have := skipSpace_length text
    omega

/-- The items of an array up to its closing bracket; there is one at least. -/
def readItems (s : List Char) : Except Stuck (List Json × Rest s) :=
  match readValue s with
  | .error stuck => .error stuck
  | .ok (item, ⟨r, hr⟩) =>
    match hs : skipSpace r with
    | ']' :: r' => .ok ([item], ⟨r', by have := skipSpace_length r; simp_all; omega⟩)
    | ',' :: r' =>
      match readItems (skipSpace r') with
      | .ok (items, ⟨r'', hr'⟩) => .ok (item :: items, ⟨r'', by
          have := skipSpace_length r
          have := skipSpace_length r'
          simp_all
          omega⟩)
      | .error stuck => .error stuck
    | r' => .error ⟨.expectingComma, r'.length⟩
termination_by (s.length, 1)
decreasing_by
  · simp [Prod.lex_def]
  · have := skipSpace_length r
    have := skipSpace_length r'
    simp_all [Prod.lex_def]
    omega

/-- The fields of an object up to its closing brace, in the order written; there is one at least. -/
def readFields (s : List Char) : Except Stuck (List (String × Json) × Rest s) :=
  match s with
  | '"' :: text =>
    match hn : readString text with
    | .error stuck => .error stuck
    | .ok (name, afterName) =>
      match hc : skipSpace afterName with
      | ':' :: afterColon =>
        match readValue (skipSpace afterColon) with
        | .error stuck => .error stuck
        | .ok (value, ⟨r, hr⟩) =>
          match hs : skipSpace r with
          | '}' :: r' => .ok ([(name, value)], ⟨r', by
              have := readString_length hn
              have := skipSpace_length afterName
              have := skipSpace_length afterColon
              have := skipSpace_length r
              simp_all
              omega⟩)
          | ',' :: r' =>
            match readFields (skipSpace r') with
            | .ok (fields, ⟨r'', hr'⟩) => .ok ((name, value) :: fields, ⟨r'', by
                have := readString_length hn
                have := skipSpace_length afterName
                have := skipSpace_length afterColon
                have := skipSpace_length r
                have := skipSpace_length r'
                simp_all
                omega⟩)
            | .error stuck => .error stuck
          | r' => .error ⟨.expectingComma, r'.length⟩
      | r => .error ⟨.expectingColon, r.length⟩
  | s => .error ⟨.expectingName, s.length⟩
termination_by (s.length, 1)
decreasing_by
  · have := readString_length hn
    have := skipSpace_length afterName
    have := skipSpace_length afterColon
    simp_all [Prod.lex_def]
    omega
  · have := readString_length hn
    have := skipSpace_length afterName
    have := skipSpace_length afterColon
    have := skipSpace_length r
    have := skipSpace_length r'
    simp_all [Prod.lex_def]
    omega

end

/-- A value with blanks around it, and nothing else. -/
def readAll (s : List Char) : Except Stuck Json :=
  match s with
  | '\uFEFF' :: _ => .error ⟨.byteOrderMark, s.length⟩
  | _ =>
    match readValue (skipSpace s) with
    | .error stuck => .error stuck
    | .ok (value, ⟨r, _⟩) =>
      match skipSpace r with
      | [] => .ok value
      | rest => .error ⟨.extraData, rest.length⟩

/-- The place in a text that a number of characters before its end stands for. -/
def locate (s : List Char) (stuck : Stuck) : ReadError :=
  let position := s.length - stuck.left
  let before := s.take position
  { fault := stuck.fault
    line := before.count '\n' + 1
    column := (before.reverse.takeWhile (· != '\n')).length + 1
    position }

/-- Reads a whole text as a document. -/
def read (text : String) : Except ReadError Json :=
  (readAll text.toList).mapError (locate text.toList)

end Json

namespace ReadError

/-- The wording of an error. A number that is too long is reported without its place. -/
def message (e : ReadError) : String :=
  match e.fault with
  | .expectingValue => placed "Expecting value"
  | .expectingName => placed "Expecting property name enclosed in double quotes"
  | .expectingColon => placed "Expecting ':' delimiter"
  | .expectingComma => placed "Expecting ',' delimiter"
  | .unterminatedString => placed "Unterminated string starting at"
  | .controlCharacter => placed "Invalid control character at"
  | .invalidEscape => placed "Invalid \\escape"
  | .invalidUnicodeEscape => placed "Invalid \\uXXXX escape"
  | .extraData => placed "Extra data"
  | .byteOrderMark => placed "Unexpected UTF-8 BOM (decode using utf-8-sig)"
  | .integerTooLong digits =>
    "Exceeds the limit (" ++ toString Json.maxIntegerDigits ++
      " digits) for integer string conversion: value has " ++ toString digits ++
      " digits; use sys.set_int_max_str_digits() to increase the limit"
where
  /-- A fault with its place. -/
  placed (fault : String) : String :=
    fault ++ ": line " ++ toString e.line ++ " column " ++ toString e.column ++
      " (char " ++ toString e.position ++ ")"

end ReadError

end RowQuery
