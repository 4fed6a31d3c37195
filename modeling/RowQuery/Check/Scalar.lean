import RowQuery.Check.Checked
import RowQuery.Text.Blank

/-!
# Flags and counts

Flags and whole numbers are read leniently: a flag may be written as a number or a word, a whole
number as a flag, a number without a fraction, or text.

* `Checked.flag` and `Checked.integer` are the two readers.
-/

namespace RowQuery

namespace Scalar

/-- The words for false, in lower case. -/
def falseWords : List String := ["0", "off", "f", "false", "n", "no"]

/-- The words for true, in lower case. -/
def trueWords : List String := ["1", "on", "t", "true", "y", "yes"]

/-- What the integers of 64 bits with a sign lie below. -/
def wordLimit : Nat := Nat.pow 2 63

/-- Whether an integer fits into 64 bits with a sign. -/
def fitsWord (n : Int) : Bool := decide (-(wordLimit : Int) ≤ n) && decide (n < wordLimit)

/-- The flag an integer stands for. -/
def flagOfInt? (n : Int) : Option Bool :=
  if n = 0 then some false else if n = 1 then some true else none

/-- The flag a text stands for; the case of its letters does not matter. -/
def flagOfText? (s : String) : Option Bool :=
  let word := String.ofList (s.toList.map Char.toLower)
  if falseWords.contains word then some false
  else if trueWords.contains word then some true
  else none

/-- The blanks around a written number; the four separator controls are none. -/
def isNumberBlank (c : Char) : Bool := Text.isBlank c && !(0x1C ≤ c.toNat && c.toNat ≤ 0x1F)

/-- The text without the blanks around it. -/
def trimNumber (s : List Char) : List Char :=
  ((s.dropWhile isNumberBlank).reverse.dropWhile isNumberBlank).reverse

/-- The text behind a sign of plus, which no sign of minus may follow. -/
def behindPlus? : List Char → Option (List Char)
  | '+' :: '-' :: _ => none
  | '+' :: rest => some rest
  | s => some s

/-- The text behind zeros, where underscores may stand between and behind them. A point keeps the
character in front of it, and so does the end of the text. -/
def behindZeros? (last : Char) : List Char → Option (List Char)
  | [] => some [last]
  | c :: rest =>
    if c = '0' || c = '_' then behindZeros? c rest
    else if c = '.' then some (last :: c :: rest)
    else if c = '-' || c.isDigit then some (c :: rest)
    else none

/-- The text without the zeros that it begins with. It has to begin with a digit or a minus. -/
def withoutZeros? : List Char → Option (List Char)
  | '0' :: rest => behindZeros? '0' rest
  | c :: rest => if c = '-' || c.isDigit then some (c :: rest) else none
  | [] => none

/-- The text without a point and zeros at its end. -/
def withoutFraction (s : List Char) : List Char :=
  match s.dropWhile (· ≠ '.') with
  | '.' :: '0' :: zeros => if zeros.all (· = '0') then s.takeWhile (· ≠ '.') else s
  | _ => s

/-- The text without its underscores, each of which stands alone between other characters. -/
def withoutUnderscores? (s : List Char) : Option (List Char) :=
  let groups := Text.splitOn '_' s
  if groups.length = 1 then some s
  else if groups.all fun group => !group.isEmpty then some groups.flatten
  else none

/-- A written integer as a sign of minus, if it has one, and digits. -/
def plainInteger? (s : String) : Option (List Char) := do
  let unsigned ← behindPlus? (trimNumber s.toList)
  let digits ← withoutZeros? unsigned
  withoutUnderscores? (withoutFraction digits)

/-- The longest form of an integer that does not fit into 64 bits. -/
def maxLength : Nat := 4300

/-- The integer that a sign of minus, if there is one, and digits stand for. -/
def integerOfPlain? (s : List Char) : Option Int :=
  let (negative, ds) := match s with
    | '-' :: ds => (true, ds)
    | ds => (false, ds)
  if ds.isEmpty || !ds.all Char.isDigit then none
  else
    let size : Int := Nat.ofDigitChars 10 ds 0
    some (if negative then -size else size)

/-- An integer written as text: a sign, digits, and a fraction of zeros. -/
def integerOfText (s : String) : Except Complaint Int :=
  match plainInteger? s with
  | none => .error .unreadableInteger
  | some plain =>
    let long := decide (maxLength < plain.length)
    match integerOfPlain? plain with
    | some n => if long && !fitsWord n then .error .hugeInteger else .ok n
    | none => .error (if long then .hugeInteger else .unreadableInteger)

/-- An integer given as a binary number; its size must be below `wordLimit`. -/
def integerOfFloat (x : Binary64) : Except Complaint Int :=
  match x with
  | .nan | .infinity _ => .error .notFinite
  | .finite _ _ =>
    match x.toInt? with
    | none => .error .fractional
    | some n => if n.natAbs < wordLimit then .ok n else .error .hugeInteger

end Scalar

namespace Checked

/-- A flag. -/
def flag (found : Json) : Checked Bool :=
  let orUnreadable : Option Bool → Checked Bool
    | some b => .ok b
    | none => refuse .unreadableFlag found
  match found with
  | .bool b => .ok b
  | .string s => orUnreadable (Scalar.flagOfText? s)
  | .integer n =>
    if Scalar.fitsWord n then orUnreadable (Scalar.flagOfInt? n) else refuse .notFlag found
  | .float x =>
    match Scalar.integerOfFloat x with
    | .ok n => orUnreadable (Scalar.flagOfInt? n)
    | .error _ => refuse .notFlag found
  | _ => refuse .notFlag found

/-- A whole number of any size. -/
def integer (found : Json) : Checked Int :=
  let orRefused : Except Complaint Int → Checked Int
    | .ok n => .ok n
    | .error complaint => refuse complaint found
  match found with
  | .integer n => .ok n
  | .bool b => .ok (if b then 1 else 0)
  | .float x => orRefused (Scalar.integerOfFloat x)
  | .string s => orRefused (Scalar.integerOfText s)
  | _ => refuse .notInteger found

/-- A whole number above zero. -/
def positive (found : Json) : Checked Int :=
  (integer found).andThen fun n => if 0 < n then .ok n else refuse .notPositive found

end Checked

end RowQuery
