import RowQuery.Catalog.Table
import RowQuery.Number.Stored
import RowQuery.Store.Cell

/-!
# Kinds of storage

A column of integers keeps whatever looks like a number as a number, a column of text keeps
numbers as text. The same conversions are made before a column is compared with a parameter.

* `Cell.keep` is the form in which a column keeps a cell.
* `Cell.compareIn` compares a cell of a column with a parameter.
-/

namespace RowQuery.Cell

/-- The blanks around a number in text. -/
def isNumberSpace (c : Char) : Bool := c.toNat = 32 || (9 ≤ c.toNat && c.toNat ≤ 13)

/-- The sign of a number and the text after it. -/
def splitSign : List Char → Bool × List Char
  | '-' :: rest => (true, rest)
  | '+' :: rest => (false, rest)
  | rest => (false, rest)

/-- The value of an exponent, all of the text. -/
def exponentOfText? (text : List Char) : Option Int :=
  let (negative, ds) := splitSign text
  if ds.isEmpty || !ds.all Char.isDigit then none
  else
    let size : Int := Nat.ofDigitChars 10 ds 0
    some (if negative then -size else size)

/-- A number as the cell that holds it: an integer where it is one that fits. -/
def ofNumber (x : Binary64) : Cell :=
  match x.toInt? with
  | some n => if n.natAbs < Scalar.wordLimit then integer n else real x
  | none => real x

/-- The number that a text states, blanks around it aside: digits, perhaps a point among them, and
perhaps an exponent. -/
def numberOfText? (text : List Char) : Option Cell :=
  let body := ((text.dropWhile isNumberSpace).reverse.dropWhile isNumberSpace).reverse
  let (negative, unsigned) := splitSign body
  let whole := unsigned.takeWhile Char.isDigit
  let rest := unsigned.dropWhile Char.isDigit
  let (point, fraction, rest) := match rest with
    | '.' :: rest => (true, rest.takeWhile Char.isDigit, rest.dropWhile Char.isDigit)
    | rest => (false, [], rest)
  if whole.isEmpty && fraction.isEmpty then none
  else
    let coefficient := Nat.ofDigitChars 10 (whole ++ fraction) 0
    let decimal (exponent : Int) : Option Cell :=
      some (ofNumber (.ofDigits negative whole fraction exponent))
    match rest with
    | [] =>
      let n : Int := if negative then -(coefficient : Int) else coefficient
      if !point && Scalar.fitsWord n then some (integer n) else decimal 0
    | mark :: exponent =>
      if mark = 'e' || mark = 'E' then
        match exponentOfText? exponent with
        | some e => decimal e
        | none => none
      else none

/-- The cell as a number, if it is or states one. -/
def toNumber : Cell → Cell
  | text s => (numberOfText? s.toList).getD (text s)
  | real x => ofNumber x
  | cell => cell

/-- The cell as text, unless it is null. -/
def toText : Cell → Cell
  | integer n => text (toString n)
  | real x => text x.storedText
  | cell => cell

/-- The cell as a column keeps it. -/
def keep : Storage → Cell → Cell
  | .integer, cell => cell.toNumber
  | .text, cell => cell.toText

/-- The cell as it is compared in a column of a kind; outside of columns it stays as it is. -/
def comparable : Option Storage → Cell → Cell
  | some storage, cell => cell.keep storage
  | none, cell => cell

/-- How a cell of a column stands to a parameter. With null there is no answer. -/
def compareIn (storage : Option Storage) (cell parameter : Cell) : Option Ordering :=
  if cell.isNull || parameter.isNull then none
  else some (order (cell.comparable storage) (parameter.comparable storage))

end RowQuery.Cell
