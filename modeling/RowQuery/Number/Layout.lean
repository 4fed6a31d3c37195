import RowQuery.Number.Shortest

/-!
# Written numbers

How the digits of a number are laid out as text: positional notation in a range of exponents, and
a leading digit with an exponent outside it.

* `Layout.write` lays out a decimal.
* `Binary64.text` is the form numbers have in documents.
-/

namespace RowQuery

/-- The decisions of a number format. -/
structure Layout where
  /-- Exponents of the leading digit that are at least `positionalFrom` and below `positionalTo`
  are written positionally. -/
  positionalFrom : Int
  positionalTo : Int
  /-- A lone leading digit before an exponent is followed by `.0`. -/
  pointBeforeExponent : Bool

namespace Layout

/-- Numbers in documents: positional below ten to the sixteenth. -/
def document : Layout := ⟨-4, 16, false⟩

/-- Numbers kept as text: positional with up to fifteen digits. -/
def stored : Layout := ⟨-4, 15, true⟩

/-- Decimal digits of a natural number. -/
def digits (n : Nat) : List Char := Nat.toDigits 10 n

/-- The digits without trailing zeros, one digit at least. -/
def significant (ds : List Char) : List Char :=
  match (ds.reverse.dropWhile (· = '0')).reverse with
  | [] => ['0']
  | kept => kept

/-- An exponent with its sign and two digits at least. -/
def exponentText (exponent : Int) : List Char :=
  let ds := digits exponent.natAbs
  'e' :: (if exponent < 0 then '-' else '+') :: (if ds.length < 2 then '0' :: ds else ds)

/-- Digits `ds` whose leading one stands for ten to the `exponent`, in positional notation. -/
def positional (ds : List Char) (exponent : Int) : List Char :=
  if exponent < 0 then
    '0' :: '.' :: List.replicate (-exponent - 1).toNat '0' ++ ds
  else
    let whole := exponent.toNat + 1
    let fraction := ds.drop whole
    ds.take whole ++ List.replicate (whole - ds.length) '0' ++
      '.' :: (if fraction.isEmpty then ['0'] else fraction)

/-- Digits `ds` whose leading one stands for ten to the `exponent`, with a written exponent. -/
def scientific (layout : Layout) (ds : List Char) (exponent : Int) : List Char :=
  let fraction := ds.drop 1
  let point := if !fraction.isEmpty then '.' :: fraction
    else if layout.pointBeforeExponent then ['.', '0'] else []
  ds.take 1 ++ point ++ exponentText exponent

/-- The text of a positive decimal. -/
def write (layout : Layout) (d : Decimal) : List Char :=
  let all := digits d.coefficient
  let exponent := d.exponent + (all.length - 1 : Nat)
  let ds := significant all
  if layout.positionalFrom ≤ exponent ∧ exponent < layout.positionalTo then positional ds exponent
  else layout.scientific ds exponent

end Layout

namespace Binary64

/-- The text of a number in a document: the fewest digits that read back, a point or an exponent
always present. -/
def text : Binary64 → String
  | .nan => "NaN"
  | .infinity negative => if negative then "-Infinity" else "Infinity"
  | .finite negative m =>
    let body := if m.mantissa = 0 then ['0', '.', '0'] else Layout.document.write (.shortest m)
    String.ofList (if negative then '-' :: body else body)

end Binary64

end RowQuery
