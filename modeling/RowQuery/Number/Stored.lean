import RowQuery.Number.Extended
import RowQuery.Number.Layout

/-!
# Numbers in the store

How the store turns decimal digits into a number, and a number into text. Both are done in
arithmetic with 64 significant bits and are not always exact in the last place.

* `Binary64.ofDigits` is the number for digits.
* `Binary64.storedText` is the text of a number, with fifteen digits.

## Design notes

Of the digits, only as many are used as an integer of the store can hold. The power of ten that
remains is computed by squaring, each step rounded. For text, a number is first divided by a power
of ten so that one digit is before the point; then half a unit of the last digit is added and the
digits are cut off one after the other.
-/

namespace RowQuery.Binary64

/-! ### From digits -/

/-- A significand below this takes a further digit. -/
def digitRoom : Nat := 922337203685477579

/-- A significand below this takes a further zero. -/
def zeroRoom : Nat := 922337203685477580

/-- Digits before the point added to a significand, and the number of those left out. -/
def takeWhole (significand : Nat) : List Char → Nat × Nat
  | [] => (significand, 0)
  | c :: rest =>
    let next := significand * 10 + (c.toNat - '0'.toNat)
    if digitRoom ≤ next then (next, rest.length) else takeWhole next rest

/-- Digits after the point added to a significand, and the number of those taken. -/
def takeFraction (significand : Nat) : List Char → Nat × Nat
  | [] => (significand, 0)
  | c :: rest =>
    if significand < digitRoom then
      let (result, taken) := takeFraction (significand * 10 + (c.toNat - '0'.toNat)) rest
      (result, taken + 1)
    else (significand, 0)

/-- A significand with as many zeros added as it takes, up to a number of them; and the number of
those left. -/
def addZeros (significand : Nat) : Nat → Nat × Nat
  | 0 => (significand, 0)
  | n + 1 => if zeroRoom ≤ significand then (significand, n + 1) else addZeros (significand * 10) n

/-- A significand without as many zeros at its end as it has, up to a number of them; and the number
of those left. -/
def dropZeros (significand : Nat) : Nat → Nat × Nat
  | 0 => (significand, 0)
  | n + 1 => if significand % 10 = 0 then dropZeros (significand / 10) n else (significand, n + 1)

/-- The greatest exponent of ten that is computed in one step, and that computed in two. -/
def oneStep : Nat := 307

/-- The greatest exponent of ten that is computed in two steps. -/
def twoSteps : Nat := 341

/-- The units of a finite magnitude, none for others. -/
def size (x : Binary64) : Nat := (x.units?.getD 0).natAbs

/-- The number for a significand times ten to the `n`. -/
def scaleUp (negative : Bool) (significand n : Nat) : Binary64 :=
  if n = 0 then ofRatio negative significand 1
  else if n ≤ oneStep then
    ((Extended.ofNat significand).product (.tenTo n)).toBinary64 negative
  else if n ≤ twoSteps then
    let part := ((Extended.ofNat significand).product (.tenTo (n - 308))).toBinary64 false
    ofRatio negative (part.size * (ofDecimal false 1 308).size) (unitsPerOne * unitsPerOne)
  else .infinity negative

/-- The number for a significand divided by ten to the `n`. -/
def scaleDown (negative : Bool) (significand n : Nat) : Binary64 :=
  if n = 0 then ofRatio negative significand 1
  else if n ≤ oneStep then
    ((Extended.ofNat significand).quotient (.tenTo n)).toBinary64 negative
  else if n ≤ twoSteps then
    let part := ((Extended.ofNat significand).quotient (.tenTo (n - 308))).toBinary64 false
    ofRatio negative part.size (ofDecimal false 1 308).size
  else .finite negative .zero

/-- The number for the digits before and after a point and an exponent of ten. -/
def ofDigits (negative : Bool) (whole fraction : List Char) (exponent : Int) : Binary64 :=
  let (significand, skipped) := takeWhole 0 whole
  let (significand, taken) := takeFraction significand fraction
  let exponent := exponent + skipped - taken
  if significand = 0 then .finite negative .zero
  else if 0 ≤ exponent then
    let (significand, left) := addZeros significand exponent.toNat
    scaleUp negative significand left
  else
    let (significand, left) := dropZeros significand (-exponent).toNat
    scaleDown negative significand left

/-! ### To text -/

/-- Multiplies a scale by a power of ten while it stays at most `x`, at most `fuel` times; the
exponent of the scale goes along. -/
def climb (x factor : Extended) (step : Int) : Nat → Extended × Int → Extended × Int
  | 0, scale => scale
  | fuel + 1, (scale, exponent) =>
    let next := factor.product scale
    if next.atMost x then climb x factor step fuel (next, exponent + step) else (scale, exponent)

/-- Multiplies a number by a power of ten while it is below `bound`, at most `fuel` times; its
exponent goes along. -/
def lift (bound factor : Extended) (step : Int) : Nat → Extended × Int → Extended × Int
  | 0, x => x
  | fuel + 1, (x, exponent) =>
    if bound.atMost x then (x, exponent)
    else lift bound factor step fuel (x.product factor, exponent - step)

/-- A number as one with a single digit before the point, and its exponent of ten. -/
def normalize (x : Extended) : Extended × Int :=
  let scale := climb x (.power 100) 100 4 (.ofNat 1, 0)
  let scale := climb x (.power 10) 10 10 scale
  let (scale, exponent) := climb x (.ofNat 10) 1 10 scale
  let small := lift (.power (-8)) (.power 8) 8 50 (x.quotient scale, exponent)
  lift (.ofNat 1) (.ofNat 10) 1 10 small

/-- The digits of a number with a single digit before the point, cut off after `count` of them; they
follow the digits of `done`. -/
def cutDigits (x : Extended) (done : Nat) : Nat → Nat
  | 0 => done
  | count + 1 =>
    let digit := x.floor
    cutDigits ((x.minus (.ofNat digit)).product (.ofNat 10)) (done * 10 + digit) count

/-- Half a unit of the fifteenth digit. -/
def halfUnit : Extended := (Extended.ofBinary64 (.ofDecimal false 5 (-5))).product (.power (-10))

/-- Fifteen digits of a finite number that is not zero. -/
def fifteenDigits (m : Magnitude) : Decimal :=
  let (x, exponent) := normalize (.ofBinary64 (.finite false m))
  let raised := x.plus halfUnit
  let (x, exponent) :=
    if (Extended.ofNat 10).atMost raised then (raised.product (.power (-1)), exponent + 1)
    else (raised, exponent)
  ⟨cutDigits x 0 15, exponent - 14⟩

/-- The text of a number where the store turns it into text: fifteen digits, zeros without a
sign. -/
def storedText : Binary64 → String
  | .nan => "NaN"
  | .infinity negative => if negative then "-Inf" else "Inf"
  | .finite negative m =>
    if m.mantissa = 0 then "0.0"
    else
      let body := Layout.stored.write (fifteenDigits m)
      String.ofList (if negative then '-' :: body else body)

end RowQuery.Binary64
