/-!
# Binary floating-point numbers

The numbers of the 64-bit binary format, each in one canonical form, so that equality of values
of this type tells the zeros apart and holds of a not-a-number.

* `Number.roundToEven` rounds a quotient to an integer; a tie goes to the even neighbour.
* `Binary64.ofRatio` rounds a quotient of natural numbers to the nearest number of the format.
* `Binary64.ofDecimal` does so for a decimal coefficient and exponent.
* `Binary64.toInt?` is the integer that a number equals, if there is one.

## Design notes

A magnitude is counted in units of the smallest positive number, `2 ^ -1074`: it is
`mantissa · 2 ^ exponent` units. Nothing here is arithmetic on the numbers; they are read, compared
and written, and all of it is done on natural numbers.
-/

namespace RowQuery

/-- The integer nearest to `num / den`, a tie going to the even neighbour. -/
def Number.roundToEven (num den : Nat) : Nat :=
  let quotient := num / den
  let twice := 2 * (num % den)
  if twice < den then quotient
  else if den < twice then quotient + 1
  else quotient + quotient % 2

/-- The mantissas are below this power of two. -/
def mantissaLimit : Nat := Nat.pow 2 53

/-- A finite magnitude of `mantissa · 2 ^ exponent` units, where a unit is `2 ^ -1074`. The leading
bit of the mantissa is set unless the exponent is zero, so each magnitude has one form. -/
structure Magnitude where
  mantissa : Nat
  exponent : Nat
  canonical : mantissa < mantissaLimit ∧ exponent ≤ 2045 ∧
    (exponent = 0 ∨ mantissaLimit / 2 ≤ mantissa)
deriving DecidableEq

namespace Magnitude

/-- The magnitude zero. -/
def zero : Magnitude := ⟨0, 0, by decide⟩

/-- The magnitude of a mantissa and an exponent that are in canonical form. -/
def ofParts? (mantissa exponent : Nat) : Option Magnitude :=
  if h : mantissa < mantissaLimit ∧ exponent ≤ 2045 ∧
    (exponent = 0 ∨ mantissaLimit / 2 ≤ mantissa) then
    some ⟨mantissa, exponent, h⟩
  else none

/-- The size in units of `2 ^ -1074`. -/
def units (m : Magnitude) : Nat := m.mantissa * Nat.pow 2 m.exponent

end Magnitude

/-- A number of the 64-bit binary format. -/
inductive Binary64 where
  | nan
  | infinity (negative : Bool)
  | finite (negative : Bool) (magnitude : Magnitude)
deriving DecidableEq

namespace Binary64

/-- How many units make one. -/
def unitsPerOne : Nat := Nat.pow 2 1074

/-- The number of a mantissa that has been rounded, and its exponent. Rounding may have carried into
a bit more; past the greatest finite number it is an infinity. -/
def ofRounded (negative : Bool) (mantissa exponent : Nat) : Binary64 :=
  match Magnitude.ofParts? mantissa exponent with
  | some magnitude => .finite negative magnitude
  | none =>
    match Magnitude.ofParts? (mantissa / 2) (exponent + 1) with
    | some magnitude => .finite negative magnitude
    | none => .infinity negative

/-- The number nearest to `± num / den`, ties to the even mantissa. -/
def ofRatio (negative : Bool) (num den : Nat) : Binary64 :=
  let scaled := num * unitsPerOne
  let exponent := Nat.log2 (scaled / den) - 52
  ofRounded negative (Number.roundToEven scaled (den * Nat.pow 2 exponent)) exponent

/-- The number nearest to `± coefficient · 10 ^ exponent`. Exponents that are far out of the
format's reach are settled without computing the power. -/
def ofDecimal (negative : Bool) (coefficient : Nat) (exponent : Int) : Binary64 :=
  let magnitude := exponent + (Nat.toDigits 10 coefficient).length
  if coefficient = 0 then .finite negative .zero
  else if 400 < magnitude then .infinity negative
  else if magnitude < -400 then .finite negative .zero
  else if 0 ≤ exponent then ofRatio negative (coefficient * Nat.pow 10 exponent.toNat) 1
  else ofRatio negative coefficient (Nat.pow 10 (-exponent).toNat)

/-- The signed size in units, of a finite number. -/
def units? : Binary64 → Option Int
  | .finite negative m => some (if negative then -(m.units : Int) else m.units)
  | _ => none

/-- The integer that the number equals. -/
def toInt? (x : Binary64) : Option Int :=
  match x.units? with
  | some units => if units % unitsPerOne = 0 then some (units / unitsPerOne) else none
  | none => none

/-- Whether the number is a zero of either sign. -/
def isZero (x : Binary64) : Bool := x.units? == some 0

/-- How a number stands to an integer; a not-a-number is placed below all. -/
def compareInt (x : Binary64) (n : Int) : Ordering :=
  match x with
  | .nan | .infinity true => .lt
  | .infinity false => .gt
  | .finite _ _ => compare (x.units?.getD 0) (n * unitsPerOne)

/-- The order of two numbers; the two zeros are equal, a not-a-number is placed below all. -/
def order : Binary64 → Binary64 → Ordering
  | .nan, .nan => .eq
  | .nan, _ => .lt
  | _, .nan => .gt
  | .infinity a, .infinity b => compare (!a) (!b)
  | .infinity a, .finite _ _ => if a then .lt else .gt
  | .finite _ _, .infinity b => if b then .gt else .lt
  | x, y => compare (x.units?.getD 0) (y.units?.getD 0)

end Binary64

end RowQuery
