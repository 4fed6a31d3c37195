import RowQuery.Number.Binary64

/-!
# Decimal digits of a number

The digits of a finite nonzero magnitude.

* `Decimal.shortest` has the fewest digits that read back as the same number.

## Design notes

With a fixed number of digits, the decimals around a magnitude form a grid, and only the
neighbours below and above it can be nearest. The shortest digits are found on the first grid that
has a neighbour which reads back; reading back is asked of `Binary64.ofDecimal` itself.
-/

namespace RowQuery

/-- A decimal number `coefficient · 10 ^ exponent`. -/
structure Decimal where
  coefficient : Nat
  exponent : Int
deriving DecidableEq

namespace Decimal

/-- The exponent of the leading digit of `num / den`, for a positive quotient. -/
def leadingExponent (num den : Nat) : Int :=
  if den ≤ num then (Nat.toDigits 10 (num / den)).length - 1
  else
    -- the reciprocal, rounded up, has one digit more than there are zeros to pass
    -((Nat.toDigits 10 ((den - 1) / num)).length : Int)

/-- The two natural numbers whose quotient is `num / den / 10 ^ exponent`. -/
def scaleDown (num den : Nat) (exponent : Int) : Nat × Nat :=
  if 0 ≤ exponent then (num, den * Nat.pow 10 exponent.toNat)
  else (num * Nat.pow 10 (-exponent).toNat, den)

/-- Whether the decimal is read as the magnitude. -/
def readsBack (m : Magnitude) (d : Decimal) : Bool :=
  Binary64.ofDecimal false d.coefficient d.exponent == .finite false m

/-- Of the two neighbours with `digits` digits, one that reads back; the nearer if both do. -/
def neighbour? (m : Magnitude) (digits : Nat) : Option Decimal :=
  let exponent := leadingExponent m.units Binary64.unitsPerOne - (digits - 1 : Nat)
  let (num, den) := scaleDown m.units Binary64.unitsPerOne exponent
  let below : Decimal := ⟨num / den, exponent⟩
  let above : Decimal := ⟨num / den + 1, exponent⟩
  match readsBack m below, readsBack m above with
  | true, true => some ⟨Number.roundToEven num den, exponent⟩
  | true, false => some below
  | false, true => some above
  | false, false => none

/-- The shortest decimal that reads back as the magnitude. Seventeen digits always do; past them
stands the exact decimal. -/
def shortest (m : Magnitude) : Decimal :=
  match (List.range 17).findSome? fun k => neighbour? m (k + 1) with
  | some d => d
  | none => ⟨m.units * Nat.pow 5 1074, -1074⟩

end Decimal

end RowQuery
