import RowQuery.Number.Binary64

/-!
# Numbers with a significand of 64 bits

The arithmetic in which the store turns text into numbers and numbers into text. Every operation
rounds its result to 64 significant bits, a tie going to the even neighbour. Only numbers that are
not negative are needed.

* `Extended.product`, `Extended.quotient`, `Extended.plus` and `Extended.minus` are the operations.
* `Extended.ofBinary64` and `Extended.toBinary64` are the conversions; the first is exact.
-/

namespace RowQuery

/-- The number `mantissa · 2 ^ exponent`. -/
structure Extended where
  mantissa : Nat
  exponent : Int
deriving DecidableEq

namespace Extended

/-- The number of significant bits. -/
def precision : Nat := 64

/-- Two natural numbers whose quotient is `num / den · 2 ^ exponent`. -/
def scale (num den : Nat) (exponent : Int) : Nat × Nat :=
  if 0 ≤ exponent then (num <<< exponent.toNat, den) else (num, den <<< (-exponent).toNat)

/-- The number nearest to `num / den · 2 ^ exponent`. -/
def round (num den : Nat) (exponent : Int) : Extended :=
  -- a unit that is small enough for more bits than are kept
  let unit : Int := num.log2 - den.log2 - precision
  let (dividend, divisor) := scale num den (-unit)
  let unit := unit + (dividend / divisor).log2 + 1 - precision
  let (dividend, divisor) := scale num den (-unit)
  ⟨Number.roundToEven dividend divisor, exponent + unit⟩

/-- A natural number, exactly. -/
def ofNat (n : Nat) : Extended := ⟨n, 0⟩

/-- The product. -/
def product (a b : Extended) : Extended :=
  round (a.mantissa * b.mantissa) 1 (a.exponent + b.exponent)

/-- The quotient. -/
def quotient (a b : Extended) : Extended :=
  round a.mantissa b.mantissa (a.exponent - b.exponent)

/-- The mantissas of two numbers in a unit that both have, and the exponent of that unit. -/
def align (a b : Extended) : Nat × Nat × Int :=
  let exponent := min a.exponent b.exponent
  (a.mantissa <<< (a.exponent - exponent).toNat, b.mantissa <<< (b.exponent - exponent).toNat,
    exponent)

/-- The sum. -/
def plus (a b : Extended) : Extended :=
  let (m, n, exponent) := align a b
  round (m + n) 1 exponent

/-- The difference, where it is not negative. -/
def minus (a b : Extended) : Extended :=
  let (m, n, exponent) := align a b
  round (m - n) 1 exponent

/-- Whether a number is at most another one. -/
def atMost (a b : Extended) : Bool :=
  let (m, n, _) := align a b
  m ≤ n

/-- The greatest natural number that is not above the number. -/
def floor (a : Extended) : Nat :=
  let (dividend, divisor) := scale a.mantissa 1 a.exponent
  dividend / divisor

/-- The magnitude of a number of the 64-bit format. -/
def ofBinary64 : Binary64 → Extended
  | .finite _ m => ⟨m.mantissa, (m.exponent : Int) - 1074⟩
  | .nan | .infinity _ => ofNat 0

/-- The nearest number of the 64-bit format. -/
def toBinary64 (negative : Bool) (a : Extended) : Binary64 :=
  let (num, den) := scale a.mantissa 1 a.exponent
  .ofRatio negative num den

/-- A power of ten in the 64-bit format. -/
def power (exponent : Int) : Extended := ofBinary64 (.ofDecimal false 1 exponent)

/-- Ten to the power of `n`, by repeated squaring of `square`, each step rounded; `fuel` is the
number of bits of `n` that are looked at. -/
def powerBySquares (square : Extended) (result : Extended) (n : Nat) : Nat → Extended
  | 0 => result
  | fuel + 1 =>
    let result := if n % 2 = 1 then result.product square else result
    if n / 2 = 0 then result else powerBySquares (square.product square) result (n / 2) fuel

/-- Ten to the power of `n`, rounded at each step. -/
def tenTo (n : Nat) : Extended := powerBySquares (ofNat 10) (ofNat 1) n (n.log2 + 1)

end Extended

end RowQuery
