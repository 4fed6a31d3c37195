/-!
# Estimates

Costs and numbers of rows are estimated on a logarithmic scale: an estimate is ten times the binary
logarithm of a quantity. Products of quantities are sums of estimates.

* `Estimate.ofNat` is the estimate of a number.
* `Estimate.sum` is the estimate of the sum of two quantities.
* `Estimate.log` is the estimate of the logarithm of a quantity.
-/

namespace RowQuery.Plan

/-- Ten times a binary logarithm. -/
abbrev Estimate := Int

namespace Estimate

/-- Ten times the binary logarithms of eight eighths, nine eighths, and so on. -/
def eighths : List Estimate := [0, 2, 3, 5, 6, 7, 8, 9]

/-- The estimate of a number, from its leading bit and the three bits after it. -/
def ofNat (n : Nat) : Estimate :=
  if n < 2 then 0 else 10 * n.log2 + eighths.getD ((8 * n) >>> n.log2 % 8) 0

/-- What the smaller of two summands adds to the larger one, by the distance between them. -/
def excess (distance : Nat) : Estimate :=
  if distance ≤ 1 then 10
  else if distance ≤ 3 then 9
  else if distance ≤ 5 then 8
  else if distance ≤ 8 then 7
  else if distance ≤ 11 then 6
  else if distance ≤ 14 then 5
  else if distance ≤ 18 then 4
  else if distance ≤ 24 then 3
  else if distance ≤ 31 then 2
  else if distance ≤ 49 then 1
  else 0

/-- The estimate of the sum of two quantities. -/
def sum (a b : Estimate) : Estimate := max a b + excess (a - b).natAbs

/-- The estimate of the logarithm of a quantity. -/
def log (a : Estimate) : Estimate := if a ≤ 10 then 0 else ofNat a.toNat - 33

end Estimate

end RowQuery.Plan
