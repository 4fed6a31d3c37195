import RowQuery.Clock.Instant
import RowQuery.Json.Display

/-!
# Clock readings and fresh identifiers

What a run of requests takes from outside: the instants that it reads off the clock, and the
identifiers that it gives to new rows. Both are sequences, and a run counts how many it has drawn.

* `Sources.steady` is a clock that goes on by equal steps, with identifiers made from a counter.
* `Identifier.ofNat` is the identifier made from a number.
-/

namespace RowQuery

namespace Identifier

/-- A random identifier (version 4) made from 128 bits: the version and the variant take the place
of six of them. -/
def bits (n : Nat) : Nat :=
  let high := (n >>> 80) % (1 <<< 48)
  let middle := (n >>> 64) % (1 <<< 12)
  let low := n % (1 <<< 62)
  (high <<< 80) + (4 <<< 76) + (middle <<< 64) + (2 <<< 62) + low

/-- The identifier made from a number, in five groups of hexadecimal digits. -/
def ofNat (n : Nat) : String :=
  let ds := Json.hexDigits 32 (bits n)
  String.ofList (Text.joinWith ['-']
    [ds.take 8, (ds.drop 8).take 4, (ds.drop 12).take 4, (ds.drop 16).take 4, ds.drop 20])

end Identifier

/-- The instants and identifiers that a run draws, by how many it has drawn before. -/
structure Sources where
  instant : Nat → Instant
  identifier : Nat → String

namespace Sources

/-- A clock that starts at an instant and goes on by equal steps; identifiers count from one. -/
def steady (start step : Int) : Sources where
  instant n := start + n * step
  identifier n := Identifier.ofNat (n + 1)

end Sources

/-- How much a run has drawn. -/
structure Draws where
  instants : Nat
  identifiers : Nat
deriving DecidableEq

/-- Nothing drawn yet. -/
def Draws.none : Draws := ⟨0, 0⟩

end RowQuery
