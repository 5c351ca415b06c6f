import Standby.Decimal.Binary

/-!
# Shortest decimals

The shortest decimal that reads back as a given number in double precision, and
of several such decimals the nearest to the number; of two equally near, the one
farther from zero.

A decimal reads back when it lies in the interval of reals that round to the
number. Grids of decimals are tried from coarse to fine, and on each grid the
two neighbours of the number. If any point of a grid lies in the interval, then
one of these two does.
-/

namespace Standby.Decimal

/-- The decimal `digits * 10 ^ exponent`. -/
structure Shortest where
  digits : Nat
  exponent : Int
deriving DecidableEq, Repr

/-- The reals that round to a positive number, as multiples of a quarter of its
last place. The number itself is in the middle, except that below a power of two
the interval is half as wide. -/
structure Interval where
  low : Nat
  middle : Nat
  high : Nat
  closed : Bool
  /-- The exponent of two of a quarter of the last place. -/
  exponent : Int
deriving Repr

/-- The interval of a finite positive number. -/
def Interval.of (mantissa : Nat) (exponent : Int) : Interval :=
  let narrow := mantissa = leastNormal && leastExponent < exponent
  { low := 4 * mantissa - (if narrow then 1 else 2)
    middle := 4 * mantissa
    high := 4 * mantissa + 2
    closed := mantissa % 2 == 0
    exponent := exponent - 2 }

/-- The factors that bring a grid of decimals and a grid of binary fractions to a
common unit: first that of the decimals, then that of the fractions. -/
def commonScale (decimalExponent binaryExponent : Int) : Nat × Nat :=
  (Nat.pow 10 decimalExponent.toNat * Nat.pow 2 (-binaryExponent).toNat,
   Nat.pow 2 binaryExponent.toNat * Nat.pow 10 (-decimalExponent).toNat)

/-- A point, in the common unit, lies in the interval with the given ends. -/
def within (closed : Bool) (low high point : Nat) : Bool :=
  if closed then low ≤ point && point ≤ high else low < point && point < high

/-- The grid point of the interval that is nearest to its middle, if any; of two
equally near ones, the upper. -/
def Interval.nearest (interval : Interval) (decimalExponent : Int) : Option Nat :=
  let (decimal, binary) := commonScale decimalExponent interval.exponent
  let middle := interval.middle * binary
  let below := middle / decimal
  let holds (candidate : Nat) :=
    candidate != 0 &&
      within interval.closed (interval.low * binary) (interval.high * binary) (candidate * decimal)
  match holds below, holds (below + 1) with
  | true, true =>
    some (if 2 * (middle - below * decimal) < decimal then below else below + 1)
  | true, false => some below
  | false, true => some (below + 1)
  | false, false => none

/-- Try grids from the given exponent down to finer ones. -/
def Interval.search (interval : Interval) : Nat → Int → Shortest
  | 0, exponent => ⟨interval.middle, exponent⟩
  | steps + 1, exponent =>
    match interval.nearest exponent with
    | some digits => ⟨digits, exponent⟩
    | none => interval.search steps (exponent - 1)

/-- A decimal exponent above every decimal that reads back. -/
def coarseExponent (mantissa : Nat) (exponent : Int) : Int :=
  (mantissa.log2 + 1 + exponent) * 30103 / 100000 + 2

/-- The shortest decimal of a finite number without its sign. -/
def Shortest.of (mantissa : Nat) (exponent : Int) : Shortest :=
  if mantissa = 0 then ⟨0, 0⟩
  else (Interval.of mantissa exponent).search 24 (coarseExponent mantissa exponent)

end Standby.Decimal
