import WeatherTables.Decimal.Binary64

/-!
# Shortest decimal digits

The fewest decimal digits that read back as a given binary number. The numbers that read back form
an interval around it, ends included when the significand is even. `Binary64.shortest` walks from
coarse decimal grids to finer ones and takes the first grid with a point in the interval; of two
such points it takes the nearer one.
-/

set_option autoImplicit false

namespace WeatherTables.Decimal

/-- The number `digits * 10 ^ exponent`. -/
structure Scaled where
  digits : Nat
  exponent : Int
  deriving DecidableEq, Repr

/-- The fraction `num / den`, and how far a reading may miss it to either side. -/
structure Interval where
  num : Nat
  den : Nat
  below : Nat
  above : Nat
  closed : Bool

namespace Interval

/-- Whether `point / den` reads back as the number in the middle. -/
def holds (i : Interval) (point : Nat) : Bool :=
  if i.closed then i.num ≤ point + i.below && point ≤ i.num + i.above
  else i.num < point + i.below && point < i.num + i.above

/-- The interval with everything multiplied by a natural number. -/
def magnify (i : Interval) (factor : Nat) : Interval :=
  ⟨i.num * factor, i.den, i.below * factor, i.above * factor, i.closed⟩

/-- The interval with everything divided by a natural number. -/
def shrink (i : Interval) (factor : Nat) : Interval :=
  ⟨i.num, i.den * factor, i.below, i.above, i.closed⟩

/-- The interval counted in units of `10 ^ exponent`. -/
def onGrid (i : Interval) (exponent : Int) : Interval :=
  if 0 ≤ exponent then i.shrink (tenPower exponent.toNat) else i.magnify (tenPower (-exponent).toNat)

/-- The whole number in the interval that is nearest to its middle, if there is one. -/
def wholePoint? (i : Interval) (tie : Tie) : Option Nat :=
  let low := i.num / i.den
  let rest := i.num % i.den
  let lowHolds := i.holds (low * i.den)
  let highHolds := i.holds ((low + 1) * i.den)
  if lowHolds && highHolds then
    some (if tie.takesUpper low rest (i.den - rest) then low + 1 else low)
  else if lowHolds then some low
  else if highHolds then some (low + 1)
  else none

end Interval

namespace Binary64

/-- The numbers that read back as this one, in quarters of the smallest number. Below a power of two
the neighbours lie twice as close. -/
def readings (x : Binary64) : Interval :=
  let gap := twoPower x.scale
  ⟨4 * x.units, 4 * twoPower finest,
    if x.significand = leastFull ∧ 0 < x.scale then gap else 2 * gap,
    2 * gap, x.significand % 2 == 0⟩

/-- An exponent of ten above that of the number. -/
def coarsest (x : Binary64) : Int :=
  ((x.units.log2 : Int) - finest + 1) * 30103 / 100000 + 2

/-- The first grid point among the next `steps` grids, each ten times finer than the one before. The
number itself is a point of the last grid looked at. -/
def search (x : Binary64) (tie : Tie) : Nat → Int → Scaled
  | 0, _ => ⟨x.units * Nat.pow 5 finest, -finest⟩
  | steps + 1, exponent =>
    match (x.readings.onGrid exponent).wholePoint? tie with
    | some digits => ⟨digits, exponent⟩
    | none => search x tie steps (exponent - 1)

/-- The size of the number in as few digits as read back. -/
def shortest (x : Binary64) (tie : Tie) : Scaled :=
  if x.isZero then ⟨0, 0⟩
  else x.search tie (x.coarsest + finest).toNat x.coarsest

end Binary64

end WeatherTables.Decimal
