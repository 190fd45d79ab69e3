import WeatherTables.Decimal.Rounding

/-!
# Binary floating-point numbers

The finite numbers of the 64-bit binary format, held exactly: a sign, a significand of at most 53
bits and a power of two. Arithmetic is exact on natural numbers and rounds once at the end, a half
to the even neighbour. The power of two has no upper bound in the type; `inRange` says whether the
format still holds the number.
-/

set_option autoImplicit false

namespace WeatherTables.Decimal

/-- Two to the power of `n`. -/
def twoPower (n : Nat) : Nat :=
  Nat.pow 2 n

/-- Ten to the power of `n`. -/
def tenPower (n : Nat) : Nat :=
  Nat.pow 10 n

/-- The number `significand * 2 ^ scale / 2 ^ 1074`, or its negative. -/
structure Binary64 where
  negative : Bool
  significand : Nat
  scale : Nat
  deriving DecidableEq, Repr

namespace Binary64

/-- The exponent of the smallest positive number, `1 / 2 ^ finest`. -/
def finest : Nat := 1074

/-- The largest power of two a significand is multiplied by, in units of the smallest number. -/
def largestScale : Nat := 2045

/-- The smallest significand of full length. -/
def leastFull : Nat := twoPower 52

/-- The first number that is too long for a significand. -/
def tooLong : Nat := twoPower 53

/-- Whether the number is zero, of either sign. -/
def isZero (x : Binary64) : Bool :=
  x.significand == 0

/-- Whether the 64-bit format holds the number. -/
def inRange (x : Binary64) : Bool :=
  x.scale ≤ largestScale

/-- The size of the number in units of the smallest one. -/
def units (x : Binary64) : Nat :=
  x.significand * twoPower x.scale

/-- The number of 53 bits nearest to `num / den`. -/
def nearest (negative : Bool) (num den : Nat) : Binary64 :=
  let inUnits := num * twoPower finest
  let scale := (inUnits / den).log2 - 52
  let significand := roundQuotient .toEven inUnits (den * twoPower scale)
  if significand = tooLong then ⟨negative, leastFull, scale + 1⟩
  else ⟨negative, significand, scale⟩

/-- The number nearest to an integer. -/
def ofInt (i : Int) : Binary64 :=
  nearest (i < 0) i.natAbs 1

/-- The number nearest to a power of ten. -/
def powerOfTen (n : Nat) : Binary64 :=
  nearest false (tenPower n) 1

/-- The rounded product. -/
def mul (x y : Binary64) : Binary64 :=
  nearest (x.negative != y.negative) (x.units * y.units) (twoPower (2 * finest))

/-- The rounded quotient by a number other than zero. -/
def div (x y : Binary64) : Binary64 :=
  nearest (x.negative != y.negative) x.units y.units

/-- The number with the sign turned round. -/
def neg (x : Binary64) : Binary64 :=
  ⟨!x.negative, x.significand, x.scale⟩

/-- The nearest integer, a half going away from zero. -/
def round (x : Binary64) : Int :=
  let size := roundQuotient .up x.units (twoPower finest)
  if x.negative then -size else size

end Binary64

end WeatherTables.Decimal
