import WeatherTables.Decimal.Shortest

/-!
# How binary numbers are written

Two notations for the shortest digits of a binary number. Interchange notation keeps a fraction on
whole numbers and changes to an exponent for very large and very small ones; plain notation never
writes an exponent and drops an empty fraction.
-/

set_option autoImplicit false

namespace WeatherTables.Decimal

/-- The choices of a notation: whether a whole number keeps `.0`, for which decimal exponents all
places are written out, and which of two equally near digits is taken. -/
structure NumberFormat where
  keepsFraction : Bool
  positional : Int → Bool
  tie : Tie

/-- Numbers in interchange texts: `1012.0`, `0.00001`, `1e+16`, `1e-6`. -/
def interchange : NumberFormat :=
  ⟨true, fun exponent => -5 ≤ exponent && exponent ≤ 15, .toEven⟩

/-- Numbers in displayed cells: `1012`, `0.000001`, `10000000000000000`. -/
def plain : NumberFormat :=
  ⟨false, fun _ => true, .up⟩

/-- All places of `digits * 10 ^ exponent`, with `.0` on a whole number if asked for. -/
def positionalText (keepsFraction : Bool) (digits : List Char) (exponent : Int) : List Char :=
  if 0 ≤ exponent then
    digits ++ List.replicate exponent.toNat '0' ++ (if keepsFraction then ['.', '0'] else [])
  else
    let places := (-exponent).toNat
    if digits.length ≤ places then
      '0' :: '.' :: List.replicate (places - digits.length) '0' ++ digits
    else
      digits.take (digits.length - places) ++ '.' :: digits.drop (digits.length - places)

/-- One digit before the point, the others after it, and the signed exponent of the first. -/
def scientificText (digits : List Char) (leading : Int) : List Char :=
  let mantissa := match digits with
    | [] => []
    | [d] => [d]
    | d :: more => d :: '.' :: more
  mantissa ++ ['e', if leading < 0 then '-' else '+'] ++ Nat.toDigits 10 leading.natAbs

/-- The written form of a binary number. -/
def NumberFormat.write (format : NumberFormat) (x : Binary64) : List Char :=
  let scaled := x.shortest format.tie
  let digits := Nat.toDigits 10 scaled.digits
  let leading := scaled.exponent + digits.length - 1
  let body :=
    if format.positional leading then positionalText format.keepsFraction digits scaled.exponent
    else scientificText digits leading
  if x.negative then '-' :: body else body

end WeatherTables.Decimal
