/-!
# Rounding quotients

The two ways a quotient of natural numbers becomes a whole number here: a half goes to the even
neighbour, or a half goes up. `roundQuotient_mul` says that a quotient that is whole already is left
alone.
-/

set_option autoImplicit false

namespace WeatherTables.Decimal

/-- Where a number goes that lies exactly between its two neighbours. -/
inductive Tie
  | toEven
  | up
  deriving DecidableEq, Repr

/-- Whether the upper neighbour `low + 1` is taken, when the number lies `below` from the lower
neighbour and `above` from the upper one. -/
def Tie.takesUpper (tie : Tie) (low below above : Nat) : Bool :=
  if below = above then
    match tie with
    | .toEven => low % 2 == 1
    | .up => true
  else above < below

/-- The whole number nearest to `num / den`. -/
def roundQuotient (tie : Tie) (num den : Nat) : Nat :=
  let low := num / den
  let rest := num % den
  if tie.takesUpper low rest (den - rest) then low + 1 else low

/-- A whole quotient is its own rounding. -/
theorem roundQuotient_mul (tie : Tie) (n den : Nat) (pos : 0 < den) :
    roundQuotient tie (n * den) den = n := by
  unfold roundQuotient Tie.takesUpper
  rw [Nat.mul_div_cancel _ pos, Nat.mul_mod_left]
  simp
  omega

end WeatherTables.Decimal
