/-!
# Character classes

A character class is a list of ranges of code points. Membership is the only question asked of one.
-/

set_option autoImplicit false

namespace WeatherTables.Text

/-- A set of characters, as ranges of code points with both ends included. -/
abbrev CharClass := List (Nat × Nat)

/-- Whether the character lies in one of the ranges. -/
def CharClass.holds (ranges : CharClass) (c : Char) : Bool :=
  ranges.any fun (low, high) => low ≤ c.toNat && c.toNat ≤ high

end WeatherTables.Text
