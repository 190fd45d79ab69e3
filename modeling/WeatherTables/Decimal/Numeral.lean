/-!
# Reading numbers from text

Which texts are read as a real number, and the integers that texts denote. A real number may also be
written `inf`, `infinity` or `nan`, in letters of any case. No size is too large for a real number;
an integer is read within bounds.
-/

set_option autoImplicit false

namespace WeatherTables.Decimal

/-- The text without one sign in front. -/
def dropSign : List Char → List Char
  | '+' :: rest => rest
  | '-' :: rest => rest
  | cs => cs

/-- Nothing, or `e` or `E` with a signed run of digits. -/
def isExponentPart : List Char → Bool
  | [] => true
  | c :: rest =>
    let digits := dropSign rest
    (c == 'e' || c == 'E') && !digits.isEmpty && digits.all Char.isDigit

/-- Digits with at most one point and at least one digit, then an exponent part. -/
def isUnsignedDecimal (cs : List Char) : Bool :=
  let whole := cs.takeWhile Char.isDigit
  match cs.dropWhile Char.isDigit with
  | '.' :: rest =>
    let fraction := rest.takeWhile Char.isDigit
    (!whole.isEmpty || !fraction.isEmpty) && isExponentPart (rest.dropWhile Char.isDigit)
  | rest => !whole.isEmpty && isExponentPart rest

/-- The words read as numbers, in small letters. -/
def numberWords : List (List Char) :=
  [['i', 'n', 'f'], ['i', 'n', 'f', 'i', 'n', 'i', 't', 'y'], ['n', 'a', 'n']]

/-- Whether the text is read as a real number. -/
def isReal (cs : List Char) : Bool :=
  let body := dropSign cs
  numberWords.contains (body.map Char.toLower) || isUnsignedDecimal body

/-- The value of a run of one or more digits. -/
def natural? (cs : List Char) : Option Nat :=
  if !cs.isEmpty && cs.all Char.isDigit then some (Nat.ofDigitChars 10 cs 0) else none

/-- The integer a text denotes: one sign at most, then digits. -/
def integer? : List Char → Option Int
  | '+' :: rest => (natural? rest).map Int.ofNat
  | '-' :: rest => (natural? rest).map fun n => -(n : Int)
  | cs => (natural? cs).map Int.ofNat

/-- The smallest integer of 64 bits. -/
def leastInt64 : Int := -9223372036854775808

/-- The largest integer of 64 bits. -/
def greatestInt64 : Int := 9223372036854775807

/-- The integer of 64 bits a text denotes. -/
def int64? (cs : List Char) : Option Int :=
  (integer? cs).filter fun i => leastInt64 ≤ i && i ≤ greatestInt64

/-- The natural number up to `limit` a text denotes, with a plus sign in front or none. -/
def bounded? (limit : Nat) (cs : List Char) : Option Nat :=
  let digits := match cs with
    | '+' :: rest => rest
    | cs => cs
  (natural? digits).filter (· ≤ limit)

/-- The largest natural number of 64 bits. -/
def greatestNat64 : Nat := 18446744073709551615

/-- The nearest integer of 64 bits. -/
def clampInt64 (i : Int) : Int :=
  max leastInt64 (min greatestInt64 i)

end WeatherTables.Decimal
