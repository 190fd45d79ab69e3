import WeatherTables.Calendar.Date
import WeatherTables.Text.Blank

/-!
# Timestamps

A date and a time of day in UTC, to the second. A timestamp comes from a count of seconds or from a
text, and is written with a blank or a `T` between date and time. The sixtieth second of a minute,
which counts of seconds never reach, is kept as it was read.
-/

set_option autoImplicit false

namespace WeatherTables

/-- A date and a time of day. -/
structure Timestamp where
  date : Date
  hour : Nat
  minute : Nat
  second : Nat
  deriving DecidableEq, Repr

namespace Timestamp

/-- The seconds of a day. -/
def daySeconds : Int := 86400

/-- The timestamp so many seconds after the beginning of 1970, in the years represented. -/
def ofEpoch? (seconds : Int) : Option Timestamp :=
  let date := Date.ofDayNumber (seconds / daySeconds)
  let rest := (seconds % daySeconds).toNat
  if date.isValid then some ⟨date, rest / 3600, rest / 60 % 60, rest % 60⟩ else none

/-! ## Writing -/

/-- A natural number in at least so many digits. -/
def padded (width n : Nat) : List Char :=
  let digits := Nat.toDigits 10 n
  List.replicate (width - digits.length) '0' ++ digits

/-- A year in at least four digits, with a sign unless it has just four and is not negative. -/
def yearText (year : Int) : List Char :=
  if year < 0 then '-' :: padded 4 year.natAbs
  else if 9999 < year then '+' :: padded 4 year.natAbs
  else padded 4 year.natAbs

/-- The timestamp with the given character between date and time. -/
def write (between : Char) (t : Timestamp) : String :=
  String.ofList
    (yearText t.date.year ++ '-' :: padded 2 t.date.month ++ '-' :: padded 2 t.date.day ++
      between :: padded 2 t.hour ++ ':' :: padded 2 t.minute ++ ':' :: padded 2 t.second)

/-! ## Reading -/

/-- A number of at most `width` digits, and what follows it. -/
def digits? (width : Nat) (cs : List Char) : Option (Nat × List Char) :=
  match (cs.take width).takeWhile Char.isDigit with
  | [] => none
  | ds => some (Nat.ofDigitChars 10 ds 0, cs.drop ds.length)

/-- A number of one or two digits after any blanks. -/
def part? (cs : List Char) : Option (Nat × List Char) :=
  digits? 2 (Text.dropBlanks cs)

/-- A year after any blanks: four digits at most, or a sign and any number of digits. -/
def year? (cs : List Char) : Option (Int × List Char) :=
  match Text.dropBlanks cs with
  | '-' :: rest => (digits? rest.length rest).map fun (n, after) => (-(n : Int), after)
  | '+' :: rest => (digits? rest.length rest).map fun (n, after) => ((n : Int), after)
  | rest => (digits? 4 rest).map fun (n, after) => ((n : Int), after)

/-- The rest of a text after the given character. -/
def after? (c : Char) : List Char → Option (List Char)
  | [] => none
  | d :: rest => if d = c then some rest else none

/-- The timestamp that a text names: year, month, day, then hours, minutes, seconds. -/
def read? (s : String) : Option Timestamp := do
  let (year, cs) ← year? s.toList
  let (month, cs) ← part? (← after? '-' cs)
  let (day, cs) ← part? (← after? '-' cs)
  let (hour, cs) ← part? cs
  let (minute, cs) ← part? (← after? ':' cs)
  let (second, cs) ← part? (← after? ':' cs)
  let date : Date := ⟨year, month, day⟩
  if cs.isEmpty && date.isValid && hour ≤ 23 && minute ≤ 59 && second ≤ 60 then
    return ⟨date, hour, minute, second⟩
  else none

end Timestamp

end WeatherTables
