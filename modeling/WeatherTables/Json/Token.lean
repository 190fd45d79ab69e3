import WeatherTables.Json.Basic

/-!
# Tokens of interchange text

The first half of reading: characters become tokens. A string is read in two steps, so that the
rule on halves of a character stands alone: `pieces` undoes the escapes and `assemble` joins the
halves. A number is gathered digit by digit into a significand of 64 bits and scaled by one power of
ten, so that very long numbers lose their last digits.
-/

set_option autoImplicit false

namespace WeatherTables

open Decimal

namespace Json

/-- The smallest meaningful parts of interchange text. -/
inductive Token where
  | scalar (value : Json)
  | openArray
  | closeArray
  | openObject
  | closeObject
  | comma
  | colon

/-! ## Strings -/

/-- What one character or escape of a string stands for: a character, or a half of one. -/
inductive Piece where
  | char (c : Char)
  | unit (value : Nat)

/-- The value of a hexadecimal digit. -/
def hexDigit? (c : Char) : Option Nat :=
  if c.isDigit then some (c.toNat - '0'.toNat)
  else if 'a' ≤ c ∧ c ≤ 'f' then some (c.toNat - 'a'.toNat + 10)
  else if 'A' ≤ c ∧ c ≤ 'F' then some (c.toNat - 'A'.toNat + 10)
  else none

/-- The value of four hexadecimal digits. -/
def hexUnit? (a b c d : Char) : Option Nat := do
  let a ← hexDigit? a
  let b ← hexDigit? b
  let c ← hexDigit? c
  let d ← hexDigit? d
  return ((a * 16 + b) * 16 + c) * 16 + d

/-- The character a backslash and a letter stand for. -/
def escape? : Char → Option Char
  | '"' => some '"'
  | '\\' => some '\\'
  | '/' => some '/'
  | 'b' => some '\x08'
  | 'f' => some '\x0c'
  | 'n' => some '\n'
  | 'r' => some '\r'
  | 't' => some '\t'
  | _ => none

/-- The inside of a string up to its closing quote, and what follows the quote. -/
def pieces : List Char → Option (List Piece × List Char)
  | [] => none
  | '"' :: rest => some ([], rest)
  | '\\' :: 'u' :: a :: b :: c :: d :: rest => do
    let value ← hexUnit? a b c d
    let (more, after) ← pieces rest
    return (.unit value :: more, after)
  | '\\' :: e :: rest => do
    let c ← escape? e
    let (more, after) ← pieces rest
    return (.char c :: more, after)
  | c :: rest =>
    if c.toNat < 0x20 then none
    else do
      let (more, after) ← pieces rest
      return (.char c :: more, after)

/-- The first half of a character beyond the basic plane. -/
def isHighUnit (value : Nat) : Bool :=
  0xD800 ≤ value && value ≤ 0xDBFF

/-- The second half of a character beyond the basic plane. -/
def isLowUnit (value : Nat) : Bool :=
  0xDC00 ≤ value && value ≤ 0xDFFF

/-- The characters of a string; a half without its partner is refused. -/
def assemble : List Piece → Option (List Char)
  | [] => some []
  | .char c :: rest => (assemble rest).map (c :: ·)
  | .unit high :: .unit low :: rest =>
    if isHighUnit high then
      if isLowUnit low then
        (assemble rest).map
          (Char.ofNat (0x10000 + (high - 0xD800) * 0x400 + (low - 0xDC00)) :: ·)
      else none
    else if isLowUnit high then none
    else (assemble (.unit low :: rest)).map (Char.ofNat high :: ·)
  | .unit value :: rest =>
    if isHighUnit value || isLowUnit value then none
    else (assemble rest).map (Char.ofNat value :: ·)

/-- A string after its opening quote. -/
def readString (cs : List Char) : Option (String × List Char) := do
  let (found, rest) ← pieces cs
  let chars ← assemble found
  return (String.ofList chars, rest)

/-! ## Numbers -/

/-- The digits of a number as written. A part that is absent is `none`. -/
structure Numeral where
  negative : Bool
  whole : List Char
  fraction : Option (List Char)
  exponent : Option (Bool × List Char)

/-- One or more digits, and what follows them. -/
def digits? (cs : List Char) : Option (List Char × List Char) :=
  match cs.takeWhile Char.isDigit with
  | [] => none
  | ds => some (ds, cs.dropWhile Char.isDigit)

/-- The digits before the point: a single zero, or digits that start with none. -/
def wholePart? : List Char → Option (List Char × List Char)
  | '0' :: rest => some (['0'], rest)
  | cs => digits? cs

/-- The digits after the point, where there is a point. -/
def fractionPart? : List Char → Option (Option (List Char) × List Char)
  | '.' :: rest => (digits? rest).map fun (ds, after) => (some ds, after)
  | cs => some (none, cs)

/-- The digits of an exponent after its letter; the flag says that it is negative. -/
def exponentDigits? : List Char → Option ((Bool × List Char) × List Char)
  | '-' :: rest => (digits? rest).map fun (ds, after) => ((true, ds), after)
  | '+' :: rest => (digits? rest).map fun (ds, after) => ((false, ds), after)
  | cs => (digits? cs).map fun (ds, after) => ((false, ds), after)

/-- The exponent, where there is one. -/
def exponentPart? : List Char → Option (Option (Bool × List Char) × List Char)
  | c :: rest =>
    if c = 'e' ∨ c = 'E' then (exponentDigits? rest).map fun (e, after) => (some e, after)
    else some (none, c :: rest)
  | [] => some (none, [])

/-- A number as written, and what follows it. -/
def numeral? (negative : Bool) (cs : List Char) : Option (Numeral × List Char) := do
  let (whole, cs) ← wholePart? cs
  let (fraction, cs) ← fractionPart? cs
  let (exponent, cs) ← exponentPart? cs
  return (⟨negative, whole, fraction, exponent⟩, cs)

/-- Appends digits to a significand while it stays within its limit. The second part counts the
digits that were left over. -/
def gather (significand : Nat) : List Char → Nat × Nat
  | [] => (significand, 0)
  | d :: rest =>
    let longer := significand * 10 + (d.toNat - '0'.toNat)
    if longer ≤ greatestNat64 then gather longer rest else (significand, rest.length + 1)

/-- The largest exponent of ten that is multiplied or divided by in one step. -/
def largestPower : Nat := 308

/-- A number divided by a power of ten, in steps of the largest one. -/
def scaleDown (x : Binary64) (power : Nat) : Binary64 :=
  if power ≤ largestPower then x.div (.powerOfTen power)
  else if x.isZero then x
  else scaleDown (x.div (.powerOfTen largestPower)) (power - largestPower)
termination_by power
decreasing_by unfold largestPower at *; omega

/-- A significand times a power of ten, unless that is too large. -/
def scaled? (significand : Nat) (exponent : Int) : Option Binary64 :=
  let x := Binary64.ofInt significand
  if x.isZero then some x
  else if 0 ≤ exponent then
    if exponent ≤ largestPower then
      some (x.mul (.powerOfTen exponent.toNat)) |>.filter Binary64.inRange
    else none
  else some (scaleDown x (-exponent).toNat)

/-- The largest exponent that is looked at digit by digit. -/
def exponentLimit : Nat := 2147483647

namespace Numeral

/-- The size of the number as a binary number. -/
def size? (n : Numeral) : Option Binary64 :=
  let (whole, dropped) := gather 0 n.whole
  let fraction := n.fraction.getD []
  let (significand, unread) := gather whole fraction
  let shift : Int := (dropped : Int) - (fraction.length - unread : Nat)
  match n.exponent with
  | none => scaled? significand shift
  | some (isNegative, ds) =>
    let exponent := Nat.ofDigitChars 10 ds 0
    if exponentLimit < exponent then
      if significand ≠ 0 ∧ !isNegative then none else some (.ofInt 0)
    else scaled? significand (if isNegative then shift - exponent else shift + exponent)

/-- The number: an integer if it is written as one and fits 64 bits, otherwise a binary number. -/
def value? (n : Numeral) : Option Number :=
  let whole := Nat.ofDigitChars 10 n.whole 0
  let asFloat := n.size?.map fun x => Number.float (if n.negative then x.neg else x)
  match n.fraction, n.exponent with
  | none, none =>
    if n.negative then
      if 0 < whole ∧ leastInt64 ≤ -(whole : Int) then some (.integer (-(whole : Int))) else asFloat
    else if whole ≤ greatestNat64 then some (.integer whole) else asFloat
  | _, _ => asFloat

end Numeral

/-- A number that starts with the given sign, and what follows it. -/
def readNumber (negative : Bool) (cs : List Char) : Option (Json × List Char) := do
  let (n, rest) ← numeral? negative cs
  let value ← n.value?
  return (.number value, rest)

/-! ## Tokens -/

/-- The blanks allowed between tokens. -/
def isGap (c : Char) : Bool :=
  c == ' ' || c == '\t' || c == '\n' || c == '\r'

/-- The rest of a text after a word, if it starts with that word. -/
def afterWord? (word cs : List Char) : Option (List Char) :=
  if word.isPrefixOf cs then some (cs.drop word.length) else none

/-- The token that starts with the given character, and what follows it. -/
def token? (c : Char) (rest : List Char) : Option (Token × List Char) :=
  match c with
  | '[' => some (.openArray, rest)
  | ']' => some (.closeArray, rest)
  | '\x7b' => some (.openObject, rest)
  | '\x7d' => some (.closeObject, rest)
  | ',' => some (.comma, rest)
  | ':' => some (.colon, rest)
  | '"' => (readString rest).map fun (s, after) => (.scalar (.string s), after)
  | 'n' => (afterWord? ['u', 'l', 'l'] rest).map fun after => (.scalar .null, after)
  | 't' => (afterWord? ['r', 'u', 'e'] rest).map fun after => (.scalar (.bool true), after)
  | 'f' => (afterWord? ['a', 'l', 's', 'e'] rest).map fun after => (.scalar (.bool false), after)
  | '-' => (readNumber true rest).map fun (n, after) => (.scalar n, after)
  | c => (readNumber false (c :: rest)).map fun (n, after) => (.scalar n, after)

/-- The tokens of a text of at most the given length. -/
def tokensWithin : Nat → List Char → Option (List Token)
  | _, [] => some []
  | 0, _ :: _ => none
  | n + 1, c :: rest =>
    if isGap c then tokensWithin n rest
    else match token? c rest with
      | none => none
      | some (token, after) => (tokensWithin n after).map (token :: ·)

/-- The tokens of a text, or nothing if a part of it is none. -/
def tokens (cs : List Char) : Option (List Token) :=
  tokensWithin cs.length cs

end Json

end WeatherTables
