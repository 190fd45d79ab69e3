import WeatherTables.Decimal.Numeral
import WeatherTables.Decimal.Notation

/-!
# Interchange values

The values of the interchange format in which filters, requests and payloads travel. An object keeps
its members sorted by name, each name once: `Json.object` builds one from a list in which a later
member replaces an earlier one of the same name.
-/

set_option autoImplicit false

namespace WeatherTables

open Decimal

/-- A number: an integer as written, or a binary number. -/
inductive Number where
  | integer (value : Int)
  | float (value : Binary64)
  deriving DecidableEq, Repr

namespace Number

/-- The nearest binary number. -/
def toBinary64 : Number → Binary64
  | .integer i => .ofInt i
  | .float x => x

/-- The number as an integer of 64 bits, when it is one. -/
def toInt64? : Number → Option Int
  | .integer i => if leastInt64 ≤ i ∧ i ≤ greatestInt64 then some i else none
  | .float _ => none

/-- The nearest integer of 64 bits, a half going away from zero. -/
def rounded (n : Number) : Int :=
  n.toInt64?.getD (clampInt64 n.toBinary64.round)

/-- The digits of an integer after its sign. -/
def integerText (i : Int) : List Char :=
  if i < 0 then '-' :: Nat.toDigits 10 i.natAbs else Nat.toDigits 10 i.natAbs

/-- The number as interchange text. -/
def text : Number → String
  | .integer i => String.ofList (integerText i)
  | .float x => String.ofList (interchange.write x)

end Number

/-- A value of the interchange format. -/
inductive Json where
  | null
  | bool (value : Bool)
  | number (value : Number)
  | string (value : String)
  | array (elements : List Json)
  | object (members : List (String × Json))
  deriving Inhabited, Repr

/-- The members of an object under construction, sorted by name. -/
abbrev Members := List (String × Json)

/-- The members with one more, which replaces a member of the same name. -/
def Members.insert (name : String) (value : Json) : Members → Members
  | [] => [(name, value)]
  | (other, kept) :: rest =>
    if name < other then (name, value) :: (other, kept) :: rest
    else if name = other then (name, value) :: rest
    else (other, kept) :: Members.insert name value rest

/-- The members of an object written in the given order. -/
def Members.ofList (members : List (String × Json)) : Members :=
  members.foldl (fun done m => done.insert m.1 m.2) []

/-- The member of that name. -/
def Members.find? (name : String) : Members → Option Json
  | [] => none
  | (other, value) :: rest => if other = name then some value else Members.find? name rest

namespace Json

/-- The object with the given members. -/
def ofMembers (members : List (String × Json)) : Json :=
  .object (Members.ofList members)

/-- The array of the given strings. -/
def strings (texts : List String) : Json :=
  .array (texts.map .string)

/-- The integer as a value. -/
def ofInt (i : Int) : Json :=
  .number (.integer i)

/-- Whether the value is `null`. -/
def isNull : Json → Bool
  | .null => true
  | _ => false

/-- The member of an object; nothing else has members. -/
def member? (name : String) : Json → Option Json
  | .object members => Members.find? name members
  | _ => none

/-- The text of a string. -/
def string? : Json → Option String
  | .string s => some s
  | _ => none

/-- The elements of an array. -/
def elements? : Json → Option (List Json)
  | .array xs => some xs
  | _ => none

/-- The position a path step names in an array: digits without a needless zero. -/
def position? (step : String) : Option Nat :=
  match step.toList with
  | ['0'] => some 0
  | '0' :: _ => none
  | cs => (natural? cs).filter (· ≤ greatestNat64)

/-- The part of a value one path step leads to. -/
def step? (step : String) : Json → Option Json
  | .object members => Members.find? step members
  | .array xs => (position? step).bind fun i => xs[i]?
  | _ => none

/-- The part of a value a path leads to. -/
def at? : List String → Json → Option Json
  | [], v => some v
  | step :: path, v => (v.step? step).bind (at? path)

/-- A phrase for the kind of the value. -/
def kind : Json → String
  | .null => "null"
  | .bool _ => "a boolean"
  | .number _ => "a number"
  | .string _ => "a string"
  | .array _ => "an array"
  | .object _ => "an object"

end Json

end WeatherTables
