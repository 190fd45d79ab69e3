import WeatherTables.Json.Basic
import WeatherTables.Text.Quoted

/-!
# Decoding values into records

A record is read from an object, whose other members are ignored, or from an array that gives its
fields in order. The errors say what was found and what was expected there, but not where.
-/

set_option autoImplicit false

namespace WeatherTables

/-- Why a value is not of the shape that is read from it. -/
inductive DataError where
  | wrongType (found : Json) (expected : String)
  | missingField (name : String)
  | tooShort (length : Nat) (expected : String)
  | tooLong (length : Nat)
  | noVariant (name : String)

namespace DataError

/-- A grave accent, which stands around quoted program text in messages. -/
def grave : String := String.singleton '\x60'

/-- The words for a value of the wrong type. -/
def describe : Json → String
  | .null => "null"
  | .bool b => "boolean " ++ grave ++ (if b then "true" else "false") ++ grave
  | .number (.integer i) => "integer " ++ grave ++ (Number.integer i).text ++ grave
  | .number (.float x) => "floating point " ++ grave ++ (Number.float x).text ++ grave
  | .string s => "string " ++ Text.quoted s
  | .array _ => "sequence"
  | .object _ => "map"

/-- The text of the error. -/
def message : DataError → String
  | .wrongType found expected => "invalid type: " ++ describe found ++ ", expected " ++ expected
  | .missingField name => "missing field " ++ grave ++ name ++ grave
  | .tooShort length expected =>
    "invalid length " ++ toString length ++ ", expected " ++ expected
  | .tooLong length =>
    "invalid length " ++ toString length ++ ", expected fewer elements in array"
  | .noVariant name => "data did not match any variant of untagged enum " ++ name

end DataError

namespace Json

/-- A value that is absent or read by `read`. -/
def optional {α : Type} (read : Json → Except DataError α) : Json → Except DataError (Option α)
  | .null => .ok none
  | v => (read v).map some

/-- A string. -/
def asText : Json → Except DataError String
  | .string s => .ok s
  | v => .error (.wrongType v "a string")

/-- An array whose elements are read by `read`. -/
def asList {α : Type} (read : Json → Except DataError α) : Json → Except DataError (List α)
  | .array xs => xs.mapM read
  | v => .error (.wrongType v "a sequence")

/-- A record read field by field into `start`. `set` is asked for every named value. -/
def asRecord {α : Type} (expected : String) (names : List String)
    (set : α → String → Json → Except DataError α) (start : α) : Json → Except DataError α
  | .object members => members.foldlM (fun r m => set r m.1 m.2) start
  | .array xs => do
    let r ← (names.zip xs).foldlM (fun r m => set r m.1 m.2) start
    if names.length < xs.length then .error (.tooLong xs.length) else .ok r
  | v => .error (.wrongType v expected)

end Json

end WeatherTables
