import WeatherTables.Adapter.Error
import WeatherTables.Diagnostics.Listener

/-!
# Properties of a virtual schema

Every adapter request carries the properties of its virtual schema: the key of the weather service
and where diagnostics go. The number of the listener's endpoint may also be sent as a text.
-/

set_option autoImplicit false

namespace WeatherTables

open Json

/-- The properties of a virtual schema. -/
structure Properties where
  apiKey : String
  logListener : Option String
  logListenerNumber : Option String
  logLevel : String
  deriving DecidableEq, Repr

/-- Properties under construction; the key may still be missing. -/
structure PropertyFields where
  apiKey : Option String
  logListener : Option String
  logListenerNumber : Option String
  logLevel : String

namespace PropertyFields

/-- The fields in the order of the array form. -/
def names : List String :=
  ["API_KEY", "LOG_LISTENER", "LOG_LISTENER_PORT", "LOG_LEVEL"]

/-- No field read yet. -/
def blank : PropertyFields :=
  ⟨none, none, none, Level.info.name⟩

/-- The text of an endpoint's number, which may also be sent as a number. -/
def numberText : Json → Except DataError String
  | .string s => .ok s
  | .number (.integer i) =>
    if 0 ≤ i then .ok (Number.integer i).text else .error (.noVariant "PortValue")
  | _ => .error (.noVariant "PortValue")

/-- The fields with one more read. -/
def set (p : PropertyFields) (name : String) (value : Json) : Except DataError PropertyFields :=
  match name with
  | "API_KEY" => do return { p with apiKey := some (← asText value) }
  | "LOG_LISTENER" => do return { p with logListener := ← optional asText value }
  | "LOG_LISTENER_PORT" => do return { p with logListenerNumber := ← optional numberText value }
  | "LOG_LEVEL" => do return { p with logLevel := ← asText value }
  | _ => .ok p

end PropertyFields

namespace Properties

/-- What the properties are called in messages. -/
def expected : String := "struct AdapterProperties"

/-- The properties a value describes. -/
def ofJson (v : Json) : Except DataError Properties := do
  let p ← asRecord expected PropertyFields.names PropertyFields.set .blank v
  match p.apiKey with
  | some key => return ⟨key, p.logListener, p.logListenerNumber, p.logLevel⟩
  | none =>
    match v with
    | .array _ => .error (.tooShort 0 (expected ++ " with 4 elements"))
    | _ => .error (.missingField "API_KEY")

/-- Where a request keeps the properties. -/
def path : List String :=
  ["schemaMetadataInfo", "properties"]

/-- The properties of an adapter request. -/
def ofRequest (request : Json) : Except AdapterFailure Properties :=
  match request.at? path with
  | none => .error (.missingField "schemaMetadataInfo.properties")
  | some v => (ofJson v).mapError .data

/-- Where diagnostics go under these properties. -/
def logging (p : Properties) : Except LoggingError Logging :=
  Logging.ofTexts (p.logListener.getD "") (p.logListenerNumber.getD "") p.logLevel

end Properties

end WeatherTables
