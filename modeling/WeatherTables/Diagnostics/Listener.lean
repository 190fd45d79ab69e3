import WeatherTables.Decimal.Numeral
import WeatherTables.Diagnostics.Record

/-!
# Log listeners

Where records go: to a listener at some endpoint, or nowhere in particular. Without a host there is
no listener, and then the number of the endpoint is not looked at. A listener receives a line for
every record of its level or above.
-/

set_option autoImplicit false

namespace WeatherTables

/-- An endpoint that records are sent to: a host and a number of 16 bits. -/
structure Listener where
  host : String
  portNumber : Nat
  deriving DecidableEq, Repr

/-- Where records go and from which level on. -/
structure Logging where
  listener : Option Listener
  level : Level
  deriving DecidableEq, Repr

namespace Logging

/-- The largest number of an endpoint. -/
def greatestNumber : Nat := 65535

/-- Where records go according to three texts. The level is checked first. -/
def ofTexts (host number level : String) : Except LoggingError Logging :=
  match Level.ofText level with
  | .error e => .error e
  | .ok level =>
    let host := Text.trim host
    if host = "" then .ok ⟨none, level⟩
    else match Decimal.bounded? greatestNumber (Text.trimmed number.toList) with
      | none => .error (.invalidEndpoint number)
      | some n => .ok ⟨some ⟨host, n⟩, level⟩

/-- The host of the listener, empty without one. -/
def hostText (l : Logging) : String :=
  (l.listener.map Listener.host).getD ""

/-- The number of the listener's endpoint, empty without one. -/
def numberText (l : Logging) : String :=
  (l.listener.map fun listener => toString listener.portNumber).getD ""

end Logging

namespace Record

/-- The line a listener receives for the record, after the given time stamp. -/
def line (stamp : String) (r : Record) : String :=
  stamp ++ ": " ++ r.message ++ "\r\n"

/-- What a listener receives that asks for at least the given level. -/
def transmission (stamp : String) (least : Level) (records : List Record) : String :=
  String.join ((records.filter fun r => r.level.reaches least).map (line stamp))

end Record

end WeatherTables
