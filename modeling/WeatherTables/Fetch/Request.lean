import WeatherTables.Bundle.Calls
import WeatherTables.Diagnostics.Traced
import WeatherTables.Json.Reader
import WeatherTables.Table.Row

/-!
# Requests

One request to the weather service and what becomes of its answer. A request that fails costs only
its own rows: it reports one warning and has none. Every request is announced by one record first.
-/

set_option autoImplicit false

namespace WeatherTables

/-- Where requests go, with which method and under which key. -/
structure Target where
  host : String
  method : Method
  key : String
  deriving DecidableEq, Repr

/-- One request: its parameter, its address and the milliseconds it may take. -/
structure Request where
  parameter : String
  url : String
  timeout : Nat
  deriving DecidableEq, Repr

namespace Target

/-- The address of a request with the given parameter. -/
def url (t : Target) (parameter : String) : String :=
  t.host ++ t.method.name ++ "?" ++ parameter ++ "&units=metric&appid=" ++ t.key

/-- The requests for the calls of a bundle, in order. -/
def plan (t : Target) (timeout : Nat) (bundle : Bundle) : List Request :=
  bundle.calls.map fun parameter => ⟨parameter, t.url parameter, timeout⟩

end Target

/-- What came back for a request. -/
inductive Answer where
  | response (status : Nat) (body : String)
  | timedOut
  | failed (reason : String)
  deriving DecidableEq, Repr

/-- What answers requests. It is told how many were sent before, so that the same request may be
answered differently at another time. -/
abbrev Client := Nat → Request → Answer

/-- The client without a connection: every request fails for the given reason. -/
def Client.offline (reason : String) : Client :=
  fun _ _ => .failed reason

/-- Why a request has no rows. -/
inductive RequestError where
  | timedOut
  | refused (status : Nat) (body : String)
  | failed (reason : String)
  | malformed
  | unexpected (e : PayloadError)
  deriving DecidableEq, Repr

/-- What stands in a message for the place of a syntax error. -/
def syntaxPlace : String := "<syntax>"

/-- The text of the error, for the request with the given parameter. -/
def RequestError.message (parameter : String) : RequestError → String
  | .timedOut => "E-VW-OWFS-8 API request with parameter <" ++ parameter ++ "> timed out."
  | .refused status body =>
    "API request with parameter <" ++ parameter ++ "> returned status " ++ toString status ++ ": " ++
      body
  | .failed reason => "API request with parameter <" ++ parameter ++ "> failed: " ++ reason
  | .malformed =>
    "API response for parameter <" ++ parameter ++ "> is not valid JSON: " ++ syntaxPlace
  | .unexpected e =>
    "API response for parameter <" ++ parameter ++ "> is not valid JSON: " ++ e.message

namespace Answer

/-- The rows of an answer, or why it has none. -/
def rows (m : Method) : Answer → Except RequestError (List Row)
  | .timedOut => .error .timedOut
  | .failed reason => .error (.failed reason)
  | .response status body =>
    if status ≠ 200 then .error (.refused status body)
    else match Json.read? body with
      | none => .error .malformed
      | some payload => (m.rows payload).mapError .unexpected

end Answer

namespace Request

/-- The record that announces the request. -/
def announcement (r : Request) : Record :=
  .info ("Requesting API with: " ++ r.parameter)

/-- The rows of the request and the warning that it failed, once its answer is there. -/
def settle (r : Request) (m : Method) (answer : Answer) : Traced (List Row) :=
  match answer.rows m with
  | .ok rows => ⟨rows, []⟩
  | .error e => ⟨[], [.warning (e.message r.parameter)]⟩

end Request

end WeatherTables
