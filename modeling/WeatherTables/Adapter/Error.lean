import WeatherTables.Diagnostics.Record
import WeatherTables.Fetch.Request
import WeatherTables.Json.Decoding

/-!
# Why an adapter request fails

The errors that end one adapter request or one invocation of the handler script. Trouble with single
leaves or single calls is not among them; it is only recorded.
-/

set_option autoImplicit false

namespace WeatherTables

/-- Why an adapter request has no response. -/
inductive AdapterFailure where
  | unknownCallback (kind : String)
  | unknownTable (name : String)
  | missingField (name : String)
  | malformed
  | data (e : DataError)
  | diagnostic (e : LoggingError)

namespace AdapterFailure

/-- What the texts of errors in the interchange format begin with. -/
def formatTrouble : String := "Failed to parse adapter JSON: "

/-- The text of the error. -/
def message : AdapterFailure → String
  | .unknownCallback kind => "F-VS-OWFS-1 Unsupported adapter callback '" ++ kind ++ "'"
  | .unknownTable name => "Table '" ++ name ++ "' is not part of the virtual schema"
  | .missingField name => "Adapter request is missing the field '" ++ name ++ "'"
  | .malformed => formatTrouble ++ syntaxPlace
  | .data e => formatTrouble ++ e.message
  | .diagnostic e => e.message

end AdapterFailure

namespace Method

/-- The method with the given name, which must be one of the weather service. -/
def ofName (name : String) : Except AdapterFailure Method :=
  match ofName? name with
  | some m => .ok m
  | none => .error (.unknownTable name)

/-- The method that fills the table with the given name, which must exist. -/
def ofTableName (name : String) : Except AdapterFailure Method :=
  match ofTableName? name with
  | some m => .ok m
  | none => .error (.unknownTable name)

end Method

end WeatherTables
