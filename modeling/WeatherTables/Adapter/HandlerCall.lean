import WeatherTables.Adapter.Error
import WeatherTables.Bundle.Text
import WeatherTables.Diagnostics.Listener
import WeatherTables.Fetch.Cursor
import WeatherTables.Sql.Literal
import WeatherTables.Text.Lowercase

/-!
# Calls of the handler script

A pushdown fetches nothing itself. It answers with a statement that selects from the handler script,
with seven texts as arguments; the script rebuilds the call from those texts and fetches the rows.
-/

set_option autoImplicit false

namespace WeatherTables

/-- One call of the handler script. What concerns the log is kept as text, and looked at only when the
call is executed. -/
structure HandlerCall where
  apiHost : String
  method : Method
  filters : Bundle
  apiKey : String
  logHost : String
  logNumber : String
  logLevel : String
  deriving DecidableEq, Repr

namespace HandlerCall

/-- The call that seven argument texts describe. -/
def ofArguments (apiHost method filters apiKey logHost logNumber logLevel : String) :
    Except AdapterFailure HandlerCall := do
  let method ← Method.ofName method
  let filters ← (Bundle.ofText filters).mapError .data
  return ⟨apiHost, method, filters, apiKey, logHost, logNumber, logLevel⟩

/-- The argument texts of a call, in order. -/
def arguments (c : HandlerCall) : List String :=
  [c.apiHost, c.method.name, c.filters.text, c.apiKey, c.logHost, c.logNumber, c.logLevel]

/-- Where the requests of the call go. -/
def target (c : HandlerCall) : Target :=
  ⟨c.apiHost, c.method, c.apiKey⟩

/-- What stands in place of a key that must not be shown. -/
def hiddenKey : String := "<redacted>"

/-- The call with its key hidden. -/
def withHiddenKey (c : HandlerCall) : HandlerCall :=
  { c with apiKey := hiddenKey }

/-- Where the diagnostics of the call go. -/
def logging (c : HandlerCall) : Except LoggingError Logging :=
  Logging.ofTexts c.logHost c.logNumber c.logLevel

/-- The name of the handler script. -/
def scriptName : String := "api_handler"

/-- The columns that the script emits. -/
def emits (t : Table) : String :=
  ", ".intercalate (t.columns.map fun c => Text.lowercase c.name ++ " " ++ c.type.emitText)

/-- The statement that calls the script in the given schema. -/
def statement (c : HandlerCall) (schema : String) : String :=
  "SELECT " ++ Text.lowercase schema ++ "." ++ scriptName ++ "(" ++ Sql.list c.arguments ++
    " EMITS (" ++ emits c.method.table ++ ")"

/-- All rows of the call. The records go where the call says. -/
def execute (c : HandlerCall) (client : Client) (timeout : Nat) :
    Except LoggingError (List Row × History) := do
  let _ ← c.logging
  let (cursor, opening) := Cursor.start c.target timeout 0 c.filters
  let (rows, history) := cursor.drain client
  return (rows, opening ++ history)

end HandlerCall

end WeatherTables
