import WeatherTables.Calendar.Timestamp
import WeatherTables.Json.Writer
import WeatherTables.Table.Source

/-!
# Rows

Payloads flattened into typed rows. Columns and sources are taken together by their places; what is
absent, null or of the wrong kind becomes a null cell. A payload of current weather gives one row, a
forecast one row for each element of its list.
-/

set_option autoImplicit false

namespace WeatherTables

open Decimal

/-- One value of a row. -/
inductive Cell where
  | null
  | text (value : String)
  | integer (value : Int)
  | double (value : Binary64)
  | timestamp (value : Timestamp)
  deriving DecidableEq, Repr

namespace Cell

/-- Whether the cell has no value. -/
def isNull (c : Cell) : Bool :=
  c = .null

/-- The value of a number cell. -/
def number? : Cell → Option Binary64
  | .double x => some x
  | .integer i => some (.ofInt i)
  | _ => none

/-- The cell as displayed. -/
def display : Cell → String
  | .null => "NULL"
  | .text s => s
  | .integer i => (Number.integer i).text
  | .double x => String.ofList (plain.write x)
  | .timestamp t => t.write ' '

/-- The cell as an interchange value. -/
def toJson : Cell → Json
  | .null => .null
  | .text s => .string s
  | .integer i => .ofInt i
  | .double x => .number (.float x)
  | .timestamp t => .string (t.write 'T')

/-- The seconds of an hour. -/
def hourSeconds : Binary64 := .ofInt 3600

/-- The cell of a value for a column of the given type. -/
def ofGiven (type : ColumnType) (value : Json) : Cell :=
  match type, value with
  | .varchar _, .string s => .text s
  | .varchar _, .number n => .text n.text
  | .decimal _ scale, .number n => if scale = 0 then .integer n.rounded else .double n.toBinary64
  | _, _ => .null

/-- The cell of a value after its interpretation. -/
def ofValue (type : ColumnType) (interpretation : Interpretation) (value : Json) : Cell :=
  match interpretation, value with
  | .absent, _ => .null
  | .asGiven, value => ofGiven type value
  | .secondsSinceEpoch, .number n => ((Timestamp.ofEpoch? n.rounded).map .timestamp).getD .null
  | .writtenTime, .string s => ((Timestamp.read? s).map .timestamp).getD .null
  | .secondsAsHours, .number n => .double (n.toBinary64.div hourSeconds)
  | _, _ => .null

end Cell

/-- The cell of a column that is filled from the given source. -/
def Column.cell (c : Column) (source : Source) (record city : Json) : Cell :=
  ((source.value? record city).map (Cell.ofValue c.type source.interpretation)).getD .null

/-- A row of a table. -/
structure Row where
  table : Table
  cells : List Cell
  deriving DecidableEq, Repr

namespace Row

/-- The row of a record, with a cell for every column that has a source. -/
def ofRecord (table : Table) (sources : List Source) (record city : Json) : Row :=
  ⟨table, (table.columns.zip sources).map fun p => p.1.cell p.2 record city⟩

/-- The cell of the column with the given name. -/
def get? (row : Row) (column : String) : Option Cell :=
  (row.table.position? column).bind fun i => row.cells[i]?

/-- The row as an object with a member for every column. -/
def toJson (row : Row) : Json :=
  .ofMembers ((row.table.columns.zip row.cells).map fun p => (p.1.name, p.2.toJson))

/-- The text of the row as an object. -/
def text (row : Row) : String :=
  row.toJson.text

end Row

/-- Why a payload has no rows. -/
inductive PayloadError where
  | notAnObject (kind : String)
  deriving DecidableEq, Repr

/-- The text of the error. -/
def PayloadError.message : PayloadError → String
  | .notAnObject kind => "Expected a JSON object as the API payload, found " ++ kind

/-- The rows of a payload. -/
def Method.rows (m : Method) (payload : Json) : Except PayloadError (List Row) :=
  match payload with
  | .object _ =>
    match m with
    | .currentWeather => .ok [.ofRecord m.table m.sources payload .null]
    | .forecast =>
      let city := (payload.member? "city").getD .null
      let records := ((payload.member? "list").bind Json.elements?).getD []
      .ok (records.map fun record => .ofRecord m.table m.sources record city)
  | other => .error (.notAnObject other.kind)

end WeatherTables
