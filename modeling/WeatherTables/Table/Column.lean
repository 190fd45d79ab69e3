import WeatherTables.Json.Basic

/-!
# Columns

A column of a virtual table has a name, a type and a comment. Where its cells come from is no concern
of the table: that depends on the payload, and is said in another place.
-/

set_option autoImplicit false

namespace WeatherTables

/-- The declared type of a column. -/
inductive ColumnType where
  | varchar (size : Nat)
  | decimal (precision scale : Nat)
  | timestamp
  deriving DecidableEq, Repr

namespace ColumnType

/-- The type in an `EMITS` clause. -/
def emitText : ColumnType → String
  | .varchar size => "VARCHAR(" ++ toString size ++ ")"
  | .decimal _ scale => if scale = 0 then "INT" else "DOUBLE"
  | .timestamp => "TIMESTAMP"

/-- The type in the description of a table. -/
def toJson : ColumnType → Json
  | .varchar size => .ofMembers [("type", .string "VARCHAR"), ("size", .ofInt size)]
  | .decimal precision scale =>
    .ofMembers [("type", .string "DECIMAL"), ("precision", .ofInt precision),
      ("scale", .ofInt scale)]
  | .timestamp => .ofMembers [("type", .string "TIMESTAMP")]

end ColumnType

/-- A column of a virtual table. -/
structure Column where
  name : String
  type : ColumnType
  comment : String
  deriving DecidableEq, Repr

namespace Column

/-- A column of texts. -/
def varchar (name : String) (size : Nat) (comment : String) : Column :=
  ⟨name, .varchar size, comment⟩

/-- A column of numbers with so many places after the point. -/
def decimal (name : String) (scale : Nat) (comment : String) : Column :=
  ⟨name, .decimal 18 scale, comment⟩

/-- A column of timestamps. -/
def timestamp (name : String) (comment : String) : Column :=
  ⟨name, .timestamp, comment⟩

/-- The description of the column. -/
def toJson (c : Column) : Json :=
  .ofMembers [("name", .string c.name), ("dataType", c.type.toJson), ("comment", .string c.comment)]

end Column

/-- A virtual table. -/
structure Table where
  name : String
  columns : List Column
  deriving DecidableEq, Repr

namespace Table

/-- The number of columns. -/
def width (t : Table) : Nat :=
  t.columns.length

/-- The position of the column with the given name. -/
def position? (t : Table) (name : String) : Option Nat :=
  t.columns.findIdx? fun c => c.name = name

/-- The description of the table. -/
def toJson (t : Table) : Json :=
  .ofMembers [("name", .string t.name), ("columns", .array (t.columns.map Column.toJson))]

end Table

end WeatherTables
