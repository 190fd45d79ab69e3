import WeatherTables.Text.Blank

/-!
# Diagnostic records

Everything worth reporting becomes a record: a level and a message. There are two levels, each with
a name and a number, and either may be asked for in any case and with blanks around it.
-/

set_option autoImplicit false

namespace WeatherTables

/-- How serious a record is. -/
inductive Level where
  | info
  | warning
  deriving DecidableEq, Repr

/-- Why the diagnostics could not be set up. -/
inductive LoggingError where
  | unknownLevel (text : String)
  | invalidEndpoint (text : String)
  deriving DecidableEq, Repr

/-- The text of the error. -/
def LoggingError.message : LoggingError → String
  | .unknownLevel text =>
    "E-VS-OWFS-4 Chosen LOG_LEVEL <" ++ text ++
      "> not supported. Please choose 'INFO' or 'WARNING'"
  | .invalidEndpoint text => "Invalid log listener port '" ++ text ++ "'"

namespace Level

/-- The number of the level; a more serious level has a greater one. -/
def number : Level → Nat
  | .info => 20
  | .warning => 30

/-- The name of the level. -/
def name : Level → String
  | .info => "INFO"
  | .warning => "WARNING"

/-- The level asked for by name or number. -/
def ofText (text : String) : Except LoggingError Level :=
  let asked := String.ofList ((Text.trimmed text.toList).map Char.toUpper)
  if asked = "INFO" ∨ asked = "20" then .ok .info
  else if asked = "WARNING" ∨ asked = "30" then .ok .warning
  else .error (.unknownLevel text)

/-- Whether a record of this level is kept when at least `least` is asked for. -/
def reaches (level least : Level) : Bool :=
  least.number ≤ level.number

/-- The order of two levels. -/
def compare (a b : Level) : Ordering :=
  Ord.compare a.number b.number

/-- Each level is found by its number. -/
theorem ofText_number (level : Level) : ofText (toString level.number) = .ok level := by
  cases level <;> rfl

/-- Each level is found by its name. -/
theorem ofText_name (level : Level) : ofText level.name = .ok level := by
  cases level <;> rfl

end Level

/-- A level and a message. -/
structure Record where
  level : Level
  message : String
  deriving DecidableEq, Repr

namespace Record

/-- A record that reports normal work. -/
def info (message : String) : Record :=
  ⟨.info, message⟩

/-- A record that reports a loss. -/
def warning (message : String) : Record :=
  ⟨.warning, message⟩

/-- The messages of the warnings among the records. -/
def warnings (records : List Record) : List String :=
  (records.filter fun r => r.level = .warning).map Record.message

end Record

end WeatherTables
