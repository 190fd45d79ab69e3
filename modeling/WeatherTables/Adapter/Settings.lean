/-!
# Settings

What the adapter and the call site share: the address of the weather service, the schema that holds
the handler script, and the time one call may take.
-/

set_option autoImplicit false

namespace WeatherTables

/-- The settings of an adapter. The time is in milliseconds. -/
structure Settings where
  apiHost : String := "https://api.openweathermap.org/data/2.5/"
  scriptSchema : String := "OPENWEATHER_VS_SCRIPTS"
  timeout : Nat := 10000
  deriving DecidableEq, Repr

/-- The settings where nothing was asked for. -/
def Settings.standard : Settings :=
  {}

end WeatherTables
