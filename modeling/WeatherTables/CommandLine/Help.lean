import WeatherTables.CommandLine.Invocation

/-!
# Help

What the program says about itself and its commands.
-/

set_option autoImplicit false

namespace WeatherTables

namespace Invocation

/-- The name and the version of the program. -/
def versionText : String := "openweather-adapter 0.1.0\n"

/-- The help on all commands. -/
def overview (program : String) : List String :=
  ["Filter pushdown translation and response flattening for the OpenWeatherMap virtual schema " ++
      "adapter",
    "",
    "Usage: " ++ program ++ " <COMMAND>",
    "",
    "Commands:",
    "  adapter    Answer one adapter request read from a JSON file",
    "  translate  Translate a planner filter JSON file into the serialized API filters",
    "  fetch      Run the call site: fetch rows for serialized API filters",
    "  help       Print this message or the help of the given subcommand(s)",
    "",
    "Options:",
    "  -h, --help     Print help",
    "  -V, --version  Print version"]

/-- The help on `adapter`. -/
def adapterHelp (program : String) : List String :=
  ["Answer one adapter request read from a JSON file",
    "",
    "Usage: " ++ program ++ " adapter [OPTIONS] <REQUEST_PATH>",
    "",
    "Arguments:",
    "  <REQUEST_PATH>  Path to the adapter request JSON",
    "",
    "Options:",
    "      --script-schema <SCRIPT_SCHEMA>  Schema holding the api_handler script",
    "  -h, --help                           Print help"]

/-- The help on `translate`. -/
def translateHelp (program : String) : List String :=
  ["Translate a planner filter JSON file into the serialized API filters",
    "",
    "Usage: " ++ program ++ " translate <FILTER_PATH>",
    "",
    "Arguments:",
    "  <FILTER_PATH>  Path to the filter JSON",
    "",
    "Options:",
    "  -h, --help  Print help"]

/-- The help on `fetch`. -/
def fetchHelp (program environmentKey : String) : List String :=
  ["Run the call site: fetch rows for serialized API filters",
    "",
    "Usage: " ++ program ++
      " fetch [OPTIONS] --method <METHOD> --filters <FILTERS> --api-key <API_KEY>",
    "",
    "Options:",
    "  -m, --method <METHOD>      \x60weather\x60 or \x60forecast\x60",
    "  -f, --filters <FILTERS>    Serialized filters, e.g. '[\"id=2643743\",\"id=2950159\"]'",
    "  -k, --api-key <API_KEY>    OpenWeatherMap API key [env: " ++ Command.keyVariable ++ "=" ++
      environmentKey ++ "]",
    "      --host <HOST>          [default: " ++ Settings.standard.apiHost ++ "]",
    "  -t, --timeout <TIMEOUT>    Per-call timeout in seconds [default: 10]",
    "  -p, --parallel <PARALLEL>  Issue up to this many calls at once",
    "  -h, --help                 Print help"]

/-- The help on `help`. -/
def helpHelp (program : String) : List String :=
  ["Print this message or the help of the given subcommand(s)",
    "",
    "Usage: " ++ program ++ " help [COMMAND]...",
    "",
    "Arguments:",
    "  [COMMAND]...  Print help for the subcommand(s)"]

/-- The help that is asked for. -/
def helpText (program : String) (environmentKey : Option String) (about : Option String) :
    String :=
  let lines := match about with
    | some "adapter" => adapterHelp program
    | some "translate" => translateHelp program
    | some "fetch" => fetchHelp program (environmentKey.getD "")
    | some "help" => helpHelp program
    | _ => overview program
  String.join (lines.map (· ++ "\n"))

end Invocation

end WeatherTables
