import WeatherTables.Adapter.Settings
import WeatherTables.CommandLine.Arguments

/-!
# Invocations

The three commands and what their arguments mean. The key of the weather service may also come from
the environment.
-/

set_option autoImplicit false

namespace WeatherTables

/-- What `fetch` is asked for. The timeout is in seconds. -/
structure FetchRequest where
  method : String
  filters : String
  apiKey : String
  host : String
  timeout : Nat
  parallel : Option Nat
  deriving DecidableEq, Repr

/-- A command with its arguments. -/
inductive Command where
  | adapter (requestPath : String) (scriptSchema : Option String)
  | translate (filterPath : String)
  | fetch (request : FetchRequest)
  deriving DecidableEq, Repr

/-- What is asked for on a command line. Help is about one command or about all. -/
inductive Invocation where
  | command (command : Command)
  | help (command : Option String)
  | version
  | misuse
  deriving DecidableEq, Repr

namespace Command

/-- The number that an option value denotes. -/
def number? (value : String) : Option Nat :=
  Decimal.bounded? Decimal.greatestNat64 value.toList

/-- An option that takes any text. -/
def textOption (name : String) (letter : Option Char) : CommandOption :=
  ⟨name, letter, fun _ => true⟩

/-- An option that takes a number. -/
def numberOption (name : String) (letter : Option Char) : CommandOption :=
  ⟨name, letter, fun value => (number? value).isSome⟩

/-- What `adapter` takes. -/
def adapterSignature : Signature :=
  ⟨[textOption "script-schema" none], 1⟩

/-- What `translate` takes. -/
def translateSignature : Signature :=
  ⟨[], 1⟩

/-- What `fetch` takes. -/
def fetchSignature : Signature :=
  ⟨[textOption "method" (some 'm'), textOption "filters" (some 'f'),
    textOption "api-key" (some 'k'), textOption "host" none, numberOption "timeout" (some 't'),
    numberOption "parallel" (some 'p')], 0⟩

/-- The variable of the environment that may hold the key. -/
def keyVariable : String := "OPENWEATHER_API_KEY"

/-- The seconds that one call may take where nothing else is asked for. -/
def standardTimeout : Nat := 10

/-- The arguments of `adapter`. -/
def adapter? (a : Arguments) : Option Command :=
  a.positionals.head?.map fun path => .adapter path (a.value? "script-schema")

/-- The arguments of `translate`. -/
def translate? (a : Arguments) : Option Command :=
  a.positionals.head?.map .translate

/-- The arguments of `fetch`, with the key from the environment if it is not among them. -/
def fetch? (environmentKey : Option String) (a : Arguments) : Option Command := do
  let method ← a.value? "method"
  let filters ← a.value? "filters"
  let key ← (a.value? "api-key").or environmentKey
  let host := (a.value? "host").getD Settings.standard.apiHost
  let timeout := ((a.value? "timeout").bind number?).getD standardTimeout
  let parallel := (a.value? "parallel").bind number?
  return .fetch ⟨method, filters, key, host, timeout, parallel⟩

end Command

namespace Invocation

/-- The names under which there is help. -/
def commandNames : List String :=
  ["adapter", "translate", "fetch", "help"]

/-- A command read by its signature and built from its arguments. -/
def ofReading (name : String) (build : Arguments → Option Command) : Reading → Invocation
  | .help => .help (some name)
  | .misuse => .misuse
  | .arguments found =>
    match build found with
    | some built => .command built
    | none => .misuse

/-- What is asked for by an argument in place of a command. Of letters written together the first
decides. -/
def ofFlag (arg : String) : Invocation :=
  match arg.toList with
  | '-' :: 'h' :: _ => .help none
  | '-' :: 'V' :: _ => .version
  | _ => if arg = "--help" then .help none else if arg = "--version" then .version else .misuse

/-- What the arguments of the program ask for. -/
def ofArguments (environmentKey : Option String) (args : List String) : Invocation :=
  match args with
  | ["help"] => .help none
  | ["help", name] => if commandNames.contains name then .help (some name) else .misuse
  | "adapter" :: rest =>
    ofReading "adapter" Command.adapter? (Command.adapterSignature.read rest)
  | "translate" :: rest =>
    ofReading "translate" Command.translate? (Command.translateSignature.read rest)
  | "fetch" :: rest =>
    ofReading "fetch" (Command.fetch? environmentKey) (Command.fetchSignature.read rest)
  | flag :: _ => ofFlag flag
  | [] => .misuse

end Invocation

end WeatherTables
