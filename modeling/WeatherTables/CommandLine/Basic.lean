import WeatherTables.Adapter.Response
import WeatherTables.CommandLine.FileTree
import WeatherTables.CommandLine.Help
import WeatherTables.Fetch.Parallel

/-!
# Running the commands

What each command prints and with which code the program ends. Files, the environment and the
weather service are given; the outcome says what to print.
-/

set_option autoImplicit false

namespace WeatherTables

/-- What the program prints, and the code with which it ends. -/
structure Outcome where
  exitCode : Nat
  output : String
  errors : String
  deriving DecidableEq, Repr

namespace Outcome

/-- Text is printed and all is well. -/
def printed (output : String) : Outcome :=
  ⟨0, output, ""⟩

/-- An error ends the program. -/
def failed (message : String) : Outcome :=
  ⟨1, "", "\nError: " ++ message ++ "\n"⟩

/-- The command line makes no sense. -/
def misused (usage : String) : Outcome :=
  ⟨2, "", usage⟩

end Outcome

namespace Command

/-- What `adapter` does. -/
def runAdapter (read : FileReader) (path : String) (scriptSchema : Option String) : Outcome :=
  match read path with
  | .error reason => .failed ("Failed to read adapter request '" ++ path ++ "': " ++ reason.message)
  | .ok request =>
    let settings := match scriptSchema with
      | some schema => { Settings.standard with scriptSchema := schema }
      | none => Settings.standard
    match (Adapter.handle settings request).value with
    | .error e => .failed ("Adapter request failed: " ++ e.message)
    | .ok response => .printed (response ++ "\n")

/-- The lines that `translate` prints about a filter. -/
def report (filter : Filter) : List String :=
  let resolved := Adapter.bundleOf .standard filter
  let warnings := Record.warnings resolved.records
  ["Filter:  " ++ filter.text, "Bundle:  " ++ resolved.value.text, "Calls:"] ++
    resolved.value.calls.map ("  -> " ++ ·) ++
    (if warnings.isEmpty then [] else "Dropped leaves:" :: warnings.map ("  -> " ++ ·))

/-- What `translate` does. -/
def runTranslate (read : FileReader) (path : String) : Outcome :=
  match read path with
  | .error reason => .failed ("Failed to read filter '" ++ path ++ "': " ++ reason.message)
  | .ok text =>
    match Json.read? text with
    | none => .failed ("Failed to parse filter JSON: " ++ syntaxPlace)
    | some v =>
      match Filter.ofJson v with
      | .error e => .failed ("Failed to read filter tree: " ++ e.message)
      | .ok filter => .printed (String.join ((report filter).map (· ++ "\n")))

/-- The rows of a bundle, fetched one call after the other or by several workers. -/
def rows (client : Client) (target : Target) (timeout : Nat) (parallel : Option Nat)
    (bundle : Bundle) : List Row :=
  match parallel with
  | none => (((Cursor.start target timeout 0 bundle).1).drain client).1
  | some _ =>
    let plan := target.plan timeout bundle
    (Parallel.run client target.method 0 plan (Parallel.oneWorker plan.length)).1

/-- What `fetch` does. -/
def runFetch (client : Client) (r : FetchRequest) : Outcome :=
  match Method.ofName r.method with
  | .error e => .failed ("Invalid method: " ++ e.message)
  | .ok method =>
    match Bundle.ofText r.filters with
    | .error e => .failed ("Invalid filters: " ++ e.message)
    | .ok bundle =>
      let found := rows client ⟨r.host, method, r.apiKey⟩ (r.timeout * 1000) r.parallel bundle
      ⟨0, String.join (found.map fun row => row.text ++ "\n"),
        toString found.length ++ " row(s)\n"⟩

/-- What a command does. -/
def run (read : FileReader) (client : Client) : Command → Outcome
  | .adapter path scriptSchema => runAdapter read path scriptSchema
  | .translate path => runTranslate read path
  | .fetch request => runFetch client request

/-- The file that a command reads. -/
def path? : Command → Option String
  | .adapter path _ => some path
  | .translate path => some path
  | .fetch _ => none

end Command

namespace Invocation

/-- What the program does. -/
def run (program : String) (environmentKey : Option String) (read : FileReader) (client : Client) :
    Invocation → Outcome
  | .command c => c.run read client
  | .help about => .printed (helpText program environmentKey about)
  | .version => .printed versionText
  | .misuse => .misused (helpText program environmentKey none)

end Invocation

end WeatherTables
