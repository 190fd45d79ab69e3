import WeatherTables.CommandLine.Basic

/-!
# The program

Reads the file that a command names, runs the command and prints its outcome. This program has no
connection to the network: every call of `fetch` is answered with that reason.
-/

set_option autoImplicit false

namespace WeatherTables

/-- The reason why a file could not be read. -/
def fileTrouble : IO.Error → FileError
  | .noFileOrDirectory .. => .missing
  | .permissionDenied .. => .denied
  | .inappropriateType _ number _ => if number = 20 then .notAFolder else .isFolder
  | .invalidArgument _ number reason => if number = 36 then .nameTooLong else .other reason
  | .userError _ => .notText
  | e => .other e.toString

/-- The text of a file, or why it cannot be read. -/
def readFile (path : String) : IO (Except FileError String) := do
  try
    return .ok (← IO.FS.readFile path)
  catch e => return .error (fileTrouble e)

/-- Runs the program with the given arguments. -/
def runProgram (args : List String) : IO UInt32 := do
  let program := (← IO.appPath).fileName.getD "weather-tables"
  let environmentKey ← IO.getEnv Command.keyVariable
  let invocation := Invocation.ofArguments environmentKey args
  let content ← match invocation with
    | .command c =>
      match c.path? with
      | some path => readFile path
      | none => pure (.ok "")
    | _ => pure (.ok "")
  let outcome := invocation.run program environmentKey (fun _ => content)
    (Client.offline "no network connection")
  IO.print outcome.output
  IO.eprint outcome.errors
  return outcome.exitCode.toUInt32

end WeatherTables

/-- The entry point. -/
def main (args : List String) : IO UInt32 :=
  WeatherTables.runProgram args
