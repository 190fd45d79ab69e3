import WeatherTables.Decimal.Numeral

/-!
# Command lines

The arguments of a command: options with a value, written `--name value`, `--name=value`, `-n value`
or `-nvalue`, and positional arguments between them. After `--` everything is positional. Each
option may be given once.
-/

set_option autoImplicit false

namespace WeatherTables

/-- An option that takes a value. -/
structure CommandOption where
  name : String
  letter : Option Char
  /-- Whether a value is accepted. -/
  accepts : String → Bool

/-- What a command takes: its options and how many positional arguments. -/
structure Signature where
  options : List CommandOption
  positionals : Nat

/-- The arguments of a command, the options under their names. -/
structure Arguments where
  options : List (String × String)
  positionals : List String
  deriving DecidableEq, Repr

/-- What was read from the arguments of a command. -/
inductive Reading where
  | arguments (found : Arguments)
  | help
  | misuse
  deriving DecidableEq, Repr

namespace Arguments

/-- The value of the option with the given name. -/
def value? (a : Arguments) (name : String) : Option String :=
  a.options.lookup name

/-- The arguments with one more option, unless it was given before or does not take the value. -/
def set? (a : Arguments) (option : CommandOption) (value : String) : Option Arguments :=
  if (a.value? option.name).isSome || !option.accepts value then none
  else some { a with options := (option.name, value) :: a.options }

/-- The arguments with more positional ones, unless those are too many. -/
def add? (a : Arguments) (limit : Nat) (values : List String) : Option Arguments :=
  if a.positionals.length + values.length ≤ limit then
    some { a with positionals := a.positionals ++ values }
  else none

end Arguments

namespace Signature

/-- How one argument is to be understood. -/
inductive Part where
  | positional (value : String)
  | option (option : CommandOption) (value : Option String)
  | rest
  | help
  | unknown

/-- Whether the next argument can be the value of an option. -/
def isValue (arg : String) : Bool :=
  match arg.toList with
  | '-' :: _ :: _ => false
  | _ => true

/-- The part that an argument is. -/
def part (s : Signature) (arg : String) : Part :=
  match arg.toList with
  | ['-', '-'] => .rest
  | '-' :: '-' :: long =>
    let name := String.ofList (long.takeWhile (· ≠ '='))
    match long.dropWhile (· ≠ '=') with
    | [] =>
      if name = "help" then .help
      else match s.options.find? fun o => o.name = name with
        | some o => .option o none
        | none => .unknown
    | _ :: value =>
      match s.options.find? fun o => o.name = name with
      | some o => .option o (some (String.ofList value))
      | none => .unknown
  | '-' :: letter :: attached =>
    if letter = 'h' then .help
    else match s.options.find? fun o => o.letter = some letter with
      | none => .unknown
      | some o =>
        match attached with
        | [] => .option o none
        | '=' :: value => .option o (some (String.ofList value))
        | value => .option o (some (String.ofList value))
  | _ => .positional arg

/-- The arguments read after those found already. -/
def readAfter (s : Signature) (found : Arguments) : List String → Reading
  | [] => .arguments found
  | arg :: rest =>
    match s.part arg with
    | .help => .help
    | .unknown => .misuse
    | .rest =>
      match found.add? s.positionals rest with
      | some found => .arguments found
      | none => .misuse
    | .positional value =>
      match found.add? s.positionals [value] with
      | some found => readAfter s found rest
      | none => .misuse
    | .option o (some value) =>
      match found.set? o value with
      | some found => readAfter s found rest
      | none => .misuse
    | .option o none =>
      match rest with
      | [] => .misuse
      | value :: rest =>
        if isValue value then
          match found.set? o value with
          | some found => readAfter s found rest
          | none => .misuse
        else .misuse

/-- The arguments of a command. -/
def read (s : Signature) (args : List String) : Reading :=
  s.readAfter ⟨[], []⟩ args

end Signature

end WeatherTables
