import WeatherTables.Json.Basic

/-!
# Writing interchange text

The text of a value, without any blank between its parts. Inside a string a quote, a backslash and
the control characters are escaped and every other character stands for itself.
-/

set_option autoImplicit false

namespace WeatherTables.Json

/-- One character inside a written string. -/
def stringChar (c : Char) : List Char :=
  match c with
  | '"' => ['\\', '"']
  | '\\' => ['\\', '\\']
  | '\x08' => ['\\', 'b']
  | '\x0c' => ['\\', 'f']
  | '\n' => ['\\', 'n']
  | '\r' => ['\\', 'r']
  | '\t' => ['\\', 't']
  | c =>
    if c.toNat < 0x20 then
      ['\\', 'u', '0', '0', Nat.digitChar (c.toNat / 16), Nat.digitChar (c.toNat % 16)]
    else [c]

/-- The written form of a string. -/
def stringText (s : String) : String :=
  String.ofList ('"' :: s.toList.flatMap stringChar ++ ['"'])

mutual

/-- The interchange text of a value. -/
def text : Json → String
  | .null => "null"
  | .bool true => "true"
  | .bool false => "false"
  | .number n => n.text
  | .string s => stringText s
  | .array [] => "[]"
  | .array (x :: xs) => "[" ++ text x ++ elementsText xs
  | .object [] => "\x7b\x7d"
  | .object ((name, value) :: rest) =>
    "\x7b" ++ stringText name ++ ":" ++ text value ++ membersText rest

/-- The elements after the first, and the end of the array. -/
def elementsText : List Json → String
  | [] => "]"
  | x :: xs => "," ++ text x ++ elementsText xs

/-- The members after the first, and the end of the object. -/
def membersText : List (String × Json) → String
  | [] => "\x7d"
  | (name, value) :: rest => "," ++ stringText name ++ ":" ++ text value ++ membersText rest

end

end WeatherTables.Json
