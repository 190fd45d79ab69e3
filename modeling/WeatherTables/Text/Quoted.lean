import WeatherTables.Text.EscapedTable

/-!
# Quoted text in messages

A message shows a piece of foreign text between double quotes, with what could not be seen or would
end the quotation written as an escape.
-/

set_option autoImplicit false

namespace WeatherTables.Text

/-- One character inside a quotation. -/
def quotedChar (c : Char) : List Char :=
  match c with
  | '\x00' => ['\\', '0']
  | '\t' => ['\\', 't']
  | '\r' => ['\\', 'r']
  | '\n' => ['\\', 'n']
  | '"' => ['\\', '"']
  | '\\' => ['\\', '\\']
  | c =>
    if escapedTable.holds c then
      ['\\', 'u', '\x7b'] ++ Nat.toDigits 16 c.toNat ++ ['\x7d']
    else [c]

/-- The text between double quotes. -/
def quoted (s : String) : String :=
  String.ofList ('"' :: s.toList.flatMap quotedChar ++ ['"'])

end WeatherTables.Text
