import WeatherTables.Text.CasedTable
import WeatherTables.Text.LowercaseTable

/-!
# Lower case

Text in small letters, over all of Unicode. Two letters need more than the table: the dotted capital
I becomes two characters, and a capital sigma becomes the final form at the end of a word.
-/

set_option autoImplicit false

namespace WeatherTables.Text

/-- The small form of one character, looked at alone. -/
def lowercaseChar (c : Char) : List Char :=
  if c = 'İ' then ['i', '\u0307']
  else match lowercaseTable.find? fun run => run.holds c.toNat with
    | none => [c]
    | some run => [Char.ofNat (c.toNat + run.shift).toNat]

/-- Whether a letter with case comes next, past the characters that do not interrupt a word. -/
def meetsLetter (cs : List Char) : Bool :=
  match cs.dropWhile caseIgnorableTable.holds with
  | [] => false
  | c :: _ => casedTable.holds c

/-- The small forms of a text, given the characters before it, nearest first. -/
def lowercaseAfter (before : List Char) : List Char → List Char
  | [] => []
  | c :: after =>
    let small :=
      if c = 'Σ' then [if meetsLetter before && !meetsLetter after then 'ς' else 'σ']
      else lowercaseChar c
    small ++ lowercaseAfter (c :: before) after

/-- The text in small letters. -/
def lowercase (s : String) : String :=
  String.ofList (lowercaseAfter [] s.toList)

end WeatherTables.Text
