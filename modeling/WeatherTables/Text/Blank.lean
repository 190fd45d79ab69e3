import WeatherTables.Text.CharClass

/-!
# Blank characters

The Unicode property `White_Space`, and text without the blanks around it. A zero-width space and a
byte-order mark are not blank.
-/

set_option autoImplicit false

namespace WeatherTables.Text

/-- The characters with the property `White_Space`. -/
def blankTable : CharClass :=
  [(0x9, 0xD), (0x20, 0x20), (0x85, 0x85), (0xA0, 0xA0), (0x1680, 0x1680), (0x2000, 0x200A),
   (0x2028, 0x2029), (0x202F, 0x202F), (0x205F, 0x205F), (0x3000, 0x3000)]

/-- Whether the character only separates others. -/
def isBlank (c : Char) : Bool :=
  blankTable.holds c

/-- The text from its first character that is not blank. -/
def dropBlanks (cs : List Char) : List Char :=
  cs.dropWhile isBlank

/-- The text without the blanks before and after it. -/
def trimmed (cs : List Char) : List Char :=
  (dropBlanks (dropBlanks cs).reverse).reverse

/-- The text without the blanks before and after it, as a string. -/
def trim (s : String) : String :=
  String.ofList (trimmed s.toList)

end WeatherTables.Text
