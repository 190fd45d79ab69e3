/-!
# Finding text in text

Whether a text starts with another, and whether it holds another anywhere.
-/

set_option autoImplicit false

namespace WeatherTables.Text

/-- Whether the text starts with `start`. -/
def startsWith (start text : String) : Bool :=
  start.toList.isPrefixOf text.toList

/-- Whether `needle` occurs in the characters. -/
def occursIn (needle : List Char) : List Char → Bool
  | [] => needle.isEmpty
  | c :: cs => needle.isPrefixOf (c :: cs) || occursIn needle cs

/-- Whether the text holds `needle`. -/
def contains (needle text : String) : Bool :=
  occursIn needle.toList text.toList

/-- A text starts with another if the characters of that other stand in front of its own. -/
theorem startsWith_iff {start text : String} :
    startsWith start text = true ↔ start.toList <+: text.toList :=
  List.isPrefixOf_iff_prefix

/-- A text occurs among characters if they hold its characters without a gap. -/
theorem occursIn_iff {needle cs : List Char} :
    occursIn needle cs = true ↔ needle <:+: cs := by
  induction cs with
  | nil => simp [occursIn]
  | cons c cs ih => simp [occursIn, ih, List.infix_cons_iff]

end WeatherTables.Text
