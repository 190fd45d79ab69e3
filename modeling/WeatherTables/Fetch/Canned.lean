import WeatherTables.Fetch.Request

/-!
# Canned answers

A client that answers from a list of rules: the first rule whose marker occurs in the requested
address gives the answer. Where no rule applies the address is not found.
-/

set_option autoImplicit false

namespace WeatherTables

/-- The answer for every address that holds a marker. -/
structure CannedAnswer where
  marker : String
  answer : Answer
  deriving DecidableEq, Repr

namespace CannedAnswer

/-- The answer where no rule applies. -/
def noRule : Answer :=
  .response 404 "no rule"

/-- The answer for an address. -/
def lookup (rules : List CannedAnswer) (url : String) : Answer :=
  match rules.find? fun r => Text.contains r.marker url with
  | some rule => rule.answer
  | none => noRule

/-- The client that answers from the rules. -/
def client (rules : List CannedAnswer) : Client :=
  fun _ r => lookup rules r.url

end CannedAnswer

end WeatherTables
