import WeatherTables.Bundle.Basic
import WeatherTables.Text.Blank
import WeatherTables.Text.Search

/-!
# The calls of a bundle

How many calls a bundle leads to, and the parameter of each. Absent and empty texts lead to none. A
postal code and its one companion are written next to each other, the code first; texts that all
ask for the same kind of list become a call each; all others are joined in one call.
-/

set_option autoImplicit false

namespace WeatherTables

open Text

namespace Bundle

/-- How the parameter for a postal code starts. -/
def zipStart : String := "zip="

/-- How the parameters start that take only one value a call. -/
def listStarts : List String :=
  ["id=", "q=", zipStart]

/-- The texts that are there and are not empty. -/
def present (texts : List (Option String)) : List String :=
  texts.filterMap fun t => t.filter (· ≠ "")

/-- A postal code followed by its companion, if the texts are just these two. -/
def zipPair? (texts : List String) : Option String :=
  match texts.partition (startsWith zipStart) with
  | ([zip], [companion]) => some (zip ++ companion)
  | _ => none

/-- Whether all texts start alike, with a parameter that takes only one value a call. -/
def sharesStart (texts : List String) : Bool :=
  listStarts.any fun start => texts.all (startsWith start)

/-- The calls of a group. -/
def groupCalls (texts : List (Option String)) : List String :=
  match present texts with
  | [] => []
  | found =>
    match zipPair? found with
    | some parameter => [parameter]
    | none => if sharesStart found then found else ["&".intercalate found]

/-- The calls of an entry. -/
def Entry.calls : Entry → List String
  | .single text => present [text]
  | .group texts => groupCalls texts

/-- The parameters of the calls of a bundle, in order. -/
def calls : Bundle → List String
  | .scalar text => if (trimmed text.toList).isEmpty then [] else [text]
  | .list entries => entries.flatMap Entry.calls

end Bundle

end WeatherTables
