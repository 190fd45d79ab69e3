import WeatherTables.Bundle.Basic
import WeatherTables.Json.Decoding
import WeatherTables.Json.Reader
import WeatherTables.Json.Writer

/-!
# Bundles as text

A bundle travels as interchange text: a string, or an array of strings, nulls and arrays of strings
and nulls. A text that is no interchange text at all is taken as a single parameter.
`ofJson_toJson` says that the value of a bundle is read back as that bundle.
-/

set_option autoImplicit false

namespace WeatherTables

namespace Bundle

/-- A text or its absence. -/
def optionalText : Option String → Json
  | none => .null
  | some s => .string s

/-- The value of an entry. -/
def Entry.toJson : Entry → Json
  | .single text => optionalText text
  | .group texts => .array (texts.map optionalText)

/-- The value of a bundle. -/
def toJson : Bundle → Json
  | .scalar text => .string text
  | .list entries => .array (entries.map Entry.toJson)

/-- The text of a bundle. -/
def text (b : Bundle) : String :=
  b.toJson.text

/-- The text or absence that a value stands for. -/
def optionalText? : Json → Option (Option String)
  | .null => some none
  | .string s => some (some s)
  | _ => none

/-- The entry of a value. -/
def Entry.ofJson? : Json → Option Entry
  | .array xs => (xs.mapM optionalText?).map .group
  | v => (optionalText? v).map .single

/-- The bundle of a value, if the value has the shape of one. -/
def ofJson? : Json → Option Bundle
  | .string s => some (.scalar s)
  | .array xs => (xs.mapM Entry.ofJson?).map .list
  | _ => none

/-- The bundle of a value. -/
def ofJson (v : Json) : Except DataError Bundle :=
  match ofJson? v with
  | some b => .ok b
  | none => .error (.noVariant "ParameterBundle")

/-- The bundle of a text, as it arrives at a call site. -/
def ofText (s : String) : Except DataError Bundle :=
  match Json.read? s with
  | none => .ok (.scalar s)
  | some .null => .ok .empty
  | some v => ofJson v

/-! ## Reading what was written -/

/-- A text or its absence is read back from the value written for it. -/
theorem optionalText?_optionalText (t : Option String) : optionalText? (optionalText t) = some t := by
  cases t <;> rfl

/-- A list whose parts are read back is read back. -/
theorem mapM_map_eq_some {α β : Type} {write : α → β} {read : β → Option α} {xs : List α}
    (h : ∀ x ∈ xs, read (write x) = some x) : (xs.map write).mapM read = some xs := by
  induction xs with
  | nil => rfl
  | cons x xs ih =>
    have first : read (write x) = some x := h x List.mem_cons_self
    have others := ih fun y hy => h y (List.mem_cons_of_mem x hy)
    simp [List.mapM_cons, first, others]

/-- An entry is read back from its value. -/
theorem Entry.ofJson?_toJson (e : Entry) : Entry.ofJson? e.toJson = some e := by
  cases e with
  | single text => cases text <;> rfl
  | group texts =>
    have inside := mapM_map_eq_some fun t (_ : t ∈ texts) => optionalText?_optionalText t
    simp [Entry.toJson, Entry.ofJson?, inside]

/-- A bundle is read back from its value. -/
theorem ofJson_toJson (b : Bundle) : ofJson b.toJson = .ok b := by
  cases b with
  | scalar text => rfl
  | list entries =>
    have inside := mapM_map_eq_some fun e (_ : e ∈ entries) => Entry.ofJson?_toJson e
    simp [ofJson, ofJson?, toJson, inside]

end Bundle

end WeatherTables
