import WeatherTables.Bundle.Text
import WeatherTables.Proofs.Json.RoundTrip
import Mathlib.Data.Set.List

/-!
# Bundles over the wire

A bundle has no tags on the wire, so its shape alone says what it is. `toJson_of_ofJson?` and
`exists_toJson_eq_iff` say which values are bundles and that each is the value of the bundle read
from it; `denotes_bundle_text` adds the text. Together they give the wire format: every bundle arrives
as it was sent, a text that is no interchange text is taken as it stands, and of the others exactly the
values of bundles are accepted. What a text denotes is said by its grammar.
-/

set_option autoImplicit false

namespace WeatherTables.Bundle

open Json

/-! ## The values of bundles -/

/-- A string or `null`. -/
inductive IsOptionalText : Json → Prop where
  | null : IsOptionalText .null
  | string (s : String) : IsOptionalText (.string s)

/-- `null`, a string, or an array of nulls and strings. -/
inductive IsEntry : Json → Prop where
  | single {v : Json} (text : IsOptionalText v) : IsEntry v
  | group {xs : List Json} (texts : ∀ x ∈ xs, IsOptionalText x) : IsEntry (.array xs)

/-- A string, or an array whose elements are `null`, strings, or arrays of nulls and strings. -/
inductive IsBundle : Json → Prop where
  | scalar (s : String) : IsBundle (.string s)
  | list {xs : List Json} (entries : ∀ x ∈ xs, IsEntry x) : IsBundle (.array xs)

/-- The values written for a text or its absence are the strings and `null`. -/
theorem exists_optionalText_eq_iff (v : Json) : (∃ t, optionalText t = v) ↔ IsOptionalText v := by
  constructor
  · rintro ⟨_ | s, rfl⟩
    · exact .null
    · exact .string s
  · rintro (_ | s)
    · exact ⟨none, rfl⟩
    · exact ⟨some s, rfl⟩

/-- A list holds only values of parts exactly when it is the list of the values of some parts. -/
theorem exists_map_eq_iff {α : Type} {write : α → Json} {IsPart : Json → Prop}
    (part : ∀ v, (∃ a, write a = v) ↔ IsPart v) (xs : List Json) :
    (∃ as : List α, as.map write = xs) ↔ ∀ x ∈ xs, IsPart x := by
  have range := Set.ext_iff.1 (Set.range_list_map write) xs
  simp only [Set.mem_range, Set.mem_ofPred_eq, part] at range
  exact range

/-- The values written for entries are `null`, the strings, and the arrays of nulls and strings. -/
theorem Entry.exists_toJson_eq_iff (v : Json) : (∃ e : Entry, e.toJson = v) ↔ IsEntry v := by
  constructor
  · rintro ⟨t | texts, rfl⟩
    · exact .single ((exists_optionalText_eq_iff _).1 ⟨t, rfl⟩)
    · exact .group ((exists_map_eq_iff exists_optionalText_eq_iff _).1 ⟨texts, rfl⟩)
  · rintro (text | texts)
    · obtain ⟨t, rfl⟩ := (exists_optionalText_eq_iff v).2 text
      exact ⟨.single t, rfl⟩
    · obtain ⟨ts, rfl⟩ := (exists_map_eq_iff exists_optionalText_eq_iff _).2 texts
      exact ⟨.group ts, rfl⟩

/-- The values written for bundles are those of the shape of a bundle. -/
theorem exists_toJson_eq_iff (v : Json) : (∃ b : Bundle, b.toJson = v) ↔ IsBundle v := by
  constructor
  · rintro ⟨s | entries, rfl⟩
    · exact .scalar s
    · exact .list ((exists_map_eq_iff Entry.exists_toJson_eq_iff _).1 ⟨entries, rfl⟩)
  · rintro (s | entries)
    · exact ⟨.scalar s, rfl⟩
    · obtain ⟨es, rfl⟩ := (exists_map_eq_iff Entry.exists_toJson_eq_iff _).2 entries
      exact ⟨.list es, rfl⟩

/-! ## Reading a value -/

/-- A value that is read as a text or its absence is the one written for it. -/
theorem optionalText_of_optionalText? {v : Json} {t : Option String} (h : optionalText? v = some t) :
    optionalText t = v := by
  unfold optionalText? at h
  split at h <;> cases h <;> rfl

/-- A list whose parts have the values they were read from has the value it was read from. -/
theorem map_eq_of_mapM {α β : Type} {write : α → β} {read : β → Option α}
    (h : ∀ v a, read v = some a → write a = v) {vs : List β} {as : List α}
    (hread : vs.mapM read = some as) : as.map write = vs := by
  induction vs generalizing as with
  | nil =>
    simp only [List.mapM_nil, Option.pure_def, Option.some.injEq] at hread
    simp [← hread]
  | cons v vs ih =>
    simp only [List.mapM_cons, Option.bind_eq_bind, Option.bind_eq_some_iff, Option.pure_def,
      Option.some.injEq] at hread
    obtain ⟨a, ha, rest, hrest, rfl⟩ := hread
    rw [List.map_cons, h v a ha, ih hrest]

/-- A value that is read as an entry is the one written for it. -/
theorem Entry.toJson_of_ofJson? {v : Json} {e : Entry} (h : Entry.ofJson? v = some e) :
    e.toJson = v := by
  unfold Entry.ofJson? at h
  split at h
  · obtain ⟨texts, htexts, rfl⟩ := Option.map_eq_some_iff.1 h
    have inside := map_eq_of_mapM (fun _ _ => optionalText_of_optionalText?) htexts
    rw [Entry.toJson, inside]
  · obtain ⟨t, ht, rfl⟩ := Option.map_eq_some_iff.1 h
    exact optionalText_of_optionalText? ht

/-- The bundle read from a value has that value. -/
theorem toJson_of_ofJson? {v : Json} {b : Bundle} (h : ofJson? v = some b) : b.toJson = v := by
  unfold ofJson? at h
  split at h
  · cases h
    rfl
  · obtain ⟨entries, hentries, rfl⟩ := Option.map_eq_some_iff.1 h
    have inside := map_eq_of_mapM (fun _ _ => Entry.toJson_of_ofJson?) hentries
    rw [toJson, inside]
  · cases h

/-- Reading a value gives a bundle exactly when it is the value of that bundle. -/
theorem ofJson_eq_ok_iff (v : Json) (b : Bundle) : ofJson v = .ok b ↔ b.toJson = v := by
  constructor
  · intro h
    unfold ofJson at h
    split at h
    · next found read =>
      cases h
      exact toJson_of_ofJson? read
    · cases h
  · rintro rfl
    exact ofJson_toJson b

/-! ## Reading a text -/

/-- The value of a text or its absence is regular and has no depth. -/
theorem regular_optionalText (room : Nat) (t : Option String) : Regular room (optionalText t) := by
  cases t with
  | none => exact .null room
  | some s => exact .string room s

/-- The value of an entry is regular and one level deep at most. -/
theorem Entry.regular_toJson (room : Nat) (e : Entry) : Regular (room + 1) e.toJson := by
  cases e with
  | single t => exact regular_optionalText (room + 1) t
  | group texts =>
    apply Regular.array
    intro x hx
    obtain ⟨t, -, rfl⟩ := List.mem_map.1 hx
    exact regular_optionalText room t

/-- The value of a bundle nests two containers at most. -/
theorem regular_toJson (room : Nat) (b : Bundle) : Regular (room + 2) b.toJson := by
  cases b with
  | scalar s => exact .string (room + 2) s
  | list entries =>
    apply Regular.array
    intro x hx
    obtain ⟨e, -, rfl⟩ := List.mem_map.1 hx
    exact Entry.regular_toJson room e

/-- The text of a bundle denotes the value of that bundle. -/
theorem denotes_bundle_text (b : Bundle) : Denotes depthLimit b.text.toList b.toJson :=
  Json.denotes_text (regular_toJson 125 b)

/-- The value of a bundle is never `null`. -/
theorem toJson_ne_null (b : Bundle) : b.toJson ≠ .null := by
  cases b <;> simp [toJson]

/-- A text that denotes anything but `null` is read as its value is. -/
theorem ofText_of_denotes {t : String} {v : Json} (denotes : Denotes depthLimit t.toList v)
    (hv : v ≠ .null) : ofText t = ofJson v := by
  simp only [ofText, Json.read?_of_denotes denotes]

/-- A bundle arrives as it was sent. -/
theorem ofText_text (b : Bundle) : ofText b.text = .ok b := by
  rw [ofText_of_denotes (denotes_bundle_text b) (toJson_ne_null b), ofJson_toJson]

/-- The wire format. Every bundle is read back from its text. A text that is no interchange text is a
single parameter as it stands, and `null` is the empty list; any other text is accepted exactly if it
denotes the value of a bundle, and then the text of the bundle denotes that same value. -/
theorem wire_format :
    (∀ b : Bundle, ofText b.text = .ok b) ∧
    ∀ t : String,
      ((¬ ∃ v, Denotes depthLimit t.toList v) → ofText t = .ok (.scalar t)) ∧
      (Denotes depthLimit t.toList .null → ofText t = .ok (.list [])) ∧
      ∀ v : Json, Denotes depthLimit t.toList v → v ≠ .null →
        ((∃ b, ofText t = .ok b) ↔ IsBundle v) ∧
        ∀ b, ofText t = .ok b → Denotes depthLimit b.text.toList v := by
  refine ⟨ofText_text, fun t => ⟨fun foreign => ?_, fun null => ?_, fun v denotes hv => ?_⟩⟩
  · simp only [ofText, (Json.read?_eq_none_iff t).2 foreign]
  · simp only [ofText, Json.read?_of_denotes null]
    rfl
  · rw [ofText_of_denotes denotes hv]
    constructor
    · rw [← exists_toJson_eq_iff v]
      simp only [ofJson_eq_ok_iff]
    · intro b hb
      rw [← (ofJson_eq_ok_iff v b).1 hb]
      exact denotes_bundle_text b

/-- One text of each shape: no interchange text, `null`, a list with a group in it, and a list with a
truth value in it, which is refused. -/
theorem wire_format_of_shapes :
    let nested : Json := .array [.string "q=Rome", .array [.null, .string "id=1"]]
    let refused : Json := .array [.bool true]
    ((¬ ∃ v, Denotes depthLimit "q=Rome".toList v) ∧ ofText "q=Rome" = .ok (.scalar "q=Rome")) ∧
      (Denotes depthLimit " null ".toList .null ∧ ofText " null " = .ok (.list [])) ∧
      (Denotes depthLimit "[\"q=Rome\", [null, \"id=1\"]]".toList nested ∧ nested ≠ .null ∧
        ∃ b, ofText "[\"q=Rome\", [null, \"id=1\"]]" = .ok b ∧
          Denotes depthLimit b.text.toList nested) ∧
      Denotes depthLimit "[true]".toList refused ∧ refused ≠ .null ∧
        ¬ ∃ b, ofText "[true]" = .ok b := by
  have notBundle : ¬ IsBundle (.array [.bool true]) := by
    rintro (_ | entries)
    cases entries (.bool true) List.mem_cons_self with
    | single text => cases text
  intro nested refused
  have foreign : ¬ ∃ v, Denotes depthLimit "q=Rome".toList v :=
    (Json.read?_eq_none_iff _).1 rfl
  have null : Denotes depthLimit " null ".toList .null := (Json.read?_eq_some_iff _ _).1 rfl
  have denotes : Denotes depthLimit "[\"q=Rome\", [null, \"id=1\"]]".toList nested :=
    (Json.read?_eq_some_iff _ _).1 rfl
  have denotesRefused : Denotes depthLimit "[true]".toList refused :=
    (Json.read?_eq_some_iff _ _).1 rfl
  have nestedNotNull : nested ≠ .null := nofun
  have refusedNotNull : refused ≠ .null := nofun
  obtain ⟨accepted, kept⟩ := (wire_format.2 _).2.2 nested denotes nestedNotNull
  have shape : IsBundle nested := (exists_toJson_eq_iff nested).1
    ⟨.list [.single (some "q=Rome"), .group [none, some "id=1"]], rfl⟩
  obtain ⟨b, hb⟩ := accepted.2 shape
  refine ⟨⟨foreign, (wire_format.2 _).1 foreign⟩, ⟨null, (wire_format.2 _).2.1 null⟩,
    ⟨denotes, nestedNotNull, b, hb, kept b hb⟩, denotesRefused, refusedNotNull, ?_⟩
  rw [((wire_format.2 _).2.2 refused denotesRefused refusedNotNull).1]
  exact notBundle

end WeatherTables.Bundle
