import WeatherTables.Proofs.Json.Records
import Mathlib.Data.List.Induction
import Mathlib.Data.List.Nodup
import Mathlib.Logic.Function.Basic

/-!
# What the fields of a record say

A record is read one named value after the other. What counts in the end is what the values say together
(`given`): under each name the last of them, and null where there is none. `reads_of_asRecord` turns a
statement about one step of reading into one about the whole record, in the form of an object or of an
array. Members that are null or have an unknown name say nothing (`Padded.given_eq`).
-/

set_option autoImplicit false

namespace WeatherTables.Json

/-- What named values say under each name. The last one counts, and a name that is missing is null. -/
def given (values : List (String × Json)) : String → Json :=
  values.foldl (fun said m => Function.update said m.1 m.2) fun _ => .null

/-- The named values of a record: the members of an object, or the elements of an array under the names
of the fields. -/
def namedValues (names : List String) : Json → List (String × Json)
  | .object members => members
  | .array xs => names.zip xs
  | _ => []

/-- What a record with the given fields says under a name. -/
def field (names : List String) (v : Json) : String → Json :=
  given (v.namedValues names)

section Given

/-- A named value at the end counts for its name, and the others for all other names. -/
theorem given_concat (values : List (String × Json)) (m : String × Json) :
    given (values ++ [m]) = Function.update (given values) m.1 m.2 := by
  unfold given
  rw [List.foldl_append]
  rfl

variable {values : List (String × Json)} {name : String}

/-- Under a name that is missing stands null. -/
theorem given_of_not_mem (h : name ∉ values.map Prod.fst) : given values name = .null := by
  induction values using List.reverseRecOn with
  | nil => rfl
  | append_singleton values m ih =>
    rw [List.map_append, List.map_singleton, List.mem_append, List.mem_singleton, not_or] at h
    rw [given_concat, Function.update_of_ne h.2, ih h.1]

/-- What counts for a name is one of the named values. -/
theorem given_mem (h : name ∈ values.map Prod.fst) : (name, given values name) ∈ values := by
  induction values using List.reverseRecOn with
  | nil => cases h
  | append_singleton values m ih =>
    rw [given_concat, List.mem_append, List.mem_singleton]
    by_cases last : name = m.1
    · subst last
      rw [Function.update_self]
      exact .inr rfl
    · rw [List.map_append, List.map_singleton, List.mem_append, List.mem_singleton,
        or_iff_left last] at h
      rw [Function.update_of_ne last]
      exact .inl (ih h)

/-- Where no name stands twice, every named value counts. -/
theorem given_of_mem (nodup : (values.map Prod.fst).Nodup) {v : Json} (h : (name, v) ∈ values) :
    given values name = v := by
  have found := given_mem (List.mem_map_of_mem h)
  have same := List.inj_on_of_nodup_map nodup found h rfl
  exact congrArg Prod.snd same

end Given

section Reading

variable {α : Type} {set : α → String → Json → Except DataError α} {start r : α}
  {Reads : α → (String → Json) → Prop}
  (blank : Reads start fun _ => .null)
  (step : ∀ {r said name v r'}, Reads r said → set r name v = .ok r' →
    Reads r' (Function.update said name v))
include blank step

/-- A record that was read from named values is the one that they describe. -/
theorem reads_of_foldlM {values : List (String × Json)}
    (h : values.foldlM (fun r m => set r m.1 m.2) start = .ok r) : Reads r (given values) := by
  induction values using List.reverseRecOn generalizing r with
  | nil =>
    obtain rfl := Except.ok.inj h
    exact blank
  | append_singleton values m ih =>
    rw [List.foldlM_append, bind_eq_ok_iff] at h
    obtain ⟨before, hbefore, hlast⟩ := h
    rw [List.foldlM_cons, bind_eq_ok_iff] at hlast
    obtain ⟨after, hset, same⟩ := hlast
    obtain rfl := Except.ok.inj same
    rw [given_concat]
    exact step (ih hbefore) hset

/-- If each step of reading takes over what the value says under its name, then the record that is read
is the one that the fields of the value describe. -/
theorem reads_of_asRecord {expected : String} {names : List String} {v : Json}
    (h : asRecord expected names set start v = .ok r) : Reads r (v.field names) := by
  cases v with
  | object members => exact reads_of_foldlM blank step h
  | array xs =>
    rw [asRecord, bind_eq_ok_iff] at h
    obtain ⟨read, hread, few⟩ := h
    split at few
    · cases few
    · obtain rfl := Except.ok.inj few
      exact reads_of_foldlM blank step hread
  | null | bool | number | string => cases h

end Reading

/-! ## Members that say nothing -/

/-- The members are the given ones and others that are null or have none of the known names, in any
order. As in every object no name stands twice. -/
structure Padded (known : List String) (base members : List (String × Json)) : Prop where
  nodup : (members.map Prod.fst).Nodup
  kept : base ⊆ members
  added : ∀ m ∈ members, m ∈ base ∨ m.2 = .null ∨ m.1 ∉ known

namespace Padded

variable {known : List String} {base members : List (String × Json)}

/-- Under the known names, a padded record says what it said before. -/
theorem given_eq (h : Padded known base members) {name : String} (hname : name ∈ known) :
    given members name = given base name := by
  by_cases inBase : name ∈ base.map Prod.fst
  · exact given_of_mem h.nodup (h.kept (given_mem inBase))
  · rw [given_of_not_mem inBase]
    by_cases inMembers : name ∈ members.map Prod.fst
    · have found := given_mem inMembers
      rcases h.added _ found with old | null | unknown
      · exact absurd (List.mem_map_of_mem old) inBase
      · exact null
      · exact absurd hname unknown
    · exact given_of_not_mem inMembers

/-- What is true of the given members is true of all, if it is true of null and of unknown names. -/
theorem forall_mem {Field : String → Json → Prop} (h : Padded known base members)
    (null : ∀ name, Field name .null) (unknown : ∀ {name}, name ∉ known → ∀ v, Field name v)
    (given : ∀ m ∈ base, Field m.1 m.2) : ∀ m ∈ members, Field m.1 m.2 := by
  rintro ⟨name, v⟩ hm
  rcases h.added _ hm with old | isNull | isUnknown
  · exact given _ old
  · obtain rfl : v = .null := isNull
    exact null name
  · exact unknown isUnknown v

/-- Nothing has to be added to a record in which no name stands twice. -/
theorem self (nodup : (base.map Prod.fst).Nodup) : Padded known base base :=
  ⟨nodup, List.Subset.refl base, fun _ h => .inl h⟩

end Padded

end WeatherTables.Json
