import WeatherTables.Json.Basic
import Mathlib.Data.List.Induction

/-!
# The members of a built object

An object is built from a list of members, one after the other. If their names differ, nothing is
replaced on the way: the object has exactly these names (`perm_names_ofList`), and under each of
them the value that stands beside it in the list (`find?_ofList`).
-/

set_option autoImplicit false

namespace WeatherTables.Members

open scoped List

/-- A member that is put in is found under its name, and the others as before. -/
theorem find?_insert (sought name : String) (v : Json) (ms : Members) :
    find? sought (insert name v ms) = if name = sought then some v else find? sought ms := by
  induction ms with
  | nil => rfl
  | cons m ms ih =>
    obtain ⟨other, kept⟩ := m
    by_cases before : name < other
    · rw [insert, if_pos before, find?]
    · by_cases same : name = other
      · -- The new member takes the place of the old one.
        rw [insert, if_neg before, if_pos same, find?, find?, ← same]
        by_cases h : name = sought
        · rw [if_pos h, if_pos h]
        · rw [if_neg h, if_neg h, if_neg h]
      · rw [insert, if_neg before, if_neg same, find?, ih, find?]
        by_cases h : other = sought
        · have differ : name ≠ sought := fun e => same (e.trans h.symm)
          rw [if_pos h, if_neg differ, if_pos h]
        · rw [if_neg h, if_neg h]

/-- Nothing is found just under the names that no member has. -/
theorem find?_eq_none_iff {name : String} {ms : Members} :
    find? name ms = none ↔ name ∉ ms.map Prod.fst := by
  induction ms with
  | nil => exact iff_of_true rfl List.not_mem_nil
  | cons m ms ih =>
    obtain ⟨other, v⟩ := m
    rw [find?, List.map_cons, List.mem_cons, not_or, ← ih]
    by_cases h : other = name
    · simp only [h, if_true, reduceCtorEq, not_true_eq_false, false_and]
    · simp only [h, if_false, Ne.symm h, not_false_eq_true, true_and]

/-- A name that is new is one name more. -/
theorem perm_names_insert {name : String} {ms : Members} (v : Json) (h : name ∉ ms.map Prod.fst) :
    ((insert name v ms).map Prod.fst).Perm (name :: ms.map Prod.fst) := by
  induction ms with
  | nil => exact List.Perm.refl _
  | cons m ms ih =>
    obtain ⟨other, kept⟩ := m
    rw [List.map_cons, List.mem_cons, not_or] at h
    unfold insert
    split_ifs with before same
    · exact List.Perm.refl _
    · exact absurd same h.1
    · exact ((ih h.2).cons other).trans (List.Perm.swap name other _)

/-- The last member of a list is put in after the others. -/
theorem ofList_concat (ms : List (String × Json)) (m : String × Json) :
    ofList (ms ++ [m]) = (ofList ms).insert m.1 m.2 := by
  unfold ofList
  rw [List.foldl_append]
  rfl

/-- Where no name stands twice, the object has the names of the list. -/
theorem perm_names_ofList {ms : List (String × Json)} (nodup : (ms.map Prod.fst).Nodup) :
    ((ofList ms).map Prod.fst).Perm (ms.map Prod.fst) := by
  induction ms using List.reverseRecOn with
  | nil => exact List.Perm.refl _
  | append_singleton ms m ih =>
    rw [List.map_append, List.map_singleton, (List.perm_append_singleton m.1 _).nodup_iff,
      List.nodup_cons] at nodup
    have before := ih nodup.2
    have fresh : m.1 ∉ (ofList ms).map Prod.fst := fun h => nodup.1 (before.mem_iff.1 h)
    rw [ofList_concat, List.map_append, List.map_singleton]
    calc ((ofList ms).insert m.1 m.2).map Prod.fst
      _ ~ m.1 :: (ofList ms).map Prod.fst := perm_names_insert m.2 fresh
      _ ~ m.1 :: ms.map Prod.fst := before.cons m.1
      _ ~ ms.map Prod.fst ++ [m.1] := (List.perm_append_singleton _ _).symm

/-- Where no name stands twice, every member of the list is found in the object. -/
theorem find?_ofList {ms : List (String × Json)} (nodup : (ms.map Prod.fst).Nodup)
    {m : String × Json} (h : m ∈ ms) : find? m.1 (ofList ms) = some m.2 := by
  induction ms using List.reverseRecOn with
  | nil => cases h
  | append_singleton ms last ih =>
    rw [List.map_append, List.map_singleton, (List.perm_append_singleton last.1 _).nodup_iff,
      List.nodup_cons] at nodup
    rw [ofList_concat, find?_insert]
    rcases List.mem_append.1 h with earlier | found
    · have differ : last.1 ≠ m.1 := fun e => nodup.1 (e ▸ List.mem_map_of_mem earlier)
      rw [if_neg differ, ih nodup.2 earlier]
    · rw [List.mem_singleton.1 found, if_pos rfl]

end WeatherTables.Members
