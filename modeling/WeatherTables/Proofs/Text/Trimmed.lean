import WeatherTables.Text.Blank
import Mathlib.Data.List.DropRight

/-!
# Trimming

Trimming takes blanks from both ends of a text and nothing else, so doing it again changes nothing
(`trimmed_trimmed`), and a text is trimmed away exactly if it holds only blanks (`trimmed_eq_nil_iff`).
-/

set_option autoImplicit false

namespace WeatherTables.Text

/-- Trimming drops the blanks in front and then those at the end. -/
theorem trimmed_eq_rdropWhile (cs : List Char) :
    trimmed cs = (dropBlanks cs).rdropWhile isBlank := rfl

/-- What is trimmed has no blanks in front: its first character is the first that was not blank. -/
theorem dropBlanks_trimmed (cs : List Char) : dropBlanks (trimmed cs) = trimmed cs := by
  have kept : trimmed cs <+: dropBlanks cs := List.rdropWhile_prefix isBlank _
  apply List.dropWhile_eq_self_iff.2
  intro nonempty
  have inside : 0 < (dropBlanks cs).length := Nat.lt_of_lt_of_le nonempty kept.length_le
  have first := List.dropWhile_eq_self_iff.1 (List.dropWhile_idempotent isBlank cs) inside
  rw [kept.getElem nonempty]
  exact first

/-- Characters that are trimmed stay as they are when trimmed again. -/
theorem trimmed_trimmed (cs : List Char) : trimmed (trimmed cs) = trimmed cs := by
  rw [trimmed_eq_rdropWhile (trimmed cs), dropBlanks_trimmed]
  exact List.rdropWhile_idempotent isBlank (dropBlanks cs)

/-- A text that is trimmed stays as it is when trimmed again. -/
theorem trim_trim (s : String) : trim (trim s) = trim s := by
  simp only [trim, String.toList_ofList, trimmed_trimmed]

/-- A text without any blank is not changed by trimming. -/
theorem trimmed_of_forall {cs : List Char} (h : ∀ c ∈ cs, isBlank c = false) : trimmed cs = cs := by
  have front : dropBlanks cs = cs :=
    List.dropWhile_eq_self_iff.2 fun _ => by simp [h]
  rw [trimmed_eq_rdropWhile, front]
  exact List.rdropWhile_eq_self_iff.2 fun _ => by simp [h]

/-- Blanks around a text are trimmed away with those that it has already. -/
theorem trimmed_padded {before after : List Char} (blankBefore : ∀ c ∈ before, isBlank c = true)
    (blankAfter : ∀ c ∈ after, isBlank c = true) (cs : List Char) :
    trimmed (before ++ (cs ++ after)) = trimmed cs := by
  have front : dropBlanks (before ++ (cs ++ after)) = dropBlanks (cs ++ after) :=
    List.dropWhile_append_of_pos blankBefore
  have nothing : dropBlanks after = [] := List.dropWhile_eq_nil_iff.2 blankAfter
  have behind : ∀ c ∈ after.reverse, isBlank c = true := by simpa using blankAfter
  simp only [trimmed, front]
  by_cases inner : (dropBlanks cs).isEmpty = true
  · have joined : dropBlanks (cs ++ after) = dropBlanks after :=
      (List.dropWhile_append ..).trans (if_pos inner)
    rw [joined, nothing, List.isEmpty_iff.1 inner]
  · have joined : dropBlanks (cs ++ after) = dropBlanks cs ++ after :=
      (List.dropWhile_append ..).trans (if_neg inner)
    rw [joined, List.reverse_append, dropBlanks, List.dropWhile_append_of_pos behind]
    rfl

/-- Nothing is left of a text exactly if it holds only blanks. -/
theorem trimmed_eq_nil_iff {cs : List Char} : trimmed cs = [] ↔ ∀ c ∈ cs, isBlank c = true := by
  rw [trimmed_eq_rdropWhile, List.rdropWhile_eq_nil_iff]
  constructor
  · intro rest c hc
    rw [← List.takeWhile_append_dropWhile (p := isBlank) (l := cs), List.mem_append] at hc
    rcases hc with front | back
    · exact List.mem_takeWhile_imp front
    · exact rest c back
  · intro all c hc
    exact all c ((List.dropWhile_suffix isBlank).subset hc)

/-- More text in front of a text that is not blank does not make it blank. -/
theorem trimmed_append_ne_nil (front : List Char) {cs : List Char} (h : trimmed cs ≠ []) :
    trimmed (front ++ cs) ≠ [] := by
  intro blank
  exact h (trimmed_eq_nil_iff.2 fun c hc => trimmed_eq_nil_iff.1 blank c (List.mem_append_right _ hc))

/-- No visible ASCII character is blank. -/
theorem isBlank_of_visible {c : Char} (low : 32 < c.toNat) (high : c.toNat < 127) :
    isBlank c = false := by
  simp only [isBlank, CharClass.holds, blankTable, List.any_cons, List.any_nil, Bool.or_false,
    Bool.or_eq_false_iff, Bool.and_eq_false_imp, decide_eq_true_eq, decide_eq_false_iff_not, Nat.not_le]
  omega

/-- No digit is a blank. -/
theorem isBlank_of_isDigit {c : Char} (h : c.isDigit = true) : isBlank c = false := by
  obtain ⟨low, high⟩ := Char.isDigit_iff_toNat.1 h
  have low : 48 ≤ c.toNat := low
  have high : c.toNat ≤ 57 := high
  exact isBlank_of_visible (by omega) (by omega)

end WeatherTables.Text
