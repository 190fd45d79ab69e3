/-!
# Text in pieces

Text cut at every character of a kind. The pieces hold all that was between the cuts, so that a
text is put together again from its pieces when one character makes every cut.
-/

set_option autoImplicit false

namespace WeatherTables.Text

/-- What stands before the first cut, between two cuts and after the last. -/
def pieces (isCut : Char → Bool) : List Char → List (List Char)
  | [] => [[]]
  | c :: cs =>
    if isCut c then [] :: pieces isCut cs
    else match pieces isCut cs with
      | [] => [[c]]
      | first :: others => (c :: first) :: others

/-- Every text has a piece, though it may be empty. -/
theorem pieces_ne_nil (isCut : Char → Bool) (cs : List Char) : pieces isCut cs ≠ [] := by
  cases cs with
  | nil => simp [pieces]
  | cons c cs =>
    simp only [pieces]
    split
    · simp
    · split <;> simp

/-- A text that is not cut is one piece. -/
theorem pieces_of_uncut {isCut : Char → Bool} {cs : List Char} (h : ∀ c ∈ cs, isCut c = false) :
    pieces isCut cs = [cs] := by
  induction cs with
  | nil => rfl
  | cons c cs ih =>
    obtain ⟨first, others⟩ := List.forall_mem_cons.1 h
    simp only [pieces, first, ih others, Bool.false_eq_true, if_false]

/-- A cut separates the pieces before it from those after it. -/
theorem pieces_append_cut {isCut : Char → Bool} {c : Char} (h : isCut c = true)
    (xs ys : List Char) :
    pieces isCut (xs ++ c :: ys) = pieces isCut xs ++ pieces isCut ys := by
  induction xs with
  | nil => simp only [List.nil_append, pieces, h, if_true, List.singleton_append]
  | cons x xs ih =>
    simp only [List.cons_append, pieces, ih]
    split
    · rfl
    · cases hp : pieces isCut xs with
      | nil => exact absurd hp (pieces_ne_nil isCut xs)
      | cons first others => rfl

/-- No piece holds a character that makes a cut. -/
theorem not_isCut_of_mem_pieces {isCut : Char → Bool} {cs piece : List Char} {c : Char}
    (h : piece ∈ pieces isCut cs) (hc : c ∈ piece) : isCut c = false := by
  induction cs generalizing piece with
  | nil => simp_all [pieces]
  | cons d cs ih =>
    simp only [pieces] at h
    split at h
    · rcases List.mem_cons.1 h with rfl | h
      · simp at hc
      · exact ih h hc
    · rename_i hd
      split at h
      · simp_all
      · rename_i first others hp
        rcases List.mem_cons.1 h with rfl | h
        · rcases List.mem_cons.1 hc with rfl | hc
          · simpa using hd
          · exact ih (by simp [hp]) hc
        · exact ih (by simp [hp, h]) hc

/-- Pieces put together with the character that cut them are the text again. -/
theorem intercalate_pieces (cut : Char) (cs : List Char) :
    [cut].intercalate (pieces (· = cut) cs) = cs := by
  induction cs with
  | nil => rfl
  | cons c cs ih =>
    have hne := pieces_ne_nil (· = cut) cs
    simp only [pieces]
    split
    · rename_i hc
      have hc : c = cut := by simpa using hc
      cases hp : pieces (· = cut) cs with
      | nil => exact absurd hp hne
      | cons first others =>
        rw [hp] at ih
        simp_all [List.intercalate, List.intersperse]
    · cases hp : pieces (· = cut) cs with
      | nil => exact absurd hp hne
      | cons first others =>
        rw [hp] at ih
        cases others <;> simp_all [List.intercalate, List.intersperse]

end WeatherTables.Text
