/-!
# Text in lines

Text cut at every line end, which is a carriage return with a line feed after it. Either of the two
alone is a character of its line.
-/

set_option autoImplicit false

namespace WeatherTables.Text

/-- The lines of a text. What stands after the last line end is a line too, if only an empty one. -/
def lines : List Char → List (List Char)
  | [] => [[]]
  | '\r' :: '\n' :: rest => [] :: lines rest
  | c :: rest => (lines rest).modifyHead (c :: ·)

/-- Every text has a line, though it may be empty. -/
theorem lines_ne_nil (cs : List Char) : lines cs ≠ [] := by
  fun_induction lines cs with
  | case1 => exact List.cons_ne_nil _ _
  | case2 rest ih => exact List.cons_ne_nil _ _
  | case3 c rest _ ih =>
    intro empty
    apply ih
    cases found : lines rest with
    | nil => rfl
    | cons first others =>
      rw [found] at empty
      cases empty

/-- A line end separates the lines before it from those after it. -/
theorem lines_append_end (xs ys : List Char) :
    lines (xs ++ '\r' :: '\n' :: ys) = lines xs ++ lines ys := by
  fun_induction lines xs with
  | case1 => rfl
  | case2 rest ih => rw [List.cons_append, List.cons_append, lines, ih, List.cons_append]
  | case3 c rest noEnd ih =>
    rw [List.cons_append, lines, ih]
    · cases found : lines rest with
      | nil => exact absurd found (lines_ne_nil rest)
      | cons first others => rfl
    · -- The character makes no line end with what comes next, also if nothing came next before.
      intro after isReturn isFeed
      cases rest with
      | nil => cases isFeed
      | cons d rest => exact noEnd rest isReturn (by rw [(List.cons.inj isFeed).1])

/-- Characters that cannot begin a line end belong to the first line. -/
theorem lines_append_of_not_mem {xs : List Char} (h : '\r' ∉ xs) (ys : List Char) :
    lines (xs ++ ys) = (lines ys).modifyHead (xs ++ ·) := by
  induction xs with
  | nil =>
    rw [List.nil_append]
    cases lines ys with
    | nil => rfl
    | cons first others => rfl
  | cons x xs ih =>
    rw [List.mem_cons, not_or] at h
    rw [List.cons_append, lines, ih h.2]
    · cases lines ys with
      | nil => rfl
      | cons first others => rfl
    · intro after isReturn
      exact absurd isReturn.symm h.1

/-- A text without a line end is one line. -/
theorem lines_of_no_end {cs : List Char} (h : ¬ ['\r', '\n'] <:+: cs) : lines cs = [cs] := by
  fun_induction lines cs with
  | case1 => rfl
  | case2 rest ih => exact absurd (List.prefix_append ['\r', '\n'] rest).isInfix h
  | case3 c rest _ ih =>
    rw [ih fun inside => h (inside.trans (List.suffix_cons c rest).isInfix)]
    rfl

/-- A text is a single line exactly if it has no line end in it. -/
theorem length_lines_eq_one_iff {cs : List Char} :
    (lines cs).length = 1 ↔ ¬ ['\r', '\n'] <:+: cs := by
  constructor
  · rintro single ⟨before, after, rfl⟩
    have first := List.length_pos_iff.2 (lines_ne_nil before)
    have second := List.length_pos_iff.2 (lines_ne_nil after)
    rw [List.append_assoc, List.cons_append, List.cons_append, List.nil_append, lines_append_end,
      List.length_append] at single
    omega
  · intro h
    rw [lines_of_no_end h]
    rfl

end WeatherTables.Text
