/-!
# Literals of statements

A text inside a statement stands between single quotes, and a quote of its own is written twice.
`readLiteral_append` says that a literal is read back whatever follows it, as long as that is no
further quote; `readList_append` says the same of a list of literals with its closing bracket, and
there anything at all may follow.
-/

set_option autoImplicit false

namespace WeatherTables.Sql

/-- The inside of a literal: every quote is written twice. -/
def doubled : List Char → List Char
  | [] => []
  | c :: rest => if c = '\'' then c :: c :: doubled rest else c :: doubled rest

/-- A literal, as characters. -/
def literalChars (cs : List Char) : List Char :=
  '\'' :: doubled cs ++ ['\'']

/-- The text as a literal. -/
def literal (s : String) : String :=
  String.ofList (literalChars s.toList)

/-- The literals after the first of a list, each after a comma, and the closing bracket. -/
def moreChars : List String → List Char
  | [] => [')']
  | s :: ss => ',' :: ' ' :: literalChars s.toList ++ moreChars ss

/-- A list of literals and the closing bracket after it, as characters. -/
def listChars : List String → List Char
  | [] => [')']
  | s :: ss => literalChars s.toList ++ moreChars ss

/-- A list of literals and the closing bracket after it. -/
def list (ss : List String) : String :=
  String.ofList (listChars ss)

/-! ## Reading -/

/-- The inside of a literal up to its closing quote, and what follows the quote. -/
def readInside : List Char → Option (List Char × List Char)
  | [] => none
  | '\'' :: '\'' :: rest => (readInside rest).map fun (cs, after) => ('\'' :: cs, after)
  | c :: rest =>
    if c = '\'' then some ([], rest)
    else (readInside rest).map fun (cs, after) => (c :: cs, after)

/-- A literal, and what follows it. -/
def readLiteral : List Char → Option (String × List Char)
  | '\'' :: rest => (readInside rest).map fun (cs, after) => (String.ofList cs, after)
  | _ => none

/-- The rest of a list after one of its literals, and what follows the closing bracket. At most `n`
literals are read. -/
def readMore : Nat → List Char → Option (List String × List Char)
  | _, ')' :: after => some ([], after)
  | n + 1, ',' :: ' ' :: rest =>
    match readLiteral rest with
    | none => none
    | some (s, rest) => (readMore n rest).map fun (ss, after) => (s :: ss, after)
  | _, _ => none

/-- A list of literals up to its closing bracket, and what follows the bracket. -/
def readList (cs : List Char) : Option (List String × List Char) :=
  match cs with
  | ')' :: after => some ([], after)
  | cs =>
    match readLiteral cs with
    | none => none
    | some (s, rest) => (readMore rest.length rest).map fun (ss, after) => (s :: ss, after)

/-- Characters whose quotes are doubled are read back up to the closing quote, if no quote follows
it. -/
theorem readInside_doubled (cs rest : List Char) (h : ∀ r, rest ≠ '\'' :: r) :
    readInside (doubled cs ++ '\'' :: rest) = some (cs, rest) := by
  induction cs with
  | nil =>
    cases rest with
    | nil => rfl
    | cons c rest =>
      have hc : c ≠ '\'' := fun e => h rest (by rw [e])
      simp [doubled, readInside, hc]
  | cons c cs ih =>
    by_cases hc : c = '\''
    · subst hc
      simp [doubled, readInside, ih]
    · simp [doubled, hc]
      rw [readInside]
      · simp [hc, ih]
      · intro r e
        exact absurd e hc

/-- A literal is read back and what follows is left, if that does not start with a quote. -/
theorem readLiteral_append (s : String) (rest : List Char) (h : ∀ r, rest ≠ '\'' :: r) :
    readLiteral (literalChars s.toList ++ rest) = some (s, rest) := by
  have inside : readInside (doubled s.toList ++ '\'' :: rest) = some (s.toList, rest) :=
    readInside_doubled s.toList rest h
  simp [literalChars, readLiteral, inside]

/-- No list goes on with a quote after one of its literals. -/
theorem moreChars_append_ne (ss : List String) (after r : List Char) :
    moreChars ss ++ after ≠ '\'' :: r := by
  cases ss <;> simp [moreChars]

/-- The further literals of a list are read back up to its end. -/
theorem readMore_append (ss : List String) (after : List Char) (n : Nat) (h : ss.length ≤ n) :
    readMore n (moreChars ss ++ after) = some (ss, after) := by
  induction ss generalizing n with
  | nil => simp [moreChars, readMore]
  | cons s ss ih =>
    cases n with
    | zero => simp at h
    | succ n =>
      have first := readLiteral_append s (moreChars ss ++ after) (moreChars_append_ne ss after)
      have more := ih n (Nat.le_of_succ_le_succ h)
      simp [moreChars, readMore, first, more]

/-- A list is no longer than its text. -/
theorem length_le_length_moreChars (ss : List String) : ss.length ≤ (moreChars ss).length := by
  induction ss with
  | nil => simp
  | cons s ss ih =>
    simp [moreChars]
    omega

/-- A list of literals is read back, and what follows it is left. -/
theorem readList_append (ss : List String) (after : List Char) :
    readList (listChars ss ++ after) = some (ss, after) := by
  cases ss with
  | nil => rfl
  | cons s ss =>
    have first := readLiteral_append s (moreChars ss ++ after) (moreChars_append_ne ss after)
    have bound : ss.length ≤ (moreChars ss ++ after).length := by
      have := length_le_length_moreChars ss
      rw [List.length_append]
      omega
    have more := readMore_append ss after _ bound
    rw [listChars, List.append_assoc]
    unfold readList
    split
    · next rest e => simp [literalChars] at e
    · rw [first]
      simp only [more, Option.map_some]

end WeatherTables.Sql
