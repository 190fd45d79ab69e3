import WeatherTables.Proofs.Json.Lexemes

/-!
# Tokens are read by their grammar

`TokenText` is the text of a token. What `token?` finds stands in the text (`exists_text_of_token?`),
and what stands there is found (`token?_scalar`, and by evaluation for the marks). Since no token is
empty, the number of steps that `tokens` counts down is never used up, and `tokens_gap` and
`tokens_token` read a text token by token with no count in sight.
-/

set_option autoImplicit false

namespace WeatherTables.Json

/-- The text of a token. -/
inductive TokenText : List Char → Token → Prop where
  | scalar {text : List Char} {v : Json} (isScalar : ScalarText text v) : TokenText text (.scalar v)
  | openArray : TokenText ['['] .openArray
  | closeArray : TokenText [']'] .closeArray
  | openObject : TokenText ['\x7b'] .openObject
  | closeObject : TokenText ['\x7d'] .closeObject
  | comma : TokenText [','] .comma
  | colon : TokenText [':'] .colon

/-- A word that was read stands in front of what is left. -/
theorem eq_append_of_afterWord? {word cs after : List Char} (h : afterWord? word cs = some after) :
    cs = word ++ after := by
  unfold afterWord? at h
  split at h
  · next starts =>
    obtain ⟨rest, rfl⟩ := List.isPrefixOf_iff_prefix.1 starts
    simp only [List.drop_left, Option.some.injEq] at h
    rw [h]
  · cases h

/-- A word is read, and what follows it is left. -/
theorem afterWord?_append (word rest : List Char) : afterWord? word (word ++ rest) = some rest := by
  have starts : word.isPrefixOf (word ++ rest) = true :=
    List.isPrefixOf_iff_prefix.2 (List.prefix_append word rest)
  rw [afterWord?, if_pos starts, List.drop_left]

/-- What is read as a word after its first character is that word. -/
theorem exists_text_of_word {c : Char} {word rest after : List Char} {v : Json} {t : Token}
    (isScalar : ScalarText (c :: word) v)
    (h : ((afterWord? word rest).map fun after => (Token.scalar v, after)) = some (t, after)) :
    ∃ text, c :: rest = text ++ after ∧ TokenText text t := by
  obtain ⟨rest', hword, h⟩ := Option.map_eq_some_iff.1 h
  simp only [Prod.mk.injEq] at h
  obtain ⟨rfl, rfl⟩ := h
  exact ⟨c :: word, congrArg _ (eq_append_of_afterWord? hword), .scalar isScalar⟩

/-- What is read as a number is one. -/
theorem exists_numeral_of_readNumber {negative : Bool} {cs after : List Char} {v : Json}
    (h : readNumber negative cs = some (v, after)) :
    ∃ text n x, cs = text ++ after ∧ Magnitude negative text n ∧ n.value? = some x ∧
      v = .number x := by
  simp only [readNumber, Option.bind_eq_bind, Option.bind_eq_some_iff, Option.pure_def,
    Option.some.injEq, Prod.mk.injEq] at h
  obtain ⟨⟨n, rest⟩, hn, x, value, rfl, rfl⟩ := h
  obtain ⟨text, rfl, magnitude⟩ := eq_append_of_numeral? hn
  exact ⟨text, n, x, rfl, magnitude, value, rfl⟩

/-- What is read as a token stands at the front of the text. -/
theorem exists_text_of_token? {c : Char} {rest after : List Char} {t : Token}
    (h : token? c rest = some (t, after)) : ∃ text, c :: rest = text ++ after ∧ TokenText text t := by
  unfold token? at h
  split at h
  case h_7 =>
    obtain ⟨⟨s, rest'⟩, hs, h⟩ := Option.map_eq_some_iff.1 h
    simp only [Prod.mk.injEq] at h
    obtain ⟨rfl, rfl⟩ := h
    obtain ⟨inside, chars, rfl, isInside, rfl⟩ := exists_inside_of_readString hs
    exact ⟨'"' :: (inside ++ ['"']), by simp, .scalar (.string isInside)⟩
  case h_8 => exact exists_text_of_word .null h
  case h_9 => exact exists_text_of_word .true h
  case h_10 => exact exists_text_of_word .false h
  case h_11 =>
    obtain ⟨⟨v, rest'⟩, hv, h⟩ := Option.map_eq_some_iff.1 h
    simp only [Prod.mk.injEq] at h
    obtain ⟨rfl, rfl⟩ := h
    obtain ⟨text, n, x, rfl, magnitude, value, rfl⟩ := exists_numeral_of_readNumber hv
    exact ⟨'-' :: text, rfl, .scalar (.number (.negative magnitude) value)⟩
  case h_12 =>
    obtain ⟨⟨v, rest'⟩, hv, h⟩ := Option.map_eq_some_iff.1 h
    simp only [Prod.mk.injEq] at h
    obtain ⟨rfl, rfl⟩ := h
    obtain ⟨text, n, x, split, magnitude, value, rfl⟩ := exists_numeral_of_readNumber hv
    exact ⟨text, split, .scalar (.number (.positive magnitude) value)⟩
  all_goals
    simp only [Option.some.injEq, Prod.mk.injEq] at h
    obtain ⟨rfl, rfl⟩ := h
    refine ⟨[_], rfl, ?_⟩
    constructor

/-- The digits before the point start with a digit. -/
theorem WholeText.exists_cons {whole : List Char} (h : WholeText whole) :
    ∃ d ds, whole = d :: ds ∧ d.isDigit = true := by
  cases h with
  | zero => exact ⟨'0', [], rfl, rfl⟩
  | other digits _ =>
    obtain ⟨nonempty, each⟩ := digits
    cases whole with
    | nil => exact absurd rfl nonempty
    | cons d ds => exact ⟨d, ds, rfl, each d List.mem_cons_self⟩

/-- A number starts with a digit, after its sign. -/
theorem Magnitude.exists_cons {negative : Bool} {text : List Char} {n : Numeral}
    (h : Magnitude negative text n) : ∃ d ds, text = d :: ds ∧ d.isDigit = true := by
  cases h with
  | mk isWhole _ _ =>
    obtain ⟨d, ds, rfl, digit⟩ := isWhole.exists_cons
    exact ⟨d, _, rfl, digit⟩

/-- A digit is no blank. -/
theorem isGap_of_isDigit {c : Char} (h : c.isDigit = true) : isGap c = false := by
  cases gap : isGap c with
  | false => rfl
  | true =>
    simp only [isGap, Bool.or_eq_true, beq_iff_eq] at gap
    obtain ((rfl | rfl) | rfl) | rfl := gap
    all_goals cases h

/-- A token that starts with a digit is a number without a sign. -/
theorem token?_of_isDigit {c : Char} (h : c.isDigit = true) (rest : List Char) :
    token? c rest = (readNumber false (c :: rest)).map fun p => (.scalar p.1, p.2) := by
  unfold token?
  split
  case h_12 => rfl
  all_goals cases h

/-- A number is read up to where it stops, whatever follows. -/
theorem readNumber_append {negative : Bool} {text rest : List Char} {n : Numeral} {x : Number}
    (magnitude : Magnitude negative text n) (value : n.value? = some x) (stops : Stops rest) :
    readNumber negative (text ++ rest) = some (.number x, rest) := by
  simp only [readNumber, numeral?_append magnitude stops, value, Option.bind_eq_bind,
    Option.bind_some, Option.pure_def]

/-- A scalar is read as its value, if the text does not go on with it. -/
theorem token?_scalar {c : Char} {text rest : List Char} {v : Json} (h : ScalarText (c :: text) v)
    (stops : Stops rest) : isGap c = false ∧ token? c (text ++ rest) = some (.scalar v, rest) := by
  generalize whole : c :: text = cs at h
  cases h with
  | null | true | false =>
    cases whole
    exact ⟨rfl, by simp only [token?, afterWord?_append, Option.map_some]⟩
  | string isInside =>
    cases whole
    refine ⟨rfl, ?_⟩
    rw [List.append_assoc]
    simp only [token?, List.singleton_append, readString_append isInside, Option.map_some]
  | number numeral value =>
    cases numeral with
    | negative magnitude =>
      cases whole
      exact ⟨rfl, by simp only [token?, readNumber_append magnitude value stops, Option.map_some]⟩
    | positive magnitude =>
      obtain ⟨d, ds, rfl, digit⟩ := magnitude.exists_cons
      cases whole
      refine ⟨isGap_of_isDigit digit, ?_⟩
      rw [token?_of_isDigit digit, ← List.cons_append, readNumber_append magnitude value stops,
        Option.map_some]

/-! ## Many tokens -/

/-- The text of a token is not empty. -/
theorem TokenText.ne_nil {text : List Char} {t : Token} (h : TokenText text t) : text ≠ [] := by
  cases h with
  | scalar isScalar =>
    cases isScalar with
    | number numeral _ =>
      cases numeral with
      | positive magnitude =>
        obtain ⟨d, ds, rfl, -⟩ := magnitude.exists_cons
        exact List.cons_ne_nil d ds
      | negative _ => exact List.cons_ne_nil _ _
    | _ => exact List.cons_ne_nil _ _
  | _ => exact List.cons_ne_nil _ _

/-- A token takes at least the character it starts with. -/
theorem token?_length {c : Char} {rest after : List Char} {t : Token}
    (h : token? c rest = some (t, after)) : after.length ≤ rest.length := by
  obtain ⟨text, split, isToken⟩ := exists_text_of_token? h
  have nonempty := List.length_pos_of_ne_nil isToken.ne_nil
  have lengths := congrArg List.length split
  rw [List.length_cons, List.length_append] at lengths
  omega

/-- Reading may be allowed more steps than it needs. -/
theorem tokensWithin_eq_tokens (n : Nat) (cs : List Char) (h : cs.length ≤ n) :
    tokensWithin n cs = tokens cs := by
  induction n using Nat.strongRecOn generalizing cs with
  | _ n ih =>
    -- One token may take several characters, so both counts go down by more than one.
    unfold tokens
    cases cs with
    | nil => cases n <;> rfl
    | cons c rest =>
      obtain ⟨n, rfl⟩ : ∃ m, n = m + 1 := ⟨n - 1, by simp at h; omega⟩
      have rest_le : rest.length ≤ n := Nat.le_of_succ_le_succ h
      simp only [List.length_cons, tokensWithin]
      split
      · exact ih n (Nat.lt_succ_self n) rest rest_le
      · cases ht : token? c rest with
        | none => rfl
        | some found =>
          obtain ⟨t, after⟩ := found
          have after_le := token?_length ht
          have enough := ih n (Nat.lt_succ_self n) after (by omega)
          have fits := ih rest.length (by simp at h; omega) after after_le
          simp only [enough, fits]

/-- A blank in front does not change the tokens. -/
theorem tokens_gap {c : Char} (h : isGap c = true) (rest : List Char) :
    tokens (c :: rest) = tokens rest := by
  simp [tokens, tokensWithin, h]

/-- The first token stands before those of the text after it. -/
theorem tokens_token {c : Char} {rest after : List Char} {t : Token} (hc : isGap c = false)
    (ht : token? c rest = some (t, after)) :
    tokens (c :: rest) = (tokens after).map (t :: ·) := by
  have enough := tokensWithin_eq_tokens rest.length after (token?_length ht)
  simp only [tokens, List.length_cons, tokensWithin, hc, Bool.false_eq_true, if_false, ht, enough]

/-- A text that starts with no token has no tokens. -/
theorem tokens_none {c : Char} {rest : List Char} (hc : isGap c = false)
    (ht : token? c rest = none) : tokens (c :: rest) = none := by
  simp only [tokens, List.length_cons, tokensWithin, hc, Bool.false_eq_true, if_false, ht]

end WeatherTables.Json
