import WeatherTables.Proofs.Json.Grammar
import Mathlib.Data.List.Forall2

/-!
# Strings and numbers are read by their grammar

The two readers below the tokens against the grammar. A string is read in two steps, and so is the
proof: `PieceText` is the text of one piece, `pieces_append` and `exists_texts_of_pieces` say that the
first step finds the pieces, and `stringInside_of_assemble` that the second joins them as the grammar
does. A number is read part by part, and each part is found where its grammar says, as long as what
follows does not go on with it (`Stops`).
-/

set_option autoImplicit false

namespace WeatherTables.Json

/-! ## Strings -/

/-- The text of one piece of a string. -/
inductive PieceText : List Char → Piece → Prop where
  | plain {c : Char} (quote : c ≠ '"') (backslash : c ≠ '\\') (printable : 0x20 ≤ c.toNat) :
    PieceText [c] (.char c)
  | escape {e c : Char} (letter : escape? e = some c) : PieceText ['\\', e] (.char c)
  | unit {a b c d : Char} {value : Nat} (hex : hexUnit? a b c d = some value) :
    PieceText ['\\', 'u', a, b, c, d] (.unit value)

/-- A half of a character is always escaped, by four hexadecimal digits. -/
theorem PieceText.exists_of_unit {text : List Char} {value : Nat} (h : PieceText text (.unit value)) :
    ∃ a b c d, text = ['\\', 'u', a, b, c, d] ∧ hexUnit? a b c d = some value := by
  cases h with
  | unit hex => exact ⟨_, _, _, _, rfl, hex⟩

/-- The text of a piece is read as that piece. -/
theorem pieces_append {text : List Char} {p : Piece} (h : PieceText text p) (rest : List Char) :
    pieces (text ++ rest) = (pieces rest).map fun q => (p :: q.1, q.2) := by
  cases h with
  | @plain c quote backslash printable =>
    show pieces (c :: rest) = _
    rw [pieces]
    · simp only [Nat.not_lt.2 printable, if_false]
      cases pieces rest <;> rfl
    · exact quote
    · intro _ _ _ _ _ h
      exact absurd h backslash
    · intro _ _ h
      exact absurd h backslash
  | @escape e c letter =>
    have hu : e ≠ 'u' := by
      rintro rfl
      simp [escape?] at letter
    show pieces ('\\' :: e :: rest) = _
    rw [pieces]
    · simp only [letter]
      cases pieces rest <;> rfl
    · intro _ _ _ _ _ h
      exact absurd h hu
  | @unit a b c d value hex =>
    show pieces ('\\' :: 'u' :: a :: b :: c :: d :: rest) = _
    rw [pieces]
    simp only [hex]
    cases pieces rest <;> rfl

/-- Pieces that were read stand in the text one after the other, before the closing quote. -/
theorem exists_texts_of_pieces {cs rest : List Char} {ps : List Piece}
    (h : pieces cs = some (ps, rest)) :
    ∃ texts, List.Forall₂ PieceText texts ps ∧ cs = texts.flatten ++ '"' :: rest := by
  fun_induction pieces cs generalizing ps rest with
  | case1 => simp at h
  | case2 after =>
    simp only [Option.some.injEq, Prod.mk.injEq] at h
    obtain ⟨rfl, rfl⟩ := h
    exact ⟨[], .nil, rfl⟩
  | case3 a b c d cs ih =>
    simp only [Option.bind_eq_bind, Option.bind_eq_some_iff] at h
    obtain ⟨value, hex, ⟨more, after⟩, hmore, h⟩ := h
    simp only [Option.pure_def, Option.some.injEq, Prod.mk.injEq] at h
    obtain ⟨rfl, rfl⟩ := h
    obtain ⟨texts, each, rfl⟩ := ih hmore
    exact ⟨_ :: texts, .cons (.unit hex) each, rfl⟩
  | case4 e cs _ ih =>
    simp only [Option.bind_eq_bind, Option.bind_eq_some_iff] at h
    obtain ⟨c, letter, ⟨more, after⟩, hmore, h⟩ := h
    simp only [Option.pure_def, Option.some.injEq, Prod.mk.injEq] at h
    obtain ⟨rfl, rfl⟩ := h
    obtain ⟨texts, each, rfl⟩ := ih hmore
    exact ⟨_ :: texts, .cons (.escape letter) each, rfl⟩
  | case5 => simp at h
  | case6 c cs quote _ escape control ih =>
    simp only [Option.bind_eq_bind, Option.bind_eq_some_iff] at h
    obtain ⟨⟨more, after⟩, hmore, h⟩ := h
    simp only [Option.pure_def, Option.some.injEq, Prod.mk.injEq] at h
    obtain ⟨rfl, rfl⟩ := h
    obtain ⟨texts, each, rfl⟩ := ih hmore
    have backslash : c ≠ '\\' := by
      rintro rfl
      -- Something follows the backslash, the closing quote if nothing else.
      cases follows : texts.flatten ++ '"' :: after with
      | nil => simp at follows
      | cons e cs => exact escape e cs rfl follows
    exact ⟨[c] :: texts, .cons (.plain quote backslash (Nat.not_lt.1 control)) each, rfl⟩

/-- What is no half of a character stands for itself. -/
theorem assemble_unit {n : Nat} (high : isHighUnit n = false) (low : isLowUnit n = false)
    (ps : List Piece) : assemble (.unit n :: ps) = (assemble ps).map (Char.ofNat n :: ·) := by
  rw [assemble.eq_def]
  split
  · next h => cases h
  · next h => cases h
  · next h =>
    cases h
    simp only [high, low, Bool.false_eq_true, if_false]
  · next h =>
    cases h
    simp only [high, low, Bool.or_self, Bool.false_eq_true, if_false]

/-- The texts of pieces that make up a string are the inside of that string. -/
theorem stringInside_of_assemble {texts : List (List Char)} {ps : List Piece} {chars : List Char}
    (each : List.Forall₂ PieceText texts ps) (h : assemble ps = some chars) :
    StringInside texts.flatten chars := by
  fun_induction assemble ps generalizing texts chars with
  | case1 =>
    cases each
    cases h
    exact .nil
  | case2 c ps ih =>
    obtain ⟨more, hmore, rfl⟩ := Option.map_eq_some_iff.1 h
    cases each with
    | cons first each =>
      cases first with
      | plain quote backslash printable => exact .plain quote backslash printable (ih each hmore)
      | escape letter => exact .escape letter (ih each hmore)
  | case3 high low ps isHigh isLow ih =>
    obtain ⟨more, hmore, rfl⟩ := Option.map_eq_some_iff.1 h
    rcases each with _ | ⟨first, _ | ⟨second, each⟩⟩
    obtain ⟨_, _, _, _, rfl, hexHigh⟩ := first.exists_of_unit
    obtain ⟨_, _, _, _, rfl, hexLow⟩ := second.exists_of_unit
    exact .pair hexHigh hexLow isHigh isLow (ih each hmore)
  | case4 => cases h
  | case5 => cases h
  | case6 high low ps notHigh notLow ih =>
    obtain ⟨more, hmore, rfl⟩ := Option.map_eq_some_iff.1 h
    rcases each with _ | ⟨first, each⟩
    obtain ⟨_, _, _, _, rfl, hex⟩ := first.exists_of_unit
    exact .unit hex (Bool.eq_false_iff.2 notHigh) (Bool.eq_false_iff.2 notLow) (ih each hmore)
  | case7 => cases h
  | case8 value ps _ notHalf ih =>
    obtain ⟨more, hmore, rfl⟩ := Option.map_eq_some_iff.1 h
    rcases each with _ | ⟨first, each⟩
    obtain ⟨_, _, _, _, rfl, hex⟩ := first.exists_of_unit
    obtain ⟨notHigh, notLow⟩ := Bool.or_eq_false_iff.1 (Bool.eq_false_iff.2 notHalf)
    exact .unit hex notHigh notLow (ih each hmore)

/-- Texts of pieces one after the other are read as those pieces. -/
theorem pieces_flatten {texts : List (List Char)} {ps : List Piece}
    (each : List.Forall₂ PieceText texts ps) (rest : List Char) :
    pieces (texts.flatten ++ '"' :: rest) = some (ps, rest) := by
  induction each with
  | nil => simp [pieces]
  | cons first _ ih =>
    rw [List.flatten_cons, List.append_assoc, pieces_append first, ih]
    rfl

/-- The inside of a string is made of the texts of pieces that make it up. -/
theorem exists_assemble_of_stringInside {inside chars : List Char} (h : StringInside inside chars) :
    ∃ texts ps, List.Forall₂ PieceText texts ps ∧ inside = texts.flatten ∧
      assemble ps = some chars := by
  induction h with
  | nil => exact ⟨[], [], .nil, rfl, rfl⟩
  | plain quote backslash printable _ ih =>
    obtain ⟨texts, ps, each, rfl, assembled⟩ := ih
    refine ⟨_ :: texts, _ :: ps, .cons (.plain quote backslash printable) each, rfl, ?_⟩
    rw [assemble, assembled, Option.map_some]
  | escape letter _ ih =>
    obtain ⟨texts, ps, each, rfl, assembled⟩ := ih
    refine ⟨_ :: texts, _ :: ps, .cons (.escape letter) each, rfl, ?_⟩
    rw [assemble, assembled, Option.map_some]
  | unit hex notHigh notLow _ ih =>
    obtain ⟨texts, ps, each, rfl, assembled⟩ := ih
    refine ⟨_ :: texts, _ :: ps, .cons (.unit hex) each, rfl, ?_⟩
    rw [assemble_unit notHigh notLow, assembled, Option.map_some]
  | pair hexHigh hexLow isHigh isLow _ ih =>
    obtain ⟨texts, ps, each, rfl, assembled⟩ := ih
    refine ⟨_ :: _ :: texts, _ :: _ :: ps, .cons (.unit hexHigh) (.cons (.unit hexLow) each), rfl, ?_⟩
    simp only [assemble, isHigh, isLow, if_true, assembled, Option.map_some]

/-- The inside of a string is read as what it stands for, up to the closing quote. -/
theorem readString_append {inside chars : List Char} (h : StringInside inside chars)
    (rest : List Char) : readString (inside ++ '"' :: rest) = some (String.ofList chars, rest) := by
  obtain ⟨texts, ps, each, rfl, assembled⟩ := exists_assemble_of_stringInside h
  simp only [readString, pieces_flatten each, Option.bind_eq_bind, Option.bind_some, assembled,
    Option.pure_def]

/-- What is read as a string is the inside of one. -/
theorem exists_inside_of_readString {cs rest : List Char} {s : String}
    (h : readString cs = some (s, rest)) :
    ∃ inside chars, cs = inside ++ '"' :: rest ∧ StringInside inside chars ∧
      s = String.ofList chars := by
  simp only [readString, Option.bind_eq_bind, Option.bind_eq_some_iff] at h
  obtain ⟨⟨ps, after⟩, hps, chars, assembled, h⟩ := h
  simp only [Option.pure_def, Option.some.injEq, Prod.mk.injEq] at h
  obtain ⟨rfl, rfl⟩ := h
  obtain ⟨texts, each, rfl⟩ := exists_texts_of_pieces hps
  exact ⟨texts.flatten, chars, rfl, stringInside_of_assemble each assembled, rfl⟩

/-! ## Numbers -/

/-- What follows a number does not go on with it. -/
def Stops (rest : List Char) : Prop :=
  ∀ c ∈ rest.head?, c.isDigit = false ∧ c ≠ '.' ∧ c ≠ 'e' ∧ c ≠ 'E'

/-- Digits start with a digit. -/
theorem IsDigits.append_ne {ds : List Char} (h : IsDigits ds) {c : Char} (hc : c.isDigit = false)
    (rest after : List Char) : ds ++ rest ≠ c :: after := by
  obtain ⟨nonempty, each⟩ := h
  cases ds with
  | nil => exact absurd rfl nonempty
  | cons d ds =>
    intro split
    have first := each d List.mem_cons_self
    rw [(List.cons.inj split).1, hc] at first
    cases first

/-- Digits are read up to a character that is none. -/
theorem digits?_append {ds rest : List Char} (h : IsDigits ds)
    (stops : ∀ c ∈ rest.head?, c.isDigit = false) : digits? (ds ++ rest) = some (ds, rest) := by
  obtain ⟨nonempty, each⟩ := h
  have taken : rest.takeWhile Char.isDigit = [] := by
    cases rest with
    | nil => rfl
    | cons c rest => simp [stops c (by simp)]
  have dropped : rest.dropWhile Char.isDigit = rest := by
    have split := List.takeWhile_append_dropWhile (p := Char.isDigit) (l := rest)
    rwa [taken] at split
  unfold digits?
  rw [List.takeWhile_append_of_pos each, taken, List.append_nil, List.dropWhile_append_of_pos each,
    dropped]
  cases ds with
  | nil => exact absurd rfl nonempty
  | cons d ds => rfl

/-- What was read as digits stands in front of what is left. -/
theorem eq_append_of_digits? {cs ds rest : List Char} (h : digits? cs = some (ds, rest)) :
    cs = ds ++ rest ∧ IsDigits ds := by
  unfold digits? at h
  split at h
  · cases h
  · next nonempty =>
    simp only [Option.some.injEq, Prod.mk.injEq] at h
    obtain ⟨rfl, rfl⟩ := h
    refine ⟨List.takeWhile_append_dropWhile.symm, nonempty, fun c hc => ?_⟩
    exact List.all_eq_true.1 List.all_takeWhile c hc

/-- The digits before the point are read up to a character that is no digit. -/
theorem wholePart?_append {whole rest : List Char} (h : WholeText whole)
    (stops : ∀ c ∈ rest.head?, c.isDigit = false) :
    wholePart? (whole ++ rest) = some (whole, rest) := by
  cases h with
  | zero => rfl
  | other digits first =>
    rw [wholePart?, digits?_append digits stops]
    intro after split
    cases whole with
    | nil => exact digits.1 rfl
    | cons d ds => exact first ds (congrArg (· :: ds) (List.cons.inj split).1)

/-- What was read as digits before the point stands in front of what is left. -/
theorem eq_append_of_wholePart? {cs whole rest : List Char}
    (h : wholePart? cs = some (whole, rest)) : cs = whole ++ rest ∧ WholeText whole := by
  unfold wholePart? at h
  split at h
  · simp only [Option.some.injEq, Prod.mk.injEq] at h
    obtain ⟨rfl, rfl⟩ := h
    exact ⟨rfl, .zero⟩
  · next notZero =>
    obtain ⟨rfl, digits⟩ := eq_append_of_digits? h
    refine ⟨rfl, .other digits fun ds => ?_⟩
    rintro rfl
    exact notZero (ds ++ rest) rfl

/-- A fraction does not go on with the digits before it. -/
theorem FractionText.stops {text rest : List Char} {digits : Option (List Char)}
    (h : FractionText text digits) (stops : ∀ c ∈ rest.head?, c.isDigit = false) :
    ∀ c ∈ (text ++ rest).head?, c.isDigit = false := by
  cases h with
  | absent => exact stops
  | digits _ =>
    rintro c ⟨⟩
    rfl

/-- A fraction, or its absence, is read up to a character that does not go on with it. -/
theorem fractionPart?_append {text rest : List Char} {digits : Option (List Char)}
    (h : FractionText text digits) (stops : ∀ c ∈ rest.head?, c.isDigit = false ∧ c ≠ '.') :
    fractionPart? (text ++ rest) = some (digits, rest) := by
  cases h with
  | absent =>
    rw [List.nil_append, fractionPart?]
    rintro after rfl
    exact (stops '.' rfl).2 rfl
  | digits digits =>
    simp only [List.cons_append, fractionPart?, digits?_append digits fun c hc => (stops c hc).1]
    rfl

/-- The text of the fraction that was read stands in front of what is left. -/
theorem eq_append_of_fractionPart? {cs rest : List Char} {digits : Option (List Char)}
    (h : fractionPart? cs = some (digits, rest)) :
    ∃ text, cs = text ++ rest ∧ FractionText text digits := by
  unfold fractionPart? at h
  split at h
  · obtain ⟨⟨ds, after⟩, hds, h⟩ := Option.map_eq_some_iff.1 h
    simp only [Prod.mk.injEq] at h
    obtain ⟨rfl, rfl⟩ := h
    obtain ⟨rfl, digits⟩ := eq_append_of_digits? hds
    exact ⟨'.' :: ds, rfl, .digits digits⟩
  · simp only [Option.some.injEq, Prod.mk.injEq] at h
    obtain ⟨rfl, rfl⟩ := h
    exact ⟨[], rfl, .absent⟩

/-- An exponent does not go on with the digits before it. -/
theorem ExponentText.stops {text rest : List Char} {digits : Option (Bool × List Char)}
    (h : ExponentText text digits) (stops : Stops rest) :
    ∀ c ∈ (text ++ rest).head?, c.isDigit = false ∧ c ≠ '.' := by
  cases h with
  | absent => exact fun c hc => ⟨(stops c hc).1, (stops c hc).2.1⟩
  | unsigned letter _ | plus letter _ | minus letter _ =>
    rintro c ⟨⟩
    rcases letter with rfl | rfl
    · exact ⟨rfl, by decide⟩
    · exact ⟨rfl, by decide⟩

/-- An exponent, or its absence, is read up to where the number stops. -/
theorem exponentPart?_append {text rest : List Char} {digits : Option (Bool × List Char)}
    (h : ExponentText text digits) (stops : Stops rest) :
    exponentPart? (text ++ rest) = some (digits, rest) := by
  have notDigit : ∀ c ∈ rest.head?, c.isDigit = false := fun c hc => (stops c hc).1
  cases h with
  | absent =>
    cases rest with
    | nil => rfl
    | cons c rest =>
      have letter := (stops c rfl).2.2
      simp [exponentPart?, letter]
  | unsigned letter digits =>
    simp only [List.cons_append, exponentPart?, if_pos letter]
    rw [exponentDigits?, digits?_append digits notDigit]
    · rfl
    · exact fun after split => digits.append_ne rfl rest after split
    · exact fun after split => digits.append_ne rfl rest after split
  | plus letter digits =>
    simp only [List.cons_append, exponentPart?, if_pos letter, exponentDigits?,
      digits?_append digits notDigit]
    rfl
  | minus letter digits =>
    simp only [List.cons_append, exponentPart?, if_pos letter, exponentDigits?,
      digits?_append digits notDigit]
    rfl

/-- The text of the exponent that was read stands in front of what is left. -/
theorem eq_append_of_exponentPart? {cs rest : List Char} {digits : Option (Bool × List Char)}
    (h : exponentPart? cs = some (digits, rest)) :
    ∃ text, cs = text ++ rest ∧ ExponentText text digits := by
  unfold exponentPart? at h
  split at h
  · next e cs =>
    split at h
    · next letter =>
      obtain ⟨⟨found, after⟩, hfound, h⟩ := Option.map_eq_some_iff.1 h
      simp only [Prod.mk.injEq] at h
      obtain ⟨rfl, rfl⟩ := h
      unfold exponentDigits? at hfound
      split at hfound
      all_goals
        obtain ⟨⟨ds, after'⟩, hds, hfound⟩ := Option.map_eq_some_iff.1 hfound
        simp only [Prod.mk.injEq] at hfound
        obtain ⟨rfl, rfl⟩ := hfound
        obtain ⟨rfl, digits⟩ := eq_append_of_digits? hds
      · exact ⟨e :: '-' :: ds, rfl, .minus letter digits⟩
      · exact ⟨e :: '+' :: ds, rfl, .plus letter digits⟩
      · exact ⟨e :: ds, rfl, .unsigned letter digits⟩
    · simp only [Option.some.injEq, Prod.mk.injEq] at h
      obtain ⟨rfl, rfl⟩ := h
      exact ⟨[], rfl, .absent⟩
  · simp only [Option.some.injEq, Prod.mk.injEq] at h
    obtain ⟨rfl, rfl⟩ := h
    exact ⟨[], rfl, .absent⟩

/-- The parts of a number are read from its text, if that ends there. -/
theorem numeral?_append {negative : Bool} {text rest : List Char} {n : Numeral}
    (h : Magnitude negative text n) (stops : Stops rest) :
    numeral? negative (text ++ rest) = some (n, rest) := by
  cases h with
  | mk isWhole isFraction isExponent =>
    have afterFraction := isExponent.stops stops
    have afterWhole := isFraction.stops fun c hc => (afterFraction c hc).1
    simp only [numeral?, List.append_assoc, wholePart?_append isWhole afterWhole,
      fractionPart?_append isFraction afterFraction, exponentPart?_append isExponent stops,
      Option.bind_eq_bind, Option.bind_some, Option.pure_def]

/-- The text of the number that was read stands in front of what is left. -/
theorem eq_append_of_numeral? {negative : Bool} {cs rest : List Char} {n : Numeral}
    (h : numeral? negative cs = some (n, rest)) :
    ∃ text, cs = text ++ rest ∧ Magnitude negative text n := by
  simp only [numeral?, Option.bind_eq_bind, Option.bind_eq_some_iff, Option.pure_def,
    Option.some.injEq, Prod.mk.injEq] at h
  obtain ⟨⟨whole, cs₁⟩, hwhole, ⟨fraction, cs₂⟩, hfraction, ⟨exponent, cs₃⟩, hexponent, rfl, rfl⟩ := h
  obtain ⟨rfl, isWhole⟩ := eq_append_of_wholePart? hwhole
  obtain ⟨text, rfl, isFraction⟩ := eq_append_of_fractionPart? hfraction
  obtain ⟨text', rfl, isExponent⟩ := eq_append_of_exponentPart? hexponent
  refine ⟨whole ++ (text ++ text'), ?_, .mk isWhole isFraction isExponent⟩
  simp only [List.append_assoc]

end WeatherTables.Json
