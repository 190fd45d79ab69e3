import WeatherTables.Proofs.Decimal.Alphabet

/-!
# The form of a number

What a text that is read as a number looks like, said without a reader: a decimal numeral (`IsNumeral`)
has a sign or none, digits with at most one point, and an exponent or none. `isReal_iff` says that exactly
the decimal numerals are read as real numbers, and three words besides, each with a sign or without. A
numeral is never one of these words (`IsNumeral.not_isNumberWord`), and what is read as an integer is
always a numeral (`isNumeral_of_int64?`).
-/

set_option autoImplicit false

namespace WeatherTables.Decimal

/-- A sign, or nothing. -/
def IsSign (cs : List Char) : Prop :=
  cs = [] ∨ cs = ['+'] ∨ cs = ['-']

/-- Nothing but digits, perhaps none at all. -/
def OnlyDigits (cs : List Char) : Prop :=
  ∀ c ∈ cs, c.isDigit = true

/-- One digit or more, with at most one point before, between or after them. -/
inductive IsSignificand : List Char → Prop where
  | whole {ds : List Char} (digits : OnlyDigits ds) (some : ds ≠ []) : IsSignificand ds
  | pointed {before after : List Char} (digitsBefore : OnlyDigits before)
    (digitsAfter : OnlyDigits after) (some : before ≠ [] ∨ after ≠ []) :
    IsSignificand (before ++ '.' :: after)

/-- Nothing, or `e` or `E`, a sign or none, and one digit or more. -/
inductive IsExponent : List Char → Prop where
  | absent : IsExponent []
  | written {letter : Char} {sign ds : List Char} (isLetter : letter = 'e' ∨ letter = 'E')
    (isSign : IsSign sign) (digits : OnlyDigits ds) (some : ds ≠ []) :
    IsExponent (letter :: (sign ++ ds))

/-- A decimal numeral. -/
inductive IsNumeral : List Char → Prop where
  | mk {sign significand exponent : List Char} (isSign : IsSign sign)
    (isSignificand : IsSignificand significand) (isExponent : IsExponent exponent) :
    IsNumeral (sign ++ (significand ++ exponent))

/-- One of the words that are read as numbers, in letters of any case, with a sign or without. -/
inductive IsNumberWord : List Char → Prop where
  | mk {sign word : List Char} (isSign : IsSign sign)
    (isWord : word.map Char.toLower ∈ numberWords) : IsNumberWord (sign ++ word)

/-! ## Signs -/

/-- Every text is a sign, or none, and what is left without it. -/
theorem exists_sign (cs : List Char) : ∃ sign, IsSign sign ∧ cs = sign ++ dropSign cs := by
  unfold dropSign
  split
  · exact ⟨['+'], .inr (.inl rfl), rfl⟩
  · exact ⟨['-'], .inr (.inr rfl), rfl⟩
  · exact ⟨[], .inl rfl, rfl⟩

/-- A text that starts with no sign is left as it is. -/
theorem dropSign_cons {c : Char} (plus : c ≠ '+') (minus : c ≠ '-') (cs : List Char) :
    dropSign (c :: cs) = c :: cs := by
  unfold dropSign
  split
  · next same => exact absurd (List.cons.inj same).1 plus
  · next same => exact absurd (List.cons.inj same).1 minus
  · rfl

/-- A sign is dropped from in front of a text that has none itself. -/
theorem dropSign_append {sign rest : List Char} (h : IsSign sign) (bare : dropSign rest = rest) :
    dropSign (sign ++ rest) = rest := by
  rcases h with rfl | rfl | rfl
  · exact bare
  · rfl
  · rfl

/-- Neither a sign nor a point nor a letter is a digit. -/
theorem ne_of_isDigit {c d : Char} (h : c.isDigit = true) (other : d.isDigit = false) : c ≠ d := by
  rintro rfl
  rw [h] at other
  cases other

/-- Digits are left as they are. -/
theorem dropSign_of_onlyDigits {ds : List Char} (h : OnlyDigits ds) : dropSign ds = ds := by
  cases ds with
  | nil => rfl
  | cons d ds =>
    have digit := h d List.mem_cons_self
    exact dropSign_cons (ne_of_isDigit digit (by decide)) (ne_of_isDigit digit (by decide)) ds

/-- A natural number is written in digits only. -/
theorem onlyDigits_toDigits (n : Nat) : OnlyDigits (Nat.toDigits 10 n) :=
  fun _ hc => Nat.isDigit_of_mem_toDigits (by omega) (by omega) hc

/-- The digits of a number denote that number. -/
theorem natural?_toDigits (n : Nat) : natural? (Nat.toDigits 10 n) = some n := by
  have digits : (Nat.toDigits 10 n).all Char.isDigit = true :=
    List.all_eq_true.2 (onlyDigits_toDigits n)
  have nonempty : (Nat.toDigits 10 n).isEmpty = false := by
    simp [Nat.toDigits_ne_nil]
  simp only [natural?, digits, nonempty, Nat.ofDigitChars_ten_toDigits]
  rfl

/-! ## The parts of a numeral -/

/-- The test for an exponent part finds just the exponents. -/
theorem isExponentPart_iff (cs : List Char) : isExponentPart cs = true ↔ IsExponent cs := by
  constructor
  · intro h
    cases cs with
    | nil => exact .absent
    | cons letter rest =>
      simp only [isExponentPart, Bool.and_eq_true, Bool.or_eq_true, beq_iff_eq, List.all_eq_true,
        Bool.not_eq_true', List.isEmpty_eq_false_iff] at h
      obtain ⟨⟨isLetter, some⟩, digits⟩ := h
      obtain ⟨sign, isSign, same⟩ := exists_sign rest
      rw [same]
      exact .written isLetter isSign digits some
  · intro h
    cases h with
    | absent => rfl
    | written isLetter isSign digits some =>
      have rest := dropSign_append isSign (dropSign_of_onlyDigits digits)
      simp only [isExponentPart, rest, Bool.and_eq_true, Bool.or_eq_true, beq_iff_eq,
        List.all_eq_true, Bool.not_eq_true', List.isEmpty_eq_false_iff]
      exact ⟨⟨isLetter, some⟩, digits⟩

/-- The digits in front are found, if something else follows. -/
theorem takeWhile_digits {ds rest : List Char} (digits : OnlyDigits ds)
    (stops : rest.takeWhile Char.isDigit = []) : (ds ++ rest).takeWhile Char.isDigit = ds := by
  rw [List.takeWhile_append_of_pos digits, stops, List.append_nil]

/-- Without the digits in front, what follows them is left. -/
theorem dropWhile_digits {ds rest : List Char} (digits : OnlyDigits ds)
    (stops : rest.takeWhile Char.isDigit = []) : (ds ++ rest).dropWhile Char.isDigit = rest := by
  rw [List.dropWhile_append_of_pos digits]
  have both := List.takeWhile_append_dropWhile (p := Char.isDigit) (l := rest)
  rw [stops, List.nil_append] at both
  exact both

/-- The digits in front of a text are digits only. -/
theorem onlyDigits_takeWhile (cs : List Char) : OnlyDigits (cs.takeWhile Char.isDigit) :=
  fun _ hc => List.mem_takeWhile_imp hc

/-- An exponent starts with a letter, if there is one. -/
theorem IsExponent.stops {cs : List Char} (h : IsExponent cs) :
    cs.takeWhile Char.isDigit = [] ∧ ∀ rest, cs ≠ '.' :: rest := by
  cases h with
  | absent => exact ⟨rfl, nofun⟩
  | written isLetter =>
    rcases isLetter with rfl | rfl
    · exact ⟨rfl, by simp⟩
    · exact ⟨rfl, by simp⟩

/-- The test for a decimal finds just the significands that are followed by an exponent. -/
theorem isUnsignedDecimal_iff (cs : List Char) :
    isUnsignedDecimal cs = true ↔
      ∃ significand exponent, IsSignificand significand ∧ IsExponent exponent ∧
        cs = significand ++ exponent := by
  constructor
  · intro h
    have whole := List.takeWhile_append_dropWhile (p := Char.isDigit) (l := cs)
    unfold isUnsignedDecimal at h
    split at h
    · next rest point =>
      simp only [Bool.and_eq_true, Bool.or_eq_true, Bool.not_eq_true', List.isEmpty_eq_false_iff,
        isExponentPart_iff] at h
      obtain ⟨some, isExponent⟩ := h
      have fraction := List.takeWhile_append_dropWhile (p := Char.isDigit) (l := rest)
      refine ⟨_, _, .pointed (onlyDigits_takeWhile cs) (onlyDigits_takeWhile rest) some, isExponent, ?_⟩
      rw [List.append_assoc, List.cons_append, fraction, ← point, whole]
    · simp only [Bool.and_eq_true, Bool.not_eq_true', List.isEmpty_eq_false_iff,
        isExponentPart_iff] at h
      exact ⟨_, _, .whole (onlyDigits_takeWhile cs) h.1, h.2, whole.symm⟩
  · rintro ⟨significand, exponent, isSignificand, isExponent, rfl⟩
    -- An exponent starts with a letter, so digits end before it and it brings no point.
    obtain ⟨stops, noPoint⟩ := isExponent.stops
    cases isSignificand with
    | whole digits some =>
      unfold isUnsignedDecimal
      rw [takeWhile_digits digits stops, dropWhile_digits digits stops]
      split
      · exact absurd rfl (noPoint _)
      · simp only [Bool.and_eq_true, Bool.not_eq_true', List.isEmpty_eq_false_iff]
        exact ⟨some, (isExponentPart_iff exponent).2 isExponent⟩
    | @pointed before after digitsBefore digitsAfter some =>
      have atPoint : ('.' :: (after ++ exponent)).takeWhile Char.isDigit = [] := rfl
      unfold isUnsignedDecimal
      rw [List.append_assoc, List.cons_append, takeWhile_digits digitsBefore atPoint,
        dropWhile_digits digitsBefore atPoint]
      simp only [takeWhile_digits digitsAfter stops, dropWhile_digits digitsAfter stops,
        Bool.and_eq_true, Bool.or_eq_true, Bool.not_eq_true', List.isEmpty_eq_false_iff]
      exact ⟨some, (isExponentPart_iff exponent).2 isExponent⟩

/-- A numeral begins with a digit or a point after its sign. -/
theorem IsSignificand.exists_cons {cs : List Char} (h : IsSignificand cs) :
    ∃ c rest, cs = c :: rest ∧ (c.isDigit = true ∨ c = '.') := by
  cases h with
  | whole digits some =>
    obtain ⟨d, ds, rfl⟩ := List.exists_cons_of_ne_nil some
    exact ⟨d, ds, rfl, .inl (digits d List.mem_cons_self)⟩
  | @pointed before after digitsBefore =>
    cases before with
    | nil => exact ⟨'.', after, rfl, .inr rfl⟩
    | cons d ds => exact ⟨d, _, rfl, .inl (digitsBefore d List.mem_cons_self)⟩

/-- A significand starts with no sign, whatever follows it. -/
theorem IsSignificand.dropSign_append {significand : List Char} (h : IsSignificand significand)
    (rest : List Char) : dropSign (significand ++ rest) = significand ++ rest := by
  obtain ⟨c, cs, rfl, first⟩ := h.exists_cons
  apply dropSign_cons
  · rcases first with digit | rfl
    · exact ne_of_isDigit digit (by decide)
    · decide
  · rcases first with digit | rfl
    · exact ne_of_isDigit digit (by decide)
    · decide

/-- The first letter of a word is one of two, in either case. -/
theorem exists_cons_of_word {word : List Char} (h : word.map Char.toLower ∈ numberWords) :
    ∃ c rest, word = c :: rest ∧ (c.toLower = 'i' ∨ c.toLower = 'n') := by
  cases word with
  | nil => exact absurd h (by decide)
  | cons c rest =>
    refine ⟨c, rest, rfl, ?_⟩
    simp only [List.map_cons, numberWords, List.mem_cons, List.cons.injEq, List.not_mem_nil,
      or_false] at h
    rcases h with h | h | h
    · exact .inl h.1
    · exact .inl h.1
    · exact .inr h.1

/-- The words for numbers start with no sign. -/
theorem dropSign_word {word : List Char} (h : word.map Char.toLower ∈ numberWords) :
    dropSign word = word := by
  obtain ⟨c, rest, rfl, first⟩ := exists_cons_of_word h
  apply dropSign_cons
  · rintro rfl
    revert first
    decide
  · rintro rfl
    revert first
    decide

/-! ## Numbers -/

/-- A text is a numeral just when it is a decimal without its sign. -/
theorem isNumeral_iff (cs : List Char) :
    IsNumeral cs ↔ isUnsignedDecimal (dropSign cs) = true := by
  constructor
  · intro h
    cases h with
    | @mk sign significand exponent isSign isSignificand isExponent =>
      rw [dropSign_append isSign (isSignificand.dropSign_append exponent), isUnsignedDecimal_iff]
      exact ⟨significand, exponent, isSignificand, isExponent, rfl⟩
  · intro h
    obtain ⟨sign, isSign, same⟩ := exists_sign cs
    obtain ⟨significand, exponent, isSignificand, isExponent, body⟩ := (isUnsignedDecimal_iff _).1 h
    rw [same, body]
    exact .mk isSign isSignificand isExponent

/-- A text is a word for a number just when it is one in small letters and without its sign. -/
theorem isNumberWord_iff (cs : List Char) :
    IsNumberWord cs ↔ (dropSign cs).map Char.toLower ∈ numberWords := by
  constructor
  · intro h
    cases h with
    | mk isSign isWord => rwa [dropSign_append isSign (dropSign_word isWord)]
  · intro h
    obtain ⟨sign, isSign, same⟩ := exists_sign cs
    rw [same]
    exact .mk isSign h

/-- Real numbers are read from decimal numerals and from three words. -/
theorem isReal_iff (cs : List Char) : isReal cs = true ↔ IsNumeral cs ∨ IsNumberWord cs := by
  rw [isNumeral_iff, isNumberWord_iff, isReal, Bool.or_eq_true, List.contains_iff_mem, or_comm]

/-- Nothing but a sign and digits stands in an integer. -/
theorem onlyDigits_of_int64? {cs : List Char} {i : Int} (h : int64? cs = some i) :
    dropSign cs ≠ [] ∧ OnlyDigits (dropSign cs) := by
  obtain ⟨n, read⟩ := natural?_of_integer? (Option.filter_eq_some_iff.1 h).1
  exact digits_of_natural? read

/-- An integer is written as a numeral without a point and without an exponent. -/
theorem isNumeral_of_int64? {cs : List Char} (h : (int64? cs).isSome = true) : IsNumeral cs := by
  obtain ⟨i, read⟩ := Option.isSome_iff_exists.1 h
  obtain ⟨some, digits⟩ := onlyDigits_of_int64? read
  rw [isNumeral_iff, isUnsignedDecimal_iff]
  exact ⟨_, [], .whole digits some, .absent, (List.append_nil _).symm⟩

/-- A numeral is never one of the words. -/
theorem IsNumeral.not_isNumberWord {cs : List Char} (h : IsNumeral cs) : ¬ IsNumberWord cs := by
  rw [isNumberWord_iff]
  intro isWord
  obtain ⟨significand, exponent, isSignificand, -, body⟩ :=
    (isUnsignedDecimal_iff _).1 ((isNumeral_iff cs).1 h)
  obtain ⟨c, rest, rfl, first⟩ := isSignificand.exists_cons
  obtain ⟨d, word, isCons, letter⟩ := exists_cons_of_word isWord
  rw [isCons, List.cons_append] at body
  obtain ⟨rfl, -⟩ := List.cons.inj body
  rcases first with digit | rfl
  · have small : d.toLower = d := by
      apply dif_neg
      have bounds := Char.isDigit_iff_toNat.1 digit
      have high : d.toNat ≤ 57 := bounds.2
      rintro ⟨upper, -⟩
      have : 65 ≤ d.toNat := upper
      omega
    rw [small] at letter
    rcases letter with rfl | rfl
    · revert digit
      decide
    · revert digit
      decide
  · revert letter
    decide

end WeatherTables.Decimal
