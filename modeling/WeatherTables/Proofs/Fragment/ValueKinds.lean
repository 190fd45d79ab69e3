import WeatherTables.Proofs.Decimal.NumeralForm
import WeatherTables.Proofs.Fragment.Accepted
import WeatherTables.Proofs.Json.Records

/-!
# Words, numbers and whole numbers

What a rule does with a value depends on the kind of values that it asks for. `ValueKind.Admits` says
which texts a kind admits once the blanks around them are gone, `ValueKind.taken` what becomes of an
admitted value and `ValueKind.refusal` what is said of one that is not; `FilterRule.accept_eq_ok_iff` and
`FilterRule.accept_eq_error_iff` that a rule does just this. How the kinds fit together follows from
that: `kinds_fit_together`. Which numbers there are is said by `accepts_iff_numeral_or_word`.
-/

set_option autoImplicit false

namespace WeatherTables

open Decimal
open Text (isBlank trim trimmed trimmed_trimmed)

/-! ## One kind of value -/

namespace ValueKind

/-- The texts of the kind, without blanks around them. -/
def Admits : ValueKind → List Char → Prop
  | .words, inner => inner ≠ [] ∧ isReal inner = false
  | .number, inner => isReal inner = true
  | .wholeNumber, inner => (int64? inner).isSome = true

/-- What becomes of a value of the kind. -/
def taken : ValueKind → String → String
  | .words, value => value
  | .number, value => trim value
  | .wholeNumber, value => trim value

/-- What is said of a value that is not of the kind. -/
def refusal : ValueKind → String → String → LeafError
  | .words => .looksNumeric
  | .number => .notNumeric
  | .wholeNumber => .notWhole

/-- A number is taken without the blanks around it. -/
theorem taken_of_ne_words {kind : ValueKind} (h : kind ≠ .words) (value : String) :
    kind.taken value = trim value := by
  cases kind with
  | words => exact absurd rfl h
  | number => rfl
  | wholeNumber => rfl

/-- Without the blanks around it, a value that is taken is the value itself. -/
theorem trim_taken (kind : ValueKind) (value : String) : trim (kind.taken value) = trim value := by
  cases kind with
  | words => rfl
  | number => exact Text.trim_trim value
  | wholeNumber => exact Text.trim_trim value

/-- A value that was taken once is taken as it is. -/
theorem taken_taken (kind : ValueKind) (value : String) :
    kind.taken (kind.taken value) = kind.taken value := by
  cases kind with
  | words => rfl
  | number => exact Text.trim_trim value
  | wholeNumber => exact Text.trim_trim value

/-- Whole numbers are numbers. -/
theorem admits_number_of_wholeNumber {inner : List Char} (h : Admits .wholeNumber inner) :
    Admits .number inner :=
  (isReal_iff inner).2 (.inl (isNumeral_of_int64? h))

/-- Words are what is neither blank nor a number. -/
theorem admits_words_iff (inner : List Char) :
    Admits .words inner ↔ inner ≠ [] ∧ ¬ Admits .number inner := by
  simp only [Admits, Bool.not_eq_true]

end ValueKind

/-! ## Rules -/

namespace FilterRule

/-- A value of the kind of the column is accepted. -/
theorem accept_of_admits {rule : FilterRule} {value : String}
    (h : rule.kind.Admits (trim value).toList) : rule.accept value = .ok (rule.kind.taken value) := by
  obtain ⟨column, parameter, kind, code⟩ := rule
  rw [trim, String.toList_ofList] at h
  cases kind with
  | words =>
    have kept : ¬ ((trimmed value.toList).isEmpty || isReal (trimmed value.toList)) = true := by
      simp [h.1, h.2]
    exact if_neg kept
  | number => exact if_pos h
  | wholeNumber => exact if_pos h

/-- A value of another kind is refused, and the error says what the column takes. -/
theorem accept_of_not_admits {rule : FilterRule} {value : String}
    (h : ¬ rule.kind.Admits (trim value).toList) :
    rule.accept value = .error (rule.kind.refusal rule.column value) := by
  obtain ⟨column, parameter, kind, code⟩ := rule
  rw [trim, String.toList_ofList] at h
  cases kind with
  | words =>
    apply if_pos
    rw [Bool.or_eq_true, List.isEmpty_iff]
    by_contra neither
    rw [not_or, Bool.not_eq_true] at neither
    exact h neither
  | number => exact if_neg h
  | wholeNumber => exact if_neg h

/-- What is accepted is a value of the kind, and becomes what is taken of it. -/
theorem accept_eq_ok_iff {rule : FilterRule} {value accepted : String} :
    rule.accept value = .ok accepted ↔
      rule.kind.Admits (trim value).toList ∧ accepted = rule.kind.taken value := by
  by_cases h : rule.kind.Admits (trim value).toList
  · simp [accept_of_admits h, h, eq_comm]
  · simp [accept_of_not_admits h, h]

/-- What is refused is a value of another kind, and the error is that of the kind. -/
theorem accept_eq_error_iff {rule : FilterRule} {value : String} {e : LeafError} :
    rule.accept value = .error e ↔
      ¬ rule.kind.Admits (trim value).toList ∧ e = rule.kind.refusal rule.column value := by
  by_cases h : rule.kind.Admits (trim value).toList
  · simp [accept_of_admits h, h]
  · simp [accept_of_not_admits h, h, eq_comm]

/-- The accepted values are those of the kind. -/
theorem succeeds_accept_iff {rule : FilterRule} {value : String} :
    Succeeds (rule.accept value) ↔ rule.kind.Admits (trim value).toList := by
  simp only [Succeeds, accept_eq_ok_iff, exists_and_left, exists_eq, and_true]

/-- Only the text between the blanks decides. -/
theorem succeeds_accept_congr (rule : FilterRule) {value other : String} (same : trim value = trim other) :
    Succeeds (rule.accept value) ↔ Succeeds (rule.accept other) := by
  rw [succeeds_accept_iff, succeeds_accept_iff, same]

/-- Where numbers are filtered, values that differ only by blanks around them are accepted alike. -/
theorem accept_congr {rule : FilterRule} (numeric : rule.kind ≠ .words) {value other accepted : String}
    (same : trim value = trim other) :
    rule.accept value = .ok accepted ↔ rule.accept other = .ok accepted := by
  rw [accept_eq_ok_iff, accept_eq_ok_iff, ValueKind.taken_of_ne_words numeric,
    ValueKind.taken_of_ne_words numeric, same]

/-- What was accepted once is accepted again as it is. -/
theorem accept_accepted {rule : FilterRule} {value accepted : String}
    (h : rule.accept value = .ok accepted) : rule.accept accepted = .ok accepted := by
  obtain ⟨admits, rfl⟩ := accept_eq_ok_iff.1 h
  rw [accept_eq_ok_iff, ValueKind.trim_taken, ValueKind.taken_taken]
  exact ⟨admits, rfl⟩

end FilterRule

/-! ## What stands in a number -/

/-- Where letters and digits stand among all characters. -/
theorem Decimal.range_of_isAlphanum {c : Char} (h : c.isAlphanum = true) :
    48 ≤ c.toNat ∧ c.toNat ≤ 122 := by
  have between {least most : UInt32} (low : least ≤ c.val) (high : c.val ≤ most) :
      least.toNat ≤ c.toNat ∧ c.toNat ≤ most.toNat :=
    ⟨UInt32.le_iff_toNat_le.1 low, UInt32.le_iff_toNat_le.1 high⟩
  rcases Bool.or_eq_true_iff.1 h with letter | digit
  · rcases Bool.or_eq_true_iff.1 letter with upper | lower
    · obtain ⟨low, high⟩ := of_decide_eq_true upper
      have range : 65 ≤ c.toNat ∧ c.toNat ≤ 90 := between low high
      omega
    · obtain ⟨low, high⟩ := Bool.and_eq_true_iff.1 lower
      have range : 97 ≤ c.toNat ∧ c.toNat ≤ 122 :=
        between (of_decide_eq_true low) (of_decide_eq_true high)
      omega
  · obtain ⟨low, high⟩ := Bool.and_eq_true_iff.1 digit
    have range : 48 ≤ c.toNat ∧ c.toNat ≤ 57 := between (of_decide_eq_true low) (of_decide_eq_true high)
    omega

/-- The characters of numbers are neither blanks nor separators. -/
theorem Decimal.InNumber.plain {c : Char} (h : InNumber c) :
    isBlank c = false ∧ c ∉ ['&', '=', '#', ','] := by
  constructor
  · rcases h with letter | rfl | rfl | rfl
    · obtain ⟨low, high⟩ := range_of_isAlphanum letter
      exact Text.isBlank_of_visible (by omega) (by omega)
    · decide
    · decide
    · decide
  · intro separator
    simp only [List.mem_cons, List.not_mem_nil, or_false] at separator
    rcases separator with rfl | rfl | rfl | rfl
    all_goals exact absurd h (by decide)

/-- An accepted number is not empty and has nothing in it that would end a query parameter. -/
theorem FilterRule.plain_of_accept {rule : FilterRule} (numeric : rule.kind ≠ .words)
    {value accepted : String} (h : rule.accept value = .ok accepted) :
    accepted ≠ "" ∧ ∀ c ∈ accepted.toList,
      InNumber c ∧ isBlank c = false ∧ c ∉ ['&', '=', '#', ','] := by
  constructor
  · rintro rfl
    exact not_blank_of_accept h rfl
  · intro c hc
    have inNumber := inNumber_of_accept numeric h c hc
    exact ⟨inNumber, inNumber.plain⟩

/-! ## Refusals -/

/-- The column and the value that an error is about. -/
def LeafError.refused? : LeafError → Option (String × String)
  | .looksNumeric column value => some (column, value)
  | .notNumeric column value => some (column, value)
  | .notWhole column value => some (column, value)
  | .unknownColumn _ => none
  | .noColumnWithLiteral _ => none
  | .unknownPredicate _ => none

namespace ValueKind

/-- The code of the errors of the kind. -/
def code : ValueKind → String
  | .words => "E-VS-OWFS-2"
  | .number => "E-VS-OWFS-3"
  | .wholeNumber => "E-VS-OWFS-5"

/-- What the errors of the kind say of the column. -/
def demand : ValueKind → String
  | .words => "does not accept numbers"
  | .number => "only accepts numbers"
  | .wholeNumber => "only accepts whole numbers"

/-- A refusal has the code of the kind. -/
theorem code?_refusal (kind : ValueKind) (column value : String) :
    (kind.refusal column value).code? = some kind.code := by
  cases kind <;> rfl

/-- A refusal is about the column and the value. -/
theorem refused?_refusal (kind : ValueKind) (column value : String) :
    (kind.refusal column value).refused? = some (column, value) := by
  cases kind <;> rfl

/-- A refusal names its code, the column, what the column takes and the value found. -/
theorem message_refusal (kind : ValueKind) (column value : String) :
    (kind.refusal column value).message =
      kind.code ++ " " ++ column ++ " column filter " ++ kind.demand ++ ". Found <" ++ value ++ ">." := by
  have regroup (code between demand rest : String) :
      code ++ " " ++ column ++ between ++ demand ++ rest ++ value ++ ">." =
        (code ++ " ") ++ column ++ (between ++ demand ++ rest) ++ value ++ ">." := by
    simp only [String.append_assoc]
  rw [regroup]
  cases kind with
  | words => rfl
  | number => rfl
  | wholeNumber => rfl

end ValueKind

/-- A rule of the weather tables has the code of its kind. -/
theorem RuleTable.code_of_mem_standard : ∀ rule ∈ standard.rules, rule.code = rule.kind.code := by
  decide

/-- How the kinds of values fit together. A whole number is a number, and as a number it is the same
value; words are what is neither blank nor a number. Blanks around a value make no difference to whether
it is accepted, nor, in a number, to what is accepted. What was accepted is accepted again as it is. An
accepted number is not empty and holds letters, digits, signs and points alone. A rule of the weather
tables refuses a value with its own code, and repeats the value as it was given. -/
theorem kinds_fit_together {words number whole : FilterRule} (isWords : words.kind = .words)
    (isNumber : number.kind = .number) (isWhole : whole.kind = .wholeNumber) :
    (∀ value accepted, whole.accept value = .ok accepted → number.accept value = .ok accepted) ∧
    (∀ value, Succeeds (words.accept value) ↔
      ¬ (∀ c ∈ value.toList, isBlank c = true) ∧ ¬ Succeeds (number.accept value)) ∧
    (∀ rule : FilterRule, ∀ value other, trim value = trim other →
      (Succeeds (rule.accept value) ↔ Succeeds (rule.accept other)) ∧
      (rule.kind ≠ .words →
        ∀ accepted, rule.accept value = .ok accepted ↔ rule.accept other = .ok accepted)) ∧
    (∀ before value after, (∀ c ∈ before.toList, isBlank c = true) →
      (∀ c ∈ after.toList, isBlank c = true) → trim (before ++ value ++ after) = trim value) ∧
    (∀ rule : FilterRule, ∀ value accepted,
      rule.accept value = .ok accepted → rule.accept accepted = .ok accepted) ∧
    (∀ rule : FilterRule, rule.kind ≠ .words → ∀ value accepted,
      rule.accept value = .ok accepted → accepted ≠ "" ∧ ∀ c ∈ accepted.toList,
        InNumber c ∧ isBlank c = false ∧ c ∉ ['&', '=', '#', ',']) ∧
    (∀ rule ∈ RuleTable.standard.rules, ∀ value e, rule.accept value = .error e →
      e.code? = some rule.code ∧ e.refused? = some (rule.column, value) ∧
      e.message = rule.code ++ " " ++ rule.column ++ " column filter " ++ rule.kind.demand ++
        ". Found <" ++ value ++ ">.") := by
  refine ⟨?_, ?_, ?_, ?_, ?_, ?_, ?_⟩
  · intro value accepted h
    rw [FilterRule.accept_eq_ok_iff, isWhole] at h
    rw [FilterRule.accept_eq_ok_iff, isNumber]
    exact ⟨ValueKind.admits_number_of_wholeNumber h.1, h.2⟩
  · intro value
    rw [FilterRule.succeeds_accept_iff, FilterRule.succeeds_accept_iff, isWords, isNumber,
      ValueKind.admits_words_iff, trim, String.toList_ofList, ne_eq, Text.trimmed_eq_nil_iff]
  · intro rule value other same
    exact ⟨rule.succeeds_accept_congr same, fun numeric accepted => FilterRule.accept_congr numeric same⟩
  · intro before value after blankBefore blankAfter
    simp only [trim, String.toList_append, List.append_assoc,
      Text.trimmed_padded blankBefore blankAfter]
  · intro rule value accepted h
    exact FilterRule.accept_accepted h
  · intro rule numeric value accepted h
    exact FilterRule.plain_of_accept numeric h
  · intro rule mem value e h
    obtain ⟨-, rfl⟩ := FilterRule.accept_eq_error_iff.1 h
    rw [RuleTable.code_of_mem_standard rule mem]
    exact ⟨rule.kind.code?_refusal _ _, rule.kind.refused?_refusal _ _, rule.kind.message_refusal _ _⟩

/-- Blanks around a number with a sign and needless zeros, and a number that is just too large. -/
theorem kinds_fit_together_of_padded :
    let city : FilterRule := ⟨"CITY_NAME", "q=", .words, "E-VS-OWFS-2"⟩
    let longitude : FilterRule := ⟨"LONGITUDE", "lon=", .number, "E-VS-OWFS-3"⟩
    let code : FilterRule := ⟨"ZIP", "zip=", .wholeNumber, "E-VS-OWFS-5"⟩
    let tooLarge := "9223372036854775808"
    code.accept "\u3000+007\n" = .ok "+007" ∧ longitude.accept "\u3000+007\n" = .ok "+007" ∧
      ¬ Succeeds (city.accept "\u3000+007\n") ∧ code.accept "+007" = .ok "+007" ∧
      trim ("\u3000" ++ "+007" ++ "\n") = trim "+007" ∧ '&' ∉ "+007".toList ∧
      code ∈ RuleTable.standard.rules ∧ code.accept tooLarge = .error (.notWhole "ZIP" tooLarge) ∧
      (LeafError.notWhole "ZIP" tooLarge).code? = some "E-VS-OWFS-5" := by
  intro city longitude code tooLarge
  obtain ⟨toNumber, apart, -, padded, again, plain, refused⟩ :=
    kinds_fit_together (rfl : city.kind = .words) (rfl : longitude.kind = .number)
      (rfl : code.kind = .wholeNumber)
  have read : code.accept "\u3000+007\n" = .ok "+007" := by rfl
  have number := toNumber _ _ read
  have notWhole : ¬ (int64? (trim tooLarge).toList).isSome = true := by decide +kernel
  have refusal : code.accept tooLarge = .error (.notWhole "ZIP" tooLarge) :=
    FilterRule.accept_of_not_admits notWhole
  have mem : code ∈ RuleTable.standard.rules := by decide
  refine ⟨read, number, fun words => ((apart _).1 words).2 ⟨_, number⟩, again code _ _ read,
    padded _ _ _ (List.all_eq_true.1 rfl) (List.all_eq_true.1 rfl), ?_, mem, refusal, (refused code mem _ _ refusal).1⟩
  intro separator
  have apart := ((plain code (by decide) _ _ read).2 '&' separator).2.2
  exact apart List.mem_cons_self

/-! ## Words that are read as numbers -/

/-- Which values are accepted as words and which as numbers. A number is a decimal numeral or one of the
words `inf`, `infinity` and `nan`, in letters of any case, with a sign or without. These are no decimal
numerals, so they are the only values that are refused as words or accepted as numbers without being one. -/
theorem accepts_iff_numeral_or_word (rule : FilterRule) (value : String) :
    let inner := (trim value).toList
    (rule.kind = .words →
      (Succeeds (rule.accept value) ↔ inner ≠ [] ∧ ¬ IsNumeral inner ∧ ¬ IsNumberWord inner)) ∧
    (rule.kind = .number → (Succeeds (rule.accept value) ↔ IsNumeral inner ∨ IsNumberWord inner)) ∧
    ¬ (IsNumeral inner ∧ IsNumberWord inner) := by
  intro inner
  refine ⟨?_, ?_, fun both => both.1.not_isNumberWord both.2⟩
  · intro isWords
    rw [FilterRule.succeeds_accept_iff, isWords, ValueKind.admits_words_iff, ValueKind.Admits, isReal_iff,
      not_or]
  · intro isNumber
    rw [FilterRule.succeeds_accept_iff, isNumber, ValueKind.Admits, isReal_iff]

/-- An exponent without digits makes a word, and a number needs no digit before its point. -/
theorem accepts_iff_numeral_or_word_of_exponents :
    let city : FilterRule := ⟨"CITY_NAME", "q=", .words, "E-VS-OWFS-2"⟩
    let longitude : FilterRule := ⟨"LONGITUDE", "lon=", .number, "E-VS-OWFS-3"⟩
    city.accept " 1e" = .ok " 1e" ∧ ¬ IsNumeral (trim " 1e").toList ∧
      longitude.accept " -.5E+07" = .ok "-.5E+07" ∧ IsNumeral (trim " -.5E+07").toList := by
  intro city longitude
  have word : city.accept " 1e" = .ok " 1e" := by rfl
  have number : longitude.accept " -.5E+07" = .ok "-.5E+07" := by rfl
  have asWord := (accepts_iff_numeral_or_word city " 1e").1 rfl
  have asNumber := (accepts_iff_numeral_or_word longitude " -.5E+07").2.1 rfl
  refine ⟨word, (asWord.1 ⟨_, word⟩).2.1, number, ?_⟩
  rcases asNumber.1 ⟨_, number⟩ with numeral | isWord
  · exact numeral
  · rw [isNumberWord_iff] at isWord
    exact absurd isWord (by decide)

/-- A place name is refused as a number, and accepted as a longitude. -/
theorem name_read_as_number :
    let city : FilterRule := ⟨"CITY_NAME", "q=", .words, "E-VS-OWFS-2"⟩
    let longitude : FilterRule := ⟨"LONGITUDE", "lon=", .number, "E-VS-OWFS-3"⟩
    RuleTable.standard.find "CITY_NAME" = .ok city ∧
      RuleTable.standard.find "LONGITUDE" = .ok longitude ∧
      (trim "Nan").toList ≠ [] ∧ ¬ IsNumeral (trim "Nan").toList ∧
      city.accept "Nan" = .error (.looksNumeric "CITY_NAME" "Nan") ∧
      longitude.accept "Nan" = .ok "Nan" := by
  intro city longitude
  have isWord : IsNumberWord (trim "Nan").toList := (isNumberWord_iff _).2 (by decide)
  exact ⟨by rfl, by rfl, by decide, fun numeral => numeral.not_isNumberWord isWord, by rfl, by rfl⟩

end WeatherTables
