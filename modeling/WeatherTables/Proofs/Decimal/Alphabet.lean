import WeatherTables.Decimal.Numeral
import Mathlib.Data.List.TakeWhile

/-!
# The characters of numbers

A text that is read as a number consists of letters, digits, signs and points, so nothing that separates
parts of a larger text can stand in it (`inNumber_of_isReal`, `inNumber_of_int64?`).
-/

set_option autoImplicit false

namespace WeatherTables.Decimal

/-- The characters that can stand in a number. -/
def InNumber (c : Char) : Prop :=
  c.isAlphanum = true ∨ c = '+' ∨ c = '-' ∨ c = '.'

/-- Whether a character can stand in a number is found by comparing it. -/
instance : DecidablePred InNumber := fun c =>
  inferInstanceAs (Decidable (c.isAlphanum = true ∨ c = '+' ∨ c = '-' ∨ c = '.'))

/-- Digits can stand in a number. -/
theorem inNumber_of_isDigit {c : Char} (h : c.isDigit = true) : InNumber c :=
  .inl (by rw [Char.isAlphanum, h, Bool.or_true])

/-- Letters can stand in a number, since numbers can be words. -/
theorem inNumber_of_isAlpha {c : Char} (h : c.isAlpha = true) : InNumber c :=
  .inl (by rw [Char.isAlphanum, h, Bool.true_or])

/-- A character whose small form is a letter is one itself. -/
theorem inNumber_of_toLower {c : Char} (h : c.toLower.isAlpha = true) : InNumber c := by
  apply inNumber_of_isAlpha
  by_cases upper : c.isUpper = true
  · exact Bool.or_eq_true_iff.2 (.inl upper)
  · have small : c.toLower = c := dif_neg fun h => upper (decide_eq_true h)
    rwa [small] at h

/-- A sign in front can stand in a number, and so it is enough to look at what follows it. -/
theorem inNumber_of_dropSign {cs : List Char} (h : ∀ c ∈ dropSign cs, InNumber c) :
    ∀ c ∈ cs, InNumber c := by
  unfold dropSign at h
  split at h
  · exact List.forall_mem_cons.2 ⟨.inr (.inl rfl), h⟩
  · exact List.forall_mem_cons.2 ⟨.inr (.inr (.inl rfl)), h⟩
  · exact h

/-- The characters of an exponent part can stand in a number. -/
theorem inNumber_of_isExponentPart {cs : List Char} (h : isExponentPart cs = true) :
    ∀ c ∈ cs, InNumber c := by
  cases cs with
  | nil => exact List.forall_mem_nil _
  | cons e rest =>
    simp only [isExponentPart, Bool.and_eq_true, Bool.or_eq_true, beq_iff_eq, List.all_eq_true] at h
    obtain ⟨⟨letter, -⟩, digits⟩ := h
    refine List.forall_mem_cons.2 ⟨?_, inNumber_of_dropSign fun c hc =>
      inNumber_of_isDigit (digits c hc)⟩
    rcases letter with rfl | rfl <;> exact .inl rfl

/-- The leading digits of a text can stand in a number. -/
theorem inNumber_of_mem_takeWhile {cs : List Char} :
    ∀ c ∈ cs.takeWhile Char.isDigit, InNumber c :=
  fun _ hc => inNumber_of_isDigit (List.mem_takeWhile_imp hc)

/-- The characters of a decimal without a sign can stand in a number. -/
theorem inNumber_of_isUnsignedDecimal {cs : List Char} (h : isUnsignedDecimal cs = true) :
    ∀ c ∈ cs, InNumber c := by
  rw [← List.takeWhile_append_dropWhile (p := Char.isDigit) (l := cs), List.forall_mem_append]
  refine ⟨inNumber_of_mem_takeWhile, ?_⟩
  unfold isUnsignedDecimal at h
  split at h
  · next rest point =>
    rw [point, List.forall_mem_cons,
      ← List.takeWhile_append_dropWhile (p := Char.isDigit) (l := rest), List.forall_mem_append]
    exact ⟨.inr (.inr (.inr rfl)), inNumber_of_mem_takeWhile,
      inNumber_of_isExponentPart (Bool.and_eq_true_iff.1 h).2⟩
  · exact inNumber_of_isExponentPart (Bool.and_eq_true_iff.1 h).2

/-- What is read as a real number, be it a numeral or a word, has no other characters. -/
theorem inNumber_of_isReal {cs : List Char} (h : isReal cs = true) : ∀ c ∈ cs, InNumber c := by
  apply inNumber_of_dropSign
  rcases (Bool.or_eq_true _ _).mp h with word | decimal
  · intro c hc
    have letters : numberWords.all (fun w => w.all Char.isAlpha) = true := by decide
    have spelled := List.all_eq_true.1 letters _ (List.contains_iff_mem.1 word)
    exact inNumber_of_toLower (List.all_eq_true.1 spelled c.toLower (List.mem_map_of_mem hc))
  · exact inNumber_of_isUnsignedDecimal decimal

/-- What is read as a natural number is a digit or more, and nothing else. -/
theorem digits_of_natural? {cs : List Char} {n : Nat} (h : natural? cs = some n) :
    cs ≠ [] ∧ ∀ c ∈ cs, c.isDigit = true := by
  unfold natural? at h
  split at h
  · next run =>
    simp only [Bool.and_eq_true, Bool.not_eq_true', List.isEmpty_eq_false_iff, List.all_eq_true] at run
    exact run
  · cases h

/-- What is read as a natural number has no other characters either. -/
theorem inNumber_of_natural? {cs : List Char} {n : Nat} (h : natural? cs = some n) :
    ∀ c ∈ cs, InNumber c :=
  fun c hc => inNumber_of_isDigit ((digits_of_natural? h).2 c hc)

/-- An integer is a run of digits after its sign. -/
theorem natural?_of_integer? {cs : List Char} {i : Int} (h : integer? cs = some i) :
    ∃ n, natural? (dropSign cs) = some n := by
  unfold integer? at h
  unfold dropSign
  split at h
  · obtain ⟨n, hn, -⟩ := Option.map_eq_some_iff.1 h
    exact ⟨n, hn⟩
  · obtain ⟨i, hi, -⟩ := Option.map_eq_some_iff.1 h
    obtain ⟨n, hn, -⟩ := Option.bind_eq_some_iff.1 hi
    exact ⟨n, hn⟩
  · obtain ⟨n, hn, -⟩ := Option.map_eq_some_iff.1 h
    exact ⟨n, hn⟩

/-- What is read as an integer of 64 bits has no other characters either. -/
theorem inNumber_of_int64? {cs : List Char} (h : (int64? cs).isSome = true) :
    ∀ c ∈ cs, InNumber c := by
  obtain ⟨i, hi⟩ := Option.isSome_iff_exists.1 h
  obtain ⟨n, hn⟩ := natural?_of_integer? (Option.filter_eq_some_iff.1 hi).1
  exact inNumber_of_dropSign (inNumber_of_natural? hn)

end WeatherTables.Decimal
