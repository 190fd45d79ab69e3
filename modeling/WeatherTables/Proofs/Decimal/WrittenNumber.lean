import WeatherTables.Json.Basic
import WeatherTables.Proofs.Decimal.NumeralForm

/-!
# Written numbers are read again

A number is written as a decimal numeral, whatever its size and whatever the notation
(`isNumeral_write`, `Number.isNumeral_text`), so it is always read back as a real number. It is read back
as an integer exactly if it is one, and one of 64 bits (`Number.int64?_text`): in interchange notation a
binary number keeps a point or an exponent even where it is whole.
-/

set_option autoImplicit false

namespace WeatherTables

namespace Decimal

/-! ## Binary numbers -/

/-- Digits with all their places written out are a significand. -/
theorem isSignificand_positionalText (keepsFraction : Bool) {digits : List Char}
    (only : OnlyDigits digits) (some : digits ≠ []) (exponent : Int) :
    IsSignificand (positionalText keepsFraction digits exponent) := by
  have zeros (n : Nat) : OnlyDigits (List.replicate n '0') := by
    intro c hc
    rw [List.eq_of_mem_replicate hc]
    rfl
  unfold positionalText
  split
  · have longer : OnlyDigits (digits ++ List.replicate exponent.toNat '0') :=
      List.forall_mem_append.2 ⟨only, zeros _⟩
    have filled : digits ++ List.replicate exponent.toNat '0' ≠ [] := by simp [some]
    cases keepsFraction with
    | true => exact .pointed longer (zeros 1) (.inl filled)
    | false => simpa using IsSignificand.whole longer filled
  · dsimp only
    split
    · exact .pointed (zeros 1) (List.forall_mem_append.2 ⟨zeros _, only⟩) (.inl (by simp))
    · next inside =>
      apply IsSignificand.pointed
      · exact fun c hc => only c (List.mem_of_mem_take hc)
      · exact fun c hc => only c (List.mem_of_mem_drop hc)
      · left
        intro empty
        have length := congrArg List.length empty
        simp only [List.length_take, List.length_nil] at length
        omega

/-- The digits before the exponent, and the exponent. -/
theorem exists_scientificText {digits : List Char} (only : OnlyDigits digits) (some : digits ≠ [])
    (leading : Int) :
    ∃ significand exponent, IsSignificand significand ∧ IsExponent exponent ∧
      'e' ∈ exponent ∧ scientificText digits leading = significand ++ exponent := by
  have isSign : IsSign [if leading < 0 then '-' else '+'] := by
    split
    · exact .inr (.inr rfl)
    · exact .inr (.inl rfl)
  have exponent := IsExponent.written (.inl rfl) isSign (onlyDigits_toDigits leading.natAbs)
    Nat.toDigits_ne_nil
  obtain ⟨d, more, rfl⟩ := List.exists_cons_of_ne_nil some
  obtain ⟨first, others⟩ := List.forall_mem_cons.1 only
  cases more with
  | nil => exact ⟨[d], _, .whole only some, exponent, List.mem_cons_self, rfl⟩
  | cons next more =>
    have pointed : IsSignificand ([d] ++ '.' :: next :: more) :=
      .pointed (List.forall_mem_singleton.2 first) others (.inl (by simp))
    exact ⟨_, _, pointed, exponent, List.mem_cons_self, by simp [scientificText]⟩

/-- A binary number is written as its digits in one of two ways, after a sign or none. -/
theorem exists_write (format : NumberFormat) (x : Binary64) :
    ∃ sign digits exponent leading, IsSign sign ∧ OnlyDigits digits ∧ digits ≠ [] ∧
      format.write x = sign ++
        if format.positional leading then positionalText format.keepsFraction digits exponent
        else scientificText digits leading := by
  unfold NumberFormat.write
  dsimp only
  cases x.negative with
  | true => exact ⟨['-'], _, _, _, .inr (.inr rfl), onlyDigits_toDigits _, Nat.toDigits_ne_nil, rfl⟩
  | false => exact ⟨[], _, _, _, .inl rfl, onlyDigits_toDigits _, Nat.toDigits_ne_nil, rfl⟩

/-- A binary number is written as a numeral, in any notation. -/
theorem isNumeral_write (format : NumberFormat) (x : Binary64) : IsNumeral (format.write x) := by
  obtain ⟨sign, digits, exponent, leading, isSign, only, some, written⟩ := exists_write format x
  rw [written]
  split
  · simpa using IsNumeral.mk isSign (isSignificand_positionalText _ only some exponent) .absent
  · obtain ⟨significand, part, isSignificand, isPart, -, same⟩ :=
      exists_scientificText only some leading
    rw [same]
    exact .mk isSign isSignificand isPart

/-- With its fraction kept, a number whose places are written out has a point. -/
theorem point_mem_positionalText (digits : List Char) (exponent : Int) :
    '.' ∈ positionalText true digits exponent := by
  unfold positionalText
  split
  · simp
  · dsimp only
    split
    · simp
    · simp

/-- In interchange notation every binary number has a point or an exponent. -/
theorem exists_mem_write (x : Binary64) : '.' ∈ interchange.write x ∨ 'e' ∈ interchange.write x := by
  obtain ⟨sign, digits, exponent, leading, -, only, some, written⟩ := exists_write interchange x
  rw [written]
  split
  · exact .inl (List.mem_append_right _ (point_mem_positionalText digits exponent))
  · obtain ⟨significand, part, -, -, mem, same⟩ := exists_scientificText only some leading
    rw [same]
    exact .inr (List.mem_append_right _ (List.mem_append_right _ mem))

/-- Dropping a sign loses no other character. -/
theorem mem_dropSign {cs : List Char} {c : Char} (mem : c ∈ cs) (plus : c ≠ '+') (minus : c ≠ '-') :
    c ∈ dropSign cs := by
  obtain ⟨sign, isSign, same⟩ := exists_sign cs
  rw [same, List.mem_append] at mem
  apply mem.resolve_left
  rcases isSign with rfl | rfl | rfl
  · exact List.not_mem_nil
  · simpa using plus
  · simpa using minus

/-- A text with a character that is neither a digit nor a sign in front is no integer. -/
theorem int64?_eq_none {cs : List Char} {c : Char} (mem : c ∈ dropSign cs) (other : c.isDigit = false) :
    int64? cs = none := by
  rw [Option.eq_none_iff_forall_not_mem]
  intro i read
  have digit := (onlyDigits_of_int64? read).2 c mem
  rw [digit] at other
  cases other

/-- A binary number is never written like an integer of 64 bits. -/
theorem int64?_write (x : Binary64) : int64? (interchange.write x) = none := by
  rcases exists_mem_write x with point | letter
  · exact int64?_eq_none (mem_dropSign point (by decide) (by decide)) (by decide)
  · exact int64?_eq_none (mem_dropSign letter (by decide) (by decide)) (by decide)

end Decimal

open Decimal

/-! ## Integers -/

namespace Number

/-- An integer is read back from what is written for it. -/
theorem integer?_integerText (i : Int) : integer? (integerText i) = some i := by
  unfold integerText
  split
  · next negative =>
    rw [integer?, natural?_toDigits]
    show some (-(i.natAbs : Int)) = some i
    rw [Option.some.injEq]
    omega
  · next positive =>
    have bare := dropSign_of_onlyDigits (onlyDigits_toDigits i.natAbs)
    have unsigned : integer? (Nat.toDigits 10 i.natAbs) =
        (natural? (Nat.toDigits 10 i.natAbs)).map Int.ofNat := by
      unfold integer?
      split
      · next written =>
        rw [written] at bare
        exact absurd bare (by simp [dropSign])
      · next written =>
        rw [written] at bare
        exact absurd bare (by simp [dropSign])
      · rfl
    rw [unsigned, natural?_toDigits, Option.map_some, Option.some.injEq]
    show (i.natAbs : Int) = i
    omega

/-- What is written for an integer is a numeral. -/
theorem isNumeral_integerText (i : Int) : IsNumeral (integerText i) := by
  have digits : IsSignificand (Nat.toDigits 10 i.natAbs) :=
    .whole (onlyDigits_toDigits _) Nat.toDigits_ne_nil
  unfold integerText
  split
  · simpa using IsNumeral.mk (.inr (.inr rfl)) digits .absent
  · simpa using IsNumeral.mk (.inl rfl) digits .absent

/-! ## Numbers -/

/-- What is written for a number is a numeral. -/
theorem isNumeral_text (n : Number) : IsNumeral n.text.toList := by
  cases n with
  | integer i =>
    rw [text, String.toList_ofList]
    exact isNumeral_integerText i
  | float x =>
    rw [text, String.toList_ofList]
    exact isNumeral_write interchange x

/-- Of the numbers only the integers of 64 bits are read back as integers, and as themselves. -/
theorem int64?_text (n : Number) : int64? n.text.toList = n.toInt64? := by
  cases n with
  | integer i =>
    rw [text, String.toList_ofList, int64?, integer?_integerText, toInt64?, Option.filter_some]
    simp only [Bool.and_eq_true, decide_eq_true_eq]
  | float x =>
    rw [text, String.toList_ofList]
    exact int64?_write x

end Number

end WeatherTables
