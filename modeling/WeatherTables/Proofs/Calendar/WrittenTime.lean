import WeatherTables.Calendar.Timestamp
import WeatherTables.Decimal.Binary64
import WeatherTables.Proofs.Calendar.Days
import WeatherTables.Proofs.Text.Trimmed

/-!
# Times and their texts

A timestamp of the calendar is read back from what is written of it (`read?_write`). Both ways to come by a
timestamp give only such ones, and those that come from a count of seconds also tell the seconds
(`ofEpoch?_eq_some_iff`). So neither a timestamp nor its seconds are lost in a text.
-/

set_option autoImplicit false

namespace WeatherTables

namespace Timestamp

/-- The date is one of the years represented, the time one of a day. A minute may have a sixtieth second. -/
structure Valid (t : Timestamp) : Prop where
  date : t.date.isValid = true
  hour : t.hour ≤ 23
  minute : t.minute ≤ 59
  second : t.second ≤ 60

/-! ## Seconds -/

/-- The seconds from the beginning of 1970 to the timestamp. -/
def epoch (t : Timestamp) : Int :=
  t.date.dayNumber * daySeconds + t.hour * 3600 + t.minute * 60 + t.second

/-- The first second of the years represented. -/
def earliest : Timestamp :=
  ⟨Date.first, 0, 0, 0⟩

/-- The last second of the years represented. -/
def latest : Timestamp :=
  ⟨Date.last, 23, 59, 59⟩

/-- So many seconds make a timestamp just when they lie between the first and the last second
represented. -/
theorem ofEpoch?_isSome_iff (seconds : Int) :
    (ofEpoch? seconds).isSome = true ↔ earliest.epoch ≤ seconds ∧ seconds ≤ latest.epoch := by
  have days := Date.isValid_ofDayNumber_iff (seconds / daySeconds)
  have begins : earliest.epoch = Date.first.dayNumber * daySeconds := by decide
  have ends : latest.epoch = (Date.last.dayNumber + 1) * daySeconds - 1 := by decide
  have isSome : (ofEpoch? seconds).isSome = (Date.ofDayNumber (seconds / daySeconds)).isValid := by
    simp only [ofEpoch?]
    split_ifs with valid
    · rw [valid, Option.isSome_some]
    · rw [Bool.not_eq_true] at valid
      rw [valid, Option.isSome_none]
  rw [isSome, days, begins, ends]
  unfold daySeconds
  omega

/-- Every timestamp of the years represented comes from its seconds, but for those in a sixtieth second. -/
theorem ofEpoch?_epoch {t : Timestamp} (h : t.Valid) (notSixty : t.second ≤ 59) :
    ofEpoch? t.epoch = some t := by
  have hour := h.hour
  have minute := h.minute
  have day : t.epoch / daySeconds = t.date.dayNumber := by
    unfold epoch daySeconds
    omega
  have rest : (t.epoch % daySeconds).toNat = t.hour * 3600 + t.minute * 60 + t.second := by
    unfold epoch daySeconds
    omega
  have date : Date.ofDayNumber t.date.dayNumber = t.date :=
    Date.ofDayNumber_dayNumber (Date.isValid_iff.1 h.date).2.2
  simp only [ofEpoch?, day, rest, date, h.date, if_true, Option.some.injEq]
  obtain ⟨date, hour, minute, second⟩ := t
  rw [Timestamp.mk.injEq]
  dsimp only at *
  refine ⟨rfl, by omega, by omega, by omega⟩

/-- A timestamp comes from its seconds and no others. -/
theorem ofEpoch?_eq_some_iff {seconds : Int} {t : Timestamp} :
    ofEpoch? seconds = some t ↔ t.Valid ∧ t.second ≤ 59 ∧ t.epoch = seconds := by
  constructor
  · intro h
    simp only [ofEpoch?] at h
    split_ifs at h with valid
    obtain rfl := Option.some.inj h
    rw [epoch, Date.dayNumber_ofDayNumber]
    unfold daySeconds
    dsimp only
    have time : ∀ rest : Nat, rest < 86400 →
        rest / 3600 ≤ 23 ∧ rest / 60 % 60 ≤ 59 ∧ rest % 60 ≤ 59 := by omega
    obtain ⟨hour, minute, second⟩ := time (seconds % 86400).toNat (by omega)
    exact ⟨⟨valid, hour, minute, second.trans (by decide)⟩, second, by omega⟩
  · rintro ⟨valid, notSixty, rfl⟩
    exact ofEpoch?_epoch valid notSixty

/-! ## Digits -/

/-- A number is written in digits only. -/
theorem isDigit_of_mem_padded {width n : Nat} {c : Char} (h : c ∈ padded width n) :
    c.isDigit = true := by
  rw [padded, List.mem_append] at h
  rcases h with zero | digit
  · rw [List.eq_of_mem_replicate zero]
    rfl
  · exact Nat.isDigit_of_mem_toDigits (by omega) (by omega) digit

/-- Zeros in front do not change the number. -/
theorem ofDigitChars_padded (width n : Nat) : Nat.ofDigitChars 10 (padded width n) 0 = n := by
  rw [padded, Nat.ofDigitChars_append, Nat.ofDigitChars_replicate_zero,
    Nat.mul_zero, Nat.ofDigitChars_ten_toDigits]

/-- Every number is written with some digit. -/
theorem padded_ne_nil (width n : Nat) : padded width n ≠ [] :=
  List.append_ne_nil_of_right_ne_nil _ Nat.toDigits_ne_nil

/-- A number that is small enough is written in just as many digits as asked for. -/
theorem length_padded {width n : Nat} (positive : 0 < width) (small : n < Decimal.tenPower width) :
    (padded width n).length = width := by
  have := (Nat.length_toDigits_le_iff (b := 10) (by omega) positive).2 small
  rw [padded, List.length_append, List.length_replicate]
  omega

/-- What is written of a number starts with a digit. -/
theorem exists_padded_eq_cons (width n : Nat) :
    ∃ d ds, padded width n = d :: ds ∧ d.isDigit = true := by
  obtain ⟨d, ds, split⟩ := List.exists_cons_of_ne_nil (padded_ne_nil width n)
  exact ⟨d, ds, split, isDigit_of_mem_padded (split ▸ List.mem_cons_self)⟩

/-- What follows a number does not go on with it. -/
def Stops (rest : List Char) : Prop :=
  ∀ c ∈ rest.head?, c.isDigit = false

/-- Where a number has stopped, no further digit is found, however far one looks. -/
theorem takeWhile_take_of_stops {rest : List Char} (h : Stops rest) (k : Nat) :
    (rest.take k).takeWhile Char.isDigit = [] := by
  cases rest with
  | nil => rw [List.take_nil, List.takeWhile_nil]
  | cons c rest =>
    cases k with
    | zero => rfl
    | succ k => rw [List.take_succ_cons, List.takeWhile_cons_of_neg (by simp [h c rfl])]

/-- A number is read up to a character that is no digit. -/
theorem digits?_padded {width limit n : Nat} {rest : List Char}
    (fits : (padded width n).length ≤ limit) (stops : Stops rest) :
    digits? limit (padded width n ++ rest) = some (n, rest) := by
  have digits : ∀ c ∈ padded width n, c.isDigit = true := fun _ => isDigit_of_mem_padded
  have taken : ((padded width n ++ rest).take limit).takeWhile Char.isDigit = padded width n := by
    rw [List.take_append, List.take_of_length_le fits, List.takeWhile_append_of_pos digits,
      takeWhile_take_of_stops stops, List.append_nil]
  unfold digits?
  rw [taken]
  split
  · next none => exact absurd none (padded_ne_nil width n)
  · rw [ofDigitChars_padded, List.drop_left]

/-- No blank stands in front of a number as it is written. -/
theorem dropBlanks_padded (width n : Nat) (rest : List Char) :
    Text.dropBlanks (padded width n ++ rest) = padded width n ++ rest := by
  obtain ⟨d, ds, split, digit⟩ := exists_padded_eq_cons width n
  rw [split, List.cons_append, Text.dropBlanks,
    List.dropWhile_cons_of_neg (by simp [Text.isBlank_of_isDigit digit])]

/-! ## Texts -/

/-- A number of two digits is read back up to a character that is no digit. -/
theorem part?_padded {n : Nat} (small : n < 100) {rest : List Char} (stops : Stops rest) :
    part? (padded 2 n ++ rest) = some (n, rest) := by
  rw [part?, dropBlanks_padded, digits?_padded (length_padded (by decide) small).le stops]

/-- One blank in front of a number does not count. -/
theorem part?_blank (cs : List Char) : part? (' ' :: cs) = part? cs := rfl

/-- After a minus sign all digits are taken, and the year is negative. -/
theorem year?_minus (cs : List Char) :
    year? ('-' :: cs) = (digits? cs.length cs).map fun (n, after) => (-(n : Int), after) := rfl

/-- After a plus sign all digits are taken. -/
theorem year?_plus (cs : List Char) :
    year? ('+' :: cs) = (digits? cs.length cs).map fun (n, after) => ((n : Int), after) := rfl

/-- Without a sign only four digits are taken. -/
theorem year?_unsigned (width n : Nat) (rest : List Char) :
    year? (padded width n ++ rest) =
      (digits? 4 (padded width n ++ rest)).map fun (n, after) => ((n : Int), after) := by
  obtain ⟨d, ds, split, digit⟩ := exists_padded_eq_cons width n
  unfold year?
  rw [dropBlanks_padded, split, List.cons_append]
  -- The first character is a digit, so it is neither of the signs.
  split
  · next same =>
    cases same
    cases digit
  · next same =>
    cases same
    cases digit
  · rfl

/-- A year is read back, with its sign if it has one. -/
theorem year?_yearText (year : Int) {rest : List Char} (stops : Stops rest) :
    year? (yearText year ++ rest) = some (year, rest) := by
  have fits : (padded 4 year.natAbs).length ≤ (padded 4 year.natAbs ++ rest).length := by
    rw [List.length_append]
    exact Nat.le_add_right _ _
  unfold yearText
  split_ifs with negative late
  · have value : -(year.natAbs : Int) = year := by omega
    rw [List.cons_append, year?_minus, digits?_padded fits stops, Option.map_some]
    exact congrArg (fun y => some (y, rest)) value
  · have value : (year.natAbs : Int) = year := by omega
    rw [List.cons_append, year?_plus, digits?_padded fits stops, Option.map_some]
    exact congrArg (fun y => some (y, rest)) value
  · have value : (year.natAbs : Int) = year := by omega
    have small : year.natAbs < 10000 := by omega
    have four : (padded 4 year.natAbs).length ≤ 4 := (length_padded (by decide) small).le
    rw [year?_unsigned, digits?_padded four stops, Option.map_some]
    exact congrArg (fun y => some (y, rest)) value

/-- At the end of a text a number has stopped. -/
theorem stops_nil : Stops [] :=
  nofun

/-- A number stops before any character that is no digit. -/
theorem stops_cons {c : Char} (h : c.isDigit = false) (rest : List Char) : Stops (c :: rest) := by
  rintro _ ⟨⟩
  exact h

/-- What is written of a timestamp is read back, number by number. -/
theorem read?_write {t : Timestamp} (h : t.Valid) : read? (t.write ' ') = some t := by
  obtain ⟨⟨year, month, day⟩, hour, minute, second⟩ := t
  obtain ⟨date, hourLe, minuteLe, secondLe⟩ := h
  obtain ⟨-, -, -, monthLe, -, dayLe⟩ := Date.isValid_iff.1 date
  have days := Date.daysInMonth_le year month
  dsimp only at *
  -- Nothing follows the seconds, and what follows any other number is no digit.
  have last : part? (padded 2 second) = some (second, []) := by
    have := part?_padded (n := second) (by omega) stops_nil
    rwa [List.append_nil] at this
  simp only [read?, write, String.toList_ofList, List.append_assoc, List.cons_append]
  rw [year?_yearText year (stops_cons rfl _)]
  simp only [Option.bind_eq_bind, Option.bind_some, after?, if_true]
  rw [part?_padded (by omega) (stops_cons rfl _)]
  simp only [Option.bind_some, if_true]
  rw [part?_padded (by omega) (stops_cons rfl _)]
  simp only [Option.bind_some, part?_blank]
  rw [part?_padded (by omega) (stops_cons rfl _)]
  simp only [Option.bind_some, if_true]
  rw [part?_padded (by omega) (stops_cons rfl _)]
  simp only [Option.bind_some, if_true, last]
  rw [if_pos (by simp [date, hourLe, minuteLe, secondLe])]
  rfl

/-- Only valid timestamps are read. -/
theorem Valid.of_read? {s : String} {t : Timestamp} (h : read? s = some t) : t.Valid := by
  simp only [read?, Option.bind_eq_bind, Option.bind_eq_some_iff] at h
  obtain ⟨⟨year, _⟩, -, _, -, ⟨month, _⟩, -, _, -, ⟨day, _⟩, -, ⟨hour, _⟩, -, _, -, ⟨minute, _⟩, -,
    _, -, ⟨second, _⟩, -, h⟩ := h
  split_ifs at h with accepted
  obtain rfl := Option.some.inj h
  simp only [Bool.and_eq_true, decide_eq_true_eq] at accepted
  obtain ⟨⟨⟨⟨-, date⟩, hourLe⟩, minuteLe⟩, secondLe⟩ := accepted
  exact ⟨date, hourLe, minuteLe, secondLe⟩

end Timestamp

end WeatherTables
