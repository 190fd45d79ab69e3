import WeatherTables.Calendar.Date
import Mathlib.Tactic.SplitIfs

/-!
# Days and dates

With years that begin in March a date is a year and a day of that year (`Date.fromMarch`). A year is the
days from its beginning to the beginning of the next one (`startOfYear_marchYear`), so a day falls into one
year only, and numbers and dates of the calendar correspond: `dayNumber_ofDayNumber`,
`inCalendar_ofDayNumber` and `ofDayNumber_dayNumber`.
-/

set_option autoImplicit false

namespace WeatherTables

namespace Date

/-! ## Years from March on -/

/-- The number of days from the beginning of the year 0 to that of the year, both from March on. -/
def startOfYear (year : Int) : Int :=
  365 * year + year / 4 - year / 100 + year / 400

/-- The number of days from the beginning of a year to that of a month, March being month 0. -/
def startOfMonth (month : Int) : Int :=
  (153 * month + 2) / 5

/-- The year of a cycle in which a day of the cycle falls. -/
def yearOfCycle (day : Int) : Int :=
  (day - day / 1460 + day / 36524 - day / 146096) / 365

/-- The year in which a day falls, counted from the beginning of the year 0. -/
def marchYear (day : Int) : Int :=
  yearOfCycle (day % 146097) + day / 146097 * 400

/-- Every cycle of 400 years has 146097 days. -/
theorem startOfYear_cycle (year cycles : Int) :
    startOfYear (year + cycles * 400) = startOfYear year + cycles * 146097 := by
  unfold startOfYear
  omega

/-- A year has 365 days or one more. -/
theorem startOfYear_add_one (year : Int) :
    startOfYear year + 365 ≤ startOfYear (year + 1) ∧
      startOfYear (year + 1) ≤ startOfYear year + 366 := by
  unfold startOfYear
  omega

/-- A later year does not begin earlier. -/
theorem startOfYear_mono {a b : Int} (h : a ≤ b) : startOfYear a ≤ startOfYear b := by
  unfold startOfYear
  omega

/-- The year that begins earlier is the earlier one. -/
theorem lt_of_startOfYear_lt {a b : Int} (h : startOfYear a < startOfYear b) : a < b :=
  Int.not_le.1 fun notBefore => Int.not_le.2 h (startOfYear_mono notBefore)

/-- A day of a cycle falls into one of four centuries. The last one is longer by a day. -/
theorem exists_century {day : Int} (lower : 0 ≤ day) (upper : day < 146097) :
    ∃ century, (century = 0 ∨ century = 1 ∨ century = 2 ∨ century = 3) ∧
      day / 36524 - day / 146096 = century ∧ 36524 * century ≤ day ∧
      (day < 36524 * century + 36524 ∨ century = 3 ∧ day = 146096) := by
  refine ⟨_, ?_, rfl, ?_, ?_⟩ <;> omega

/-- The year found for a day of a cycle is one of its 400 years, and the day is in it. -/
theorem yearOfCycle_spec {day : Int} (lower : 0 ≤ day) (upper : day < 146097) :
    0 ≤ yearOfCycle day ∧ yearOfCycle day < 400 ∧
      startOfYear (yearOfCycle day) ≤ day ∧ day < startOfYear (yearOfCycle day + 1) := by
  obtain ⟨century, four, quotients, begun, ends⟩ := exists_century lower upper
  have year : yearOfCycle day = (day - day / 1460 + century) / 365 := by
    rw [yearOfCycle, ← quotients]
    congr 1
    omega
  generalize yearOfCycle day = y at year ⊢
  unfold startOfYear
  have inCentury : 100 * century ≤ y ∧ y < 100 * century + 100 := by
    rcases four with rfl | rfl | rfl | rfl <;> omega
  have hundreds : y / 100 = century := by omega
  have before : 365 * y + y / 4 - century ≤ day := by
    rcases four with rfl | rfl | rfl | rfl <;> omega
  have after : day < 365 * (y + 1) + (y + 1) / 4 - century := by
    rcases four with rfl | rfl | rfl | rfl <;> omega
  clear year quotients
  refine ⟨by omega, by omega, by omega, ?_⟩
  -- The last year of a century has a leap day in the last century only.
  by_cases last : y = 100 * century + 99
  · rcases four with rfl | rfl | rfl | rfl <;> omega
  · have sameHundreds : (y + 1) / 100 = century := by omega
    omega

/-- A day falls between the beginning of its year and that of the next. -/
theorem startOfYear_marchYear (day : Int) :
    startOfYear (marchYear day) ≤ day ∧ day < startOfYear (marchYear day + 1) := by
  obtain ⟨-, -, before, after⟩ := yearOfCycle_spec (Int.emod_nonneg day (by decide))
    (Int.emod_lt_of_pos day (by decide))
  have next : marchYear day + 1 = yearOfCycle (day % 146097) + 1 + day / 146097 * 400 := by
    rw [marchYear]
    omega
  rw [next, marchYear, startOfYear_cycle, startOfYear_cycle]
  omega

/-- A day is in one year only. -/
theorem marchYear_unique {day a b : Int} (ha : startOfYear a ≤ day ∧ day < startOfYear (a + 1))
    (hb : startOfYear b ≤ day ∧ day < startOfYear (b + 1)) : a = b := by
  have notAfter : a < b + 1 := lt_of_startOfYear_lt (Int.lt_of_le_of_lt ha.1 hb.2)
  have notBefore : b < a + 1 := lt_of_startOfYear_lt (Int.lt_of_le_of_lt hb.1 ha.2)
  omega

/-! ## Dates of the calendar -/

/-- The date that is so many days after the beginning of the year. -/
def fromMarch (year day : Int) : Date :=
  let monthFromMarch := (5 * day + 2) / 153
  let month := if monthFromMarch < 10 then monthFromMarch + 3 else monthFromMarch - 9
  ⟨if month ≤ 2 then year + 1 else year, month.toNat,
    (day - startOfMonth monthFromMarch + 1).toNat⟩

/-- The year has the day. -/
def HasDay (year day : Int) : Prop :=
  0 ≤ day ∧ startOfYear year + day < startOfYear (year + 1)

/-- The days of a year are counted up to 365 at most, the first being 0. -/
theorem HasDay.le {year day : Int} (h : HasDay year day) : day ≤ 365 := by
  have := startOfYear_add_one year
  have := h.2
  omega

/-- Counted from the beginning of its own year, a day is one that this year has. -/
theorem hasDay_marchYear (day : Int) : HasDay (marchYear day) (day - startOfYear (marchYear day)) := by
  have := startOfYear_marchYear day
  unfold HasDay
  omega

/-- The date of a day is found from its year and from the days since that year began in March. -/
theorem ofDayNumber_eq_fromMarch (number : Int) :
    ofDayNumber number = fromMarch (marchYear (number + 719468))
      (number + 719468 - startOfYear (marchYear (number + 719468))) := by
  obtain ⟨first, last, -, -⟩ := yearOfCycle_spec (Int.emod_nonneg (number + 719468) (by decide))
    (Int.emod_lt_of_pos (number + 719468) (by decide))
  have dayOfYear : number + 719468 - startOfYear (marchYear (number + 719468)) =
      (number + 719468) % 146097 - (365 * yearOfCycle ((number + 719468) % 146097) +
        yearOfCycle ((number + 719468) % 146097) / 4 -
        yearOfCycle ((number + 719468) % 146097) / 100) := by
    rw [marchYear, startOfYear_cycle, startOfYear]
    omega
  rw [dayOfYear]
  rfl

/-- The months up to December are in the year itself, January and February in the next one. -/
theorem fromMarch_eq {day : Int} {month : Nat} (h : (5 * day + 2) / 153 = month) (inYear : month < 12)
    (year : Int) :
    fromMarch year day = ⟨if month < 10 then year else year + 1,
      if month < 10 then month + 3 else month - 9, (day - startOfMonth month + 1).toNat⟩ := by
  rw [fromMarch, h]
  split_ifs
  all_goals
    rw [Date.mk.injEq]
    exact ⟨by omega, by omega, rfl⟩

/-- Every day of a year falls into one of twelve months. -/
theorem HasDay.exists_month {year day : Int} (h : HasDay year day) :
    ∃ month : Nat, month < 12 ∧ (5 * day + 2) / 153 = month := by
  have least := h.1
  have most := h.le
  exact ⟨((5 * day + 2) / 153).toNat, by omega, by omega⟩

/-- The date has the number that its year and its day of that year give. -/
theorem dayNumber_fromMarch {year day : Int} (h : HasDay year day) :
    (fromMarch year day).dayNumber = startOfYear year + day - 719468 := by
  obtain ⟨month, inYear, isMonth⟩ := h.exists_month
  have least := h.1
  simp only [fromMarch_eq isMonth inYear, dayNumber, startOfYear, startOfMonth]
  split_ifs
  all_goals omega

/-- The date has a month of the year and a day of the month. -/
def InCalendar (d : Date) : Prop :=
  1 ≤ d.month ∧ d.month ≤ 12 ∧ 1 ≤ d.day ∧ d.day ≤ daysInMonth d.year d.month

/-- A date is represented just when its year is and the calendar has it. -/
theorem isValid_iff {d : Date} :
    d.isValid = true ↔ earliestYear ≤ d.year ∧ d.year ≤ latestYear ∧ d.InCalendar := by
  simp only [isValid, InCalendar, Bool.and_eq_true, decide_eq_true_eq, and_assoc]

/-- No month has more than 31 days. -/
theorem daysInMonth_le (year : Int) (month : Nat) : daysInMonth year month ≤ 31 := by
  unfold daysInMonth
  split
  · split_ifs
    all_goals decide
  all_goals decide

/-- February is what a year has beyond the months from March to January. -/
theorem daysInMonth_february (year : Int) :
    (daysInMonth (year + 1) 2 : Int) = startOfYear (year + 1) - startOfYear year - 337 := by
  have leap : isLeapYear (year + 1) = true ↔
      (year + 1) % 4 = 0 ∧ ((year + 1) % 100 ≠ 0 ∨ (year + 1) % 400 = 0) := by
    simp [isLeapYear]
  rw [daysInMonth]
  unfold startOfYear
  split_ifs with isLeap
  · rw [leap] at isLeap
    omega
  · rw [leap] at isLeap
    omega

/-- A month has the days from its beginning to that of the next month, if the year does not end before. -/
theorem daysInMonth_fromMarch (year : Int) {month : Nat} (inYear : month < 12) :
    (daysInMonth (if month < 10 then year else year + 1)
        (if month < 10 then month + 3 else month - 9) : Int) =
      min (startOfMonth (month + 1)) (startOfYear (year + 1) - startOfYear year) -
        startOfMonth month := by
  have length := startOfYear_add_one year
  unfold startOfMonth
  -- Only February, the last month, is cut off by the end of the year.
  by_cases last : month = 11
  · subst last
    have february := daysInMonth_february year
    simp only [Nat.reduceLT, if_false, Nat.reduceSub]
    omega
  · obtain rfl | rfl | rfl | rfl | rfl | rfl | rfl | rfl | rfl | rfl | rfl :
        month = 0 ∨ month = 1 ∨ month = 2 ∨ month = 3 ∨ month = 4 ∨ month = 5 ∨ month = 6 ∨
          month = 7 ∨ month = 8 ∨ month = 9 ∨ month = 10 := by
      omega
    all_goals
      simp only [Nat.reduceLT, if_true, if_false, Nat.reduceSub, Nat.reduceAdd, daysInMonth]
      omega

/-- The date found for a day of a year is in the calendar. -/
theorem inCalendar_fromMarch {year day : Int} (h : HasDay year day) :
    (fromMarch year day).InCalendar := by
  obtain ⟨month, inYear, isMonth⟩ := h.exists_month
  obtain ⟨least, most⟩ := h
  have length := daysInMonth_fromMarch year inYear
  simp only [fromMarch_eq isMonth inYear, InCalendar]
  generalize daysInMonth _ _ = days at length ⊢
  unfold startOfMonth at length ⊢
  split_ifs
  all_goals omega

/-- Every month of the calendar is one of the twelve from some March on. -/
theorem InCalendar.exists_month {d : Date} (h : d.InCalendar) :
    ∃ (year : Int) (month : Nat), month < 12 ∧
      d = ⟨if month < 10 then year else year + 1, if month < 10 then month + 3 else month - 9,
        d.day⟩ := by
  obtain ⟨year, month, day⟩ := d
  have first : 1 ≤ month := h.1
  have last : month ≤ 12 := h.2.1
  by_cases early : month ≤ 2
  · refine ⟨year - 1, month + 9, by omega, ?_⟩
    rw [if_neg (by omega), if_neg (by omega), Int.sub_add_cancel, Nat.add_sub_cancel]
  · refine ⟨year, month - 3, by omega, ?_⟩
    rw [if_pos (by omega), if_pos (by omega), Nat.sub_add_cancel (by omega)]

/-- Every date of the calendar is that of some day of a year that begins in March. -/
theorem InCalendar.exists_fromMarch {d : Date} (h : d.InCalendar) :
    ∃ year day, HasDay year day ∧ d = fromMarch year day := by
  obtain ⟨year, month, inYear, split⟩ := h.exists_month
  obtain ⟨-, -, least, most⟩ := h
  generalize d.day = dayOfMonth at split least most
  subst split
  have length := daysInMonth_fromMarch year inYear
  have most : (dayOfMonth : Int) ≤ _ := Int.ofNat_le.2 most
  rw [length] at most
  have hasDay : HasDay year (startOfMonth month + dayOfMonth - 1) := by
    unfold startOfMonth at most ⊢
    rw [HasDay]
    omega
  have isMonth : (5 * (startOfMonth month + dayOfMonth - 1) + 2) / 153 = month := by
    unfold startOfMonth at most ⊢
    omega
  refine ⟨year, _, hasDay, ?_⟩
  rw [fromMarch_eq isMonth inYear, Date.mk.injEq]
  exact ⟨rfl, rfl, by omega⟩

/-! ## Numbers and dates -/

/-- Every day has a date of the calendar. -/
theorem inCalendar_ofDayNumber (number : Int) : (ofDayNumber number).InCalendar := by
  rw [ofDayNumber_eq_fromMarch]
  exact inCalendar_fromMarch (hasDay_marchYear _)

/-- The date of a day has the number of that day. -/
theorem dayNumber_ofDayNumber (number : Int) : (ofDayNumber number).dayNumber = number := by
  rw [ofDayNumber_eq_fromMarch, dayNumber_fromMarch (hasDay_marchYear _)]
  omega

/-- A date of the calendar is found again from the number of its day. -/
theorem ofDayNumber_dayNumber {d : Date} (h : d.InCalendar) : ofDayNumber d.dayNumber = d := by
  obtain ⟨year, day, hasDay, rfl⟩ := h.exists_fromMarch
  have sameYear : marchYear (startOfYear year + day) = year := by
    refine marchYear_unique (startOfYear_marchYear _) ⟨?_, hasDay.2⟩
    have := hasDay.1
    omega
  rw [dayNumber_fromMarch hasDay, ofDayNumber_eq_fromMarch, Int.sub_add_cancel, sameYear]
  congr 1
  omega

/-- The first day of the years represented. -/
def first : Date :=
  ⟨earliestYear, 1, 1⟩

/-- The last day of the years represented. -/
def last : Date :=
  ⟨latestYear, 12, 31⟩

/-- A year of the calendar begins 306 days after the year before has begun in March. -/
theorem dayNumber_mem_year {d : Date} (h : d.InCalendar) :
    startOfYear (d.year - 1) + 306 ≤ d.dayNumber + 719468 ∧
      d.dayNumber + 719468 < startOfYear d.year + 306 := by
  obtain ⟨year, day, hasDay, rfl⟩ := h.exists_fromMarch
  obtain ⟨month, inYear, isMonth⟩ := hasDay.exists_month
  have upper := startOfYear_add_one year
  have lower := startOfYear_add_one (year - 1)
  have within := hasDay
  rw [HasDay] at within
  rw [Int.sub_add_cancel] at lower
  rw [dayNumber_fromMarch hasDay, fromMarch_eq isMonth inYear]
  dsimp only
  -- From March to December a date has its year still, in January and February it has the next.
  split_ifs
  · omega
  · rw [Int.add_sub_cancel]
    omega

/-- The days in the years represented are those from the first to the last. -/
theorem isValid_ofDayNumber_iff (number : Int) :
    (ofDayNumber number).isValid = true ↔ first.dayNumber ≤ number ∧ number ≤ last.dayNumber := by
  have inside := dayNumber_mem_year (inCalendar_ofDayNumber number)
  have lowest : startOfYear (earliestYear - 1) + 306 = first.dayNumber + 719468 := by decide
  have highest : startOfYear latestYear + 306 = last.dayNumber + 1 + 719468 := by decide
  rw [dayNumber_ofDayNumber] at inside
  rw [isValid_iff, and_iff_left (inCalendar_ofDayNumber number)]
  generalize (ofDayNumber number).year = year at inside
  constructor
  · rintro ⟨notEarlier, notLater⟩
    have lower := startOfYear_mono (Int.sub_le_sub_right notEarlier 1)
    have upper := startOfYear_mono notLater
    omega
  · rintro ⟨notEarlier, notLater⟩
    have lower : earliestYear - 1 < year := lt_of_startOfYear_lt (by omega)
    have upper : year - 1 < latestYear := lt_of_startOfYear_lt (by omega)
    omega

end Date

end WeatherTables
