import SkillCentric.Crm.PurchaseContract

/-!
# Delivery weeks

The week of a date is the one of its Thursday, and a week begins with the Monday found from the
fourth of January.  Both computations agree for the dates of the years 1000 to 9999.
-/

namespace SkillCentric.Crm.PurchaseContract

open SkillCentric Datetime

theorem decimal_year {year : Nat} (atLeast : 1000 ≤ year) (below : year < 10000) :
    decimal year = padded 4 year := by
  have few := (Nat.length_toDigits_le_iff (b := 10) (n := year) (k := 3) (by decide) (by decide)).mp
  have none : 4 - (decimal year).length = 0 := by
    unfold decimal
    omega
  rw [padded, none]
  rfl

theorem padTwo_ofNat (n : Nat) : padTwo (intText (Int.ofNat n)) = padded 2 n := rfl

theorem date_parts : ∀ {year month day : Text}, year.length = 4 → month.length = 2 →
    day.length = 2 →
      (year ++ '-' :: month ++ '-' :: day).length = 10 ∧
      (year ++ '-' :: month ++ '-' :: day).take 4 = year ∧
      ((year ++ '-' :: month ++ '-' :: day).drop 4).take 1 = ['-'] ∧
      ((year ++ '-' :: month ++ '-' :: day).drop 5).take 2 = month ∧
      ((year ++ '-' :: month ++ '-' :: day).drop 7).take 1 = ['-'] ∧
      (year ++ '-' :: month ++ '-' :: day).drop 8 = day
  | [_, _, _, _], [_, _], [_, _], _, _, _ => by simp

theorem week_parts : ∀ {year week : Text}, year.length = 4 → week.length = 2 →
      (year ++ ("-W" : Text) ++ week).length = 8 ∧
      (year ++ ("-W" : Text) ++ week).take 4 = year ∧
      ((year ++ ("-W" : Text) ++ week).drop 4).take 2 = ("-W" : Text) ∧
      (year ++ ("-W" : Text) ++ week).drop 6 = week
  | [_, _, _, _], [_, _], _, _ => by simp

theorem toISOString_eq (micros : Nat) (fourDigits : (civil (micros / 1000000 / 86400)).1 < 10000) :
    ∃ clock, Control.toISOString micros = dayText (micros / 1000000 / 86400) ++ clock := by
  unfold Control.toISOString
  simp only [if_pos fourDigits]
  exact ⟨_, by simp only [dayText, List.append_assoc, List.cons_append]; rfl⟩

section Days

variable {days : Nat} (within : days < lastDay)

include within

theorem parseDay_dayText : parseDay (dayText days) = some days := by
  obtain ⟨isDate, number⟩ := civil_spec days
  have year := length_padded (show 0 < 4 by decide) (year_of_lt_lastDay within)
  have month := length_padded (show 0 < 2 by decide)
    (show (civil days).2.1 < 10 ^ 2 by have months := isDate.months; omega)
  have day := length_padded (show 0 < 2 by decide)
    (show (civil days).2.2 < 10 ^ 2 by
      have inMonth := isDate.days
      have short := monthLength_le (IsLeap (civil days).1) (civil days).2.1
      omega)
  obtain ⟨length, yearPart, first, monthPart, second, dayPart⟩ := date_parts year month day
  unfold parseDay dayText
  simp only [length, yearPart, first, monthPart, second, dayPart, numberOf_padded]
  have digits : (padded 4 (civil days).1 ++ padded 2 (civil days).2.1 ++
      padded 2 (civil days).2.2).all isDigit = true := by
    rw [List.all_append, List.all_append, all_isDigit_padded, all_isDigit_padded,
      all_isDigit_padded]
    rfl
  rw [if_pos ⟨trivial, trivial, trivial, digits, isDate⟩, number]

theorem isoDate_eq : isoDate days = dayText days := by
  have midnight : days * 86400 * 1000000 / 1000000 / 86400 = days := by
    rw [Nat.mul_div_cancel _ (by decide), Nat.mul_div_cancel _ (by decide)]
  have length := fixedWidth_dayText.length within
  obtain ⟨clock, whole⟩ := toISOString_eq (days * 86400 * 1000000)
    (by rw [midnight]; exact year_of_lt_lastDay within)
  rw [midnight] at whole
  rw [isoDate, whole, List.take_append_of_le_length length.ge, List.take_of_length_le length.le]

end Days

/-- The Monday of the week of a day. -/
def monday (days : Nat) : Nat := days - (weekday days - 1)

def thursday (days : Nat) : Nat := days + 4 - weekday days

def weekYear (days : Nat) : Nat := (civil (thursday days)).1

def weekNumber (days : Nat) : Nat := (thursday days - yearStart (weekYear days)) / 7 + 1

variable (days : Nat)

theorem monday_eq : monday days = days - days % 7 := by
  unfold monday weekday
  omega

theorem weekday_monday :
    weekday (monday days) = 1 ∧ monday days ≤ days ∧ days < monday days + 7 := by
  rw [monday_eq]
  unfold weekday
  omega

theorem thursday_eq : thursday days = monday days + 3 := by
  rw [monday_eq]
  unfold thursday weekday
  omega

private theorem monday_monday : monday (monday days) = monday days := by
  rw [monday_eq, monday_eq]
  omega

theorem thursday_monday : thursday (monday days) = thursday days := by
  rw [thursday_eq, thursday_eq, monday_monday]

theorem week_monday :
    weekYear (monday days) = weekYear days ∧ weekNumber (monday days) = weekNumber days := by
  have same := thursday_monday days
  constructor
  · rw [weekYear, weekYear, same]
  · rw [weekNumber, weekNumber, weekYear, weekYear, same]

theorem thursday_mem_weekYear :
    yearStart (weekYear days) ≤ thursday days ∧
      thursday days < yearStart (weekYear days) + 366 := by
  obtain ⟨isDate, number⟩ := civil_spec (thursday days)
  have yearEnd := dayNumber_lt_yearEnd isDate
  have length : yearLength (weekYear days) ≤ 366 := by
    unfold yearLength
    split <;> omega
  rw [number] at yearEnd
  unfold dayNumber at number
  unfold weekYear at length ⊢
  omega

theorem weekNumber_lt : weekNumber days < 10 ^ 2 := by
  have inYear := thursday_mem_weekYear days
  unfold weekNumber
  omega

theorem weeks_from_firstMonday {start day : Nat} (isThursday : day % 7 = 3) (inYear : start ≤ day) :
    start + 3 + 1 - weekday (start + 3) + ((day - start) / 7 + 1) * 7 - 7 = day - 3 := by
  unfold weekday
  omega

section Year

variable {days : Nat}

theorem dayNumber_firstOfJanuary (year : Nat) : dayNumber year 1 1 = yearStart year := by
  simp [dayNumber, monthStart, daysBeforeMonth]

theorem dayNumber_fourthOfJanuary (year : Nat) : dayNumber year 1 4 = yearStart year + 3 := by
  simp [dayNumber, monthStart, daysBeforeMonth]

theorem yearStart_le_of_le {year later : Nat} (positive : 1 ≤ year) (ordered : year ≤ later) :
    yearStart year ≤ yearStart later := by
  rcases ordered.eq_or_lt with rfl | before
  · exact le_rfl
  · exact (Nat.le_add_right _ _).trans (yearStart_add_le positive before)

theorem days_of_year (atLeast : 1000 ≤ (civil days).1) (atMost : (civil days).1 ≤ 9999) :
    yearStart 1000 ≤ days ∧ days < lastDay := by
  obtain ⟨isDate, number⟩ := civil_spec days
  have yearEnd := dayNumber_lt_yearEnd isDate
  have start := yearStart_le_of_le (by decide) atLeast
  have finish : yearStart (civil days).1 + yearLength (civil days).1 ≤ yearStart 10000 :=
    yearStart_add_le isDate.first (by omega)
  rw [number] at yearEnd
  unfold dayNumber at number
  unfold lastDay
  omega

theorem thursday_ge (first : yearStart 1000 ≤ days) : yearStart 1000 ≤ thursday days := by
  have start : yearStart 1000 = 364877 := by decide
  rw [start] at first ⊢
  unfold thursday weekday
  omega

private theorem thursday_lt (last : days < lastDay) : thursday days < lastDay := by
  have finish : lastDay = 3652059 := by decide
  rw [finish] at last ⊢
  unfold thursday weekday
  omega

variable (first : yearStart 1000 ≤ thursday days) (last : days < lastDay)

include first last

theorem weekYear_bounds : 1000 ≤ weekYear days ∧ weekYear days < 10000 := by
  refine ⟨?_, year_of_lt_lastDay (thursday_lt last)⟩
  by_contra early
  have inYear := thursday_mem_weekYear days
  have positive := (civil_spec (thursday days)).1.first
  change 1 ≤ weekYear days at positive
  have before : yearStart (weekYear days) + yearLength (weekYear days) ≤ yearStart 1000 :=
    yearStart_add_le positive (by omega)
  have whole : 365 ≤ yearLength (weekYear days) := by
    unfold yearLength
    split <;> omega
  obtain ⟨isDate, number⟩ := civil_spec (thursday days)
  have yearEnd := dayNumber_lt_yearEnd isDate
  rw [number] at yearEnd
  change thursday days < yearStart (weekYear days) + yearLength (weekYear days) at yearEnd
  omega

theorem weekValueFromDate_eq : weekValueFromDate (dayText days) =
    padded 4 (weekYear days) ++ ("-W" : Text) ++ padded 2 (weekNumber days) := by
  obtain ⟨atLeast, below⟩ := weekYear_bounds first last
  have inYear := (thursday_mem_weekYear days).1
  have january : januaryDay (weekYear days) 1 = yearStart (weekYear days) := by
    rw [januaryDay, if_neg (by omega), dayNumber_firstOfJanuary]
  have week : ((thursday days : Int) - yearStart (weekYear days) + 1 + 6) / 7 =
      Int.ofNat (weekNumber days) := by
    unfold weekNumber
    simp only [Int.ofNat_eq_natCast]
    omega
  have year := decimal_year atLeast below
  unfold weekValueFromDate
  rw [parseDay_dayText last]
  change decimal (weekYear days) ++ ("-W" : Text) ++
    padTwo (intText (((thursday days : Int) - januaryDay (weekYear days) 1 + 1 + 6) / 7)) = _
  rw [january, week, padTwo_ofNat, year]

theorem dateValueFromWeek_eq : dateValueFromWeek (weekValueFromDate (dayText days)) =
    dayText (monday days) := by
  obtain ⟨atLeast, below⟩ := weekYear_bounds first last
  have inYear := (thursday_mem_weekYear days).1
  obtain ⟨length, yearPart, mark, weekPart⟩ := week_parts
    (length_padded (show 0 < 4 by decide) below)
    (length_padded (show 0 < 2 by decide) (weekNumber_lt days))
  have january : januaryDay (weekYear days) 4 = yearStart (weekYear days) + 3 := by
    rw [januaryDay, if_neg (by omega), dayNumber_fourthOfJanuary]
  have isThursday : thursday days % 7 = 3 := by
    unfold thursday weekday
    omega
  have back := weeks_from_firstMonday isThursday inYear
  have within : monday days < lastDay := (weekday_monday days).2.1.trans_lt last
  have start : thursday days - 3 = monday days := by
    rw [thursday_eq, Nat.add_sub_cancel]
  have digits : (padded 4 (weekYear days) ++ padded 2 (weekNumber days)).all isDigit = true := by
    rw [List.all_append, all_isDigit_padded, all_isDigit_padded]
    rfl
  rw [weekValueFromDate_eq first last]
  unfold dateValueFromWeek
  simp only [length, yearPart, mark, weekPart, numberOf_padded]
  rw [if_pos ⟨trivial, trivial, digits⟩]
  unfold isoWeekStart
  simp only [january]
  rw [weekNumber, back, start, isoDate_eq within]

theorem weekValueFromDate_monday :
    weekValueFromDate (dayText (monday days)) = weekValueFromDate (dayText days) := by
  have within : monday days < lastDay := (weekday_monday days).2.1.trans_lt last
  have firstMonday : yearStart 1000 ≤ thursday (monday days) := (thursday_monday days).symm ▸ first
  rw [weekValueFromDate_eq firstMonday within, weekValueFromDate_eq first last,
    (week_monday days).1, (week_monday days).2]

end Year

theorem dayText_inj {days other : Nat} (within : days < lastDay) (otherWithin : other < lastDay)
    (same : dayText days = dayText other) : days = other := by
  have equal : some days = some other := by
    rw [← parseDay_dayText within, ← parseDay_dayText otherWithin, same]
  exact Option.some.inj equal

theorem weekValueFromDate_eq_iff {days other : Nat} (first : yearStart 1000 ≤ thursday days)
    (last : days < lastDay) (otherFirst : yearStart 1000 ≤ thursday other)
    (otherLast : other < lastDay) :
    weekValueFromDate (dayText days) = weekValueFromDate (dayText other) ↔
      monday days = monday other := by
  constructor
  · intro same
    have mondays : dayText (monday days) = dayText (monday other) := by
      rw [← dateValueFromWeek_eq first last, same, dateValueFromWeek_eq otherFirst otherLast]
    exact dayText_inj ((weekday_monday days).2.1.trans_lt last)
      ((weekday_monday other).2.1.trans_lt otherLast) mondays
  · intro same
    rw [← weekValueFromDate_monday first last, same, weekValueFromDate_monday otherFirst otherLast]

/-- The week of a date of the years 1000 to 9999 leads back to the Monday of its week; this Monday
has the same week value, and so have just the dates of its week. -/
theorem deliveryWeek_roundtrip (days : Nat) (atLeast : 1000 ≤ (civil days).1)
    (atMost : (civil days).1 ≤ 9999) :
    (weekday (monday days) = 1 ∧ monday days ≤ days ∧ days < monday days + 7) ∧
      dateValueFromWeek (weekValueFromDate (dayText days)) = dayText (monday days) ∧
      weekValueFromDate (dayText (monday days)) = weekValueFromDate (dayText days) ∧
      ∀ other, 1000 ≤ (civil other).1 → (civil other).1 ≤ 9999 →
        (weekValueFromDate (dayText days) = weekValueFromDate (dayText other) ↔
          monday days = monday other) := by
  obtain ⟨first, last⟩ := days_of_year atLeast atMost
  have week := thursday_ge first
  refine ⟨weekday_monday days, dateValueFromWeek_eq week last,
    weekValueFromDate_monday week last, ?_⟩
  intro other otherAtLeast otherAtMost
  obtain ⟨otherFirst, otherLast⟩ := days_of_year otherAtLeast otherAtMost
  exact weekValueFromDate_eq_iff week last (thursday_ge otherFirst) otherLast

/-- New Year's Day of 2027 lies in the last of the 53 weeks of 2026. -/
theorem deliveryWeek_roundtrip_newYear :
    weekValueFromDate ("2027-01-01" : Text) = ("2026-W53" : Text) ∧
      dateValueFromWeek (weekValueFromDate (dayText (dayNumber 2027 1 1))) =
        dayText (monday (dayNumber 2027 1 1)) :=
  ⟨by decide,
    (deliveryWeek_roundtrip (dayNumber 2027 1 1) (by decide) (by decide)).2.1⟩

end SkillCentric.Crm.PurchaseContract
