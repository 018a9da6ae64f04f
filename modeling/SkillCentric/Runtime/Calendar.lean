import SkillCentric.Library.FixedWidth
import SkillCentric.Runtime.Timestamp

/-!
# The Gregorian calendar

`civil` turns a day count into a year, a month and a day; `dayNumber` counts back.  The date in
words, `2026-07-01`, orders the days of the years up to 9999.
-/

namespace SkillCentric.Datetime

/-- A leap year. -/
def IsLeap (year : Nat) : Prop := year % 4 = 0 ∧ (year % 100 ≠ 0 ∨ year % 400 = 0)

instance (year : Nat) : Decidable (IsLeap year) :=
  inferInstanceAs (Decidable (year % 4 = 0 ∧ (year % 100 ≠ 0 ∨ year % 400 = 0)))

/-- The day count of the first of January. -/
def yearStart (year : Nat) : Nat :=
  365 * (year - 1) + (year - 1) / 4 - (year - 1) / 100 + (year - 1) / 400

/-- The days of a year before a month. -/
def monthStart (leap : Prop) [Decidable leap] (month : Nat) : Nat :=
  daysBeforeMonth.getD (month - 1) 0 + if month > 2 ∧ leap then 1 else 0

/-- The days of a month. -/
def monthLength (leap : Prop) [Decidable leap] (month : Nat) : Nat :=
  [31, if leap then 29 else 28, 31, 30, 31, 30, 31, 31, 30, 31, 30, 31].getD (month - 1) 0

/-- The day count of a date. -/
def dayNumber (year month day : Nat) : Nat :=
  yearStart year + monthStart (IsLeap year) month + (day - 1)

/-- A date of the calendar. -/
structure IsDate (year month day : Nat) : Prop where
  first : 1 ≤ year
  months : 1 ≤ month ∧ month ≤ 12
  days : 1 ≤ day ∧ day ≤ monthLength (IsLeap year) month

instance (year month day : Nat) : Decidable (IsDate year month day) :=
  decidable_of_iff (1 ≤ year ∧ (1 ≤ month ∧ month ≤ 12) ∧
      (1 ≤ day ∧ day ≤ monthLength (IsLeap year) month))
    ⟨fun ⟨first, months, days⟩ => ⟨first, months, days⟩,
      fun ⟨first, months, days⟩ => ⟨first, months, days⟩⟩

/-- The number of days of a year. -/
def yearLength (year : Nat) : Nat := if IsLeap year then 366 else 365

theorem yearStart_succ {year : Nat} (positive : 1 ≤ year) :
    yearStart (year + 1) = yearStart year + yearLength year := by
  obtain ⟨past, rfl⟩ := Nat.exists_eq_add_of_le' positive
  have below : past / 100 ≤ past / 4 := Nat.div_le_div_left (by decide) (by decide)
  have leap_iff : IsLeap (past + 1) ↔ 4 ∣ past + 1 ∧ (¬100 ∣ past + 1 ∨ 400 ∣ past + 1) := by
    simp only [IsLeap, Nat.dvd_iff_mod_eq_zero, ne_eq]
  have leap_of_century : 100 ∣ past + 1 → 4 ∣ past + 1 := (by decide : 4 ∣ 100).trans
  have century : 400 ∣ past + 1 → 100 ∣ past + 1 := (by decide : 100 ∣ 400).trans
  unfold yearStart yearLength
  simp only [Nat.add_sub_cancel, Nat.succ_div, leap_iff]
  by_cases fourth : 4 ∣ past + 1
  · by_cases hundredth : 100 ∣ past + 1
    · by_cases last : 400 ∣ past + 1
      · simp only [fourth, hundredth, last, if_true, not_true, false_or, and_self]
        omega
      · simp only [fourth, hundredth, last, if_true, if_false, not_true, or_self, and_false]
        omega
    · have last : ¬400 ∣ past + 1 := fun divides => hundredth (century divides)
      simp only [fourth, hundredth, last, if_true, if_false, not_false_eq_true, true_or, and_self]
      omega
  · have hundredth : ¬100 ∣ past + 1 := fun divides => fourth (leap_of_century divides)
    have last : ¬400 ∣ past + 1 := fun divides => hundredth (century divides)
    simp only [fourth, hundredth, last, if_false, false_and]
    omega

theorem yearStart_add_le {year later : Nat} (positive : 1 ≤ year) (before : year < later) :
    yearStart year + yearLength year ≤ yearStart later := by
  induction later, before using Nat.le_induction with
  | base => exact (yearStart_succ positive).ge
  | succ later before ih =>
      have next := yearStart_succ (positive.trans (Nat.le_of_lt before))
      omega

/-- The month that a day of a year lies in, as `civil` finds it. -/
theorem month_of_day (leap : Bool) (day : Nat) (inYear : day < 365) :
    let before (month : Nat) : Nat := monthStart (leap = true) month
    let estimate := (day + 50) / 32
    let month := if before estimate > day then estimate - 1 else estimate
    (1 ≤ month ∧ month ≤ 12) ∧ before month ≤ day ∧
      day - before month + 1 ≤ monthLength (leap = true) month := by
  have all : ∀ leap : Bool, ∀ day : Fin 365,
      let before (month : Nat) : Nat := monthStart (leap = true) month
      let estimate := (day.val + 50) / 32
      let month := if before estimate > day.val then estimate - 1 else estimate
      (1 ≤ month ∧ month ≤ 12) ∧ before month ≤ day.val ∧
        day.val - before month + 1 ≤ monthLength (leap = true) month := by
    decide +kernel
  exact all leap ⟨day, inYear⟩

theorem month_within (leap : Bool) (month : Nat) (months : 1 ≤ month ∧ month ≤ 12) :
    monthStart (leap = true) month + monthLength (leap = true) month ≤
      if leap then 366 else 365 := by
  have all : ∀ leap : Bool, ∀ month : Fin 13, 1 ≤ month.val →
      monthStart (leap = true) month.val + monthLength (leap = true) month.val ≤
        if leap then 366 else 365 := by
    decide
  exact all leap ⟨month, by omega⟩ months.1

theorem monthStart_add_le (leap : Bool) (month later : Nat) (first : 1 ≤ month)
    (before : month < later)
    (last : later ≤ 12) :
    monthStart (leap = true) month + monthLength (leap = true) month ≤
      monthStart (leap = true) later := by
  have all : ∀ leap : Bool, ∀ later : Fin 13, ∀ month : Fin 13, 1 ≤ month.val →
      month.val < later.val →
        monthStart (leap = true) month.val + monthLength (leap = true) month.val ≤
          monthStart (leap = true) later.val := by
    decide
  exact all leap ⟨later, by omega⟩ ⟨month, by omega⟩ first before

theorem monthLength_le (leap : Prop) [Decidable leap] (month : Nat) :
    monthLength leap month ≤ 31 := by
  have all : ∀ days ∈ [31, if leap then 29 else 28, 31, 30, 31, 30, 31, 31, 30, 31, 30, 31],
      days ≤ 31 := by
    intro days member
    simp only [List.mem_cons, List.not_mem_nil, or_false] at member
    split at member <;> omega
  unfold monthLength
  rw [List.getD_eq_getElem?_getD]
  cases found : ([31, if leap then 29 else 28, 31, 30, 31, 30, 31, 31, 30, 31, 30, 31])[month -
    1]? with
  | none => exact Nat.zero_le _
  | some days => exact all days (List.mem_of_getElem? found)

section Convert

variable {leap : Prop} [Decidable leap]

theorem monthStart_decide (month : Nat) :
    monthStart (decide leap = true) month = monthStart leap month := by
  simp [monthStart]

theorem monthLength_decide (month : Nat) :
    monthLength (decide leap = true) month = monthLength leap month := by
  simp [monthLength]

theorem monthStart_congr {other : Prop} [Decidable other] (same : leap ↔ other) (month : Nat) :
    monthStart leap month = monthStart other month := by
  simp [monthStart, same]

theorem monthLength_congr {other : Prop} [Decidable other] (same : leap ↔ other) (month : Nat) :
    monthLength leap month = monthLength other month := by
  simp [monthLength, same]

end Convert

section Cycles

variable {q b c e : Nat} (century : b ≤ 3) (fourYears : c ≤ 24) (year : e ≤ 3)

include century fourYears year

theorem yearStart_cycles :
    yearStart (q * 400 + 1 + b * 100 + c * 4 + e) =
      146097 * q + 36524 * b + 1461 * c + 365 * e := by
  have past : q * 400 + 1 + b * 100 + c * 4 + e - 1 = 400 * q + 100 * b + 4 * c + e := by omega
  have fours : (400 * q + 100 * b + 4 * c + e) / 4 = 100 * q + 25 * b + c := by omega
  have hundreds : (400 * q + 100 * b + 4 * c + e) / 100 = 4 * q + b := by omega
  have fourHundreds : (400 * q + 100 * b + 4 * c + e) / 400 = q := by omega
  rw [yearStart, past, fours, hundreds, fourHundreds]
  omega

theorem isLeap_cycles :
    IsLeap (q * 400 + 1 + b * 100 + c * 4 + e) ↔ e = 3 ∧ (c ≠ 24 ∨ b = 3) := by
  have fours : (q * 400 + 1 + b * 100 + c * 4 + e) % 4 = 0 ↔ e = 3 := by omega
  have hundreds : (q * 400 + 1 + b * 100 + c * 4 + e) % 100 = 0 ↔ e = 3 ∧ c = 24 := by omega
  have fourHundreds : (q * 400 + 1 + b * 100 + c * 4 + e) % 400 = 0 ↔ e = 3 ∧ c = 24 ∧ b = 3 := by
    omega
  rw [IsLeap, fours, ne_eq, hundreds, fourHundreds]
  omega

end Cycles

theorem civil_spec (days : Nat) :
    IsDate (civil days).1 (civil days).2.1 (civil days).2.2 ∧
      dayNumber (civil days).1 (civil days).2.1 (civil days).2.2 = days := by
  obtain ⟨q, q_eq⟩ : ∃ q, days / 146097 = q := ⟨_, rfl⟩
  obtain ⟨b, b_eq⟩ : ∃ b, days % 146097 / 36524 = b := ⟨_, rfl⟩
  obtain ⟨c, c_eq⟩ : ∃ c, days % 146097 % 36524 / 1461 = c := ⟨_, rfl⟩
  obtain ⟨e, e_eq⟩ : ∃ e, days % 146097 % 36524 % 1461 / 365 = e := ⟨_, rfl⟩
  obtain ⟨k, k_eq⟩ : ∃ k, days % 146097 % 36524 % 1461 % 365 = k := ⟨_, rfl⟩
  have century : b ≤ 4 := by omega
  have fourYears : c ≤ 24 := by omega
  have year : e ≤ 4 := by omega
  have day : k < 365 := by omega
  have lastCentury : b = 4 → c = 0 ∧ e = 0 ∧ k = 0 := by omega
  have lastYear : e = 4 → b ≤ 3 ∧ c ≤ 23 ∧ k = 0 := by omega
  have total : days = 146097 * q + 36524 * b + 1461 * c + 365 * e + k := by omega
  unfold civil
  simp only [q_eq, b_eq, c_eq, e_eq, k_eq]
  clear q_eq b_eq c_eq e_eq k_eq
  by_cases last : e = 4 ∨ b = 4
  · -- the last day of a leap year
    rw [if_pos last]
    obtain ⟨b', c', b_le, c_le, apart, same, start⟩ : ∃ b' c', b' ≤ 3 ∧ c' ≤ 24 ∧
        (c' ≠ 24 ∨ b' = 3) ∧ q * 400 + 1 + b * 100 + c * 4 + e - 1 =
          q * 400 + 1 + b' * 100 + c' * 4 + 3 ∧
        days = 146097 * q + 36524 * b' + 1461 * c' + 365 * 3 + 365 := by
      rcases last with year | century
      · exact ⟨b, c, by omega⟩
      · exact ⟨3, 24, by omega⟩
    have leap : IsLeap (q * 400 + 1 + b' * 100 + c' * 4 + 3) :=
      (isLeap_cycles b_le c_le le_rfl).mpr ⟨rfl, apart⟩
    dsimp only
    rw [same, dayNumber, yearStart_cycles b_le c_le le_rfl, monthStart_congr (iff_true_intro leap)]
    refine ⟨⟨by omega, by decide, by decide, ?_⟩, ?_⟩
    · rw [monthLength_congr (iff_true_intro leap)]
      decide
    · have december : monthStart True 12 = 335 := by decide
      omega
  · rw [if_neg last]
    have leap := isLeap_cycles (q := q) (b := b) (c := c) (e := e) (by omega) fourYears (by omega)
    obtain ⟨months, started, ends⟩ := month_of_day (decide (e = 3 ∧ (c ≠ 24 ∨ b = 3))) k day
    simp only [monthStart_decide, monthLength_decide] at months started ends
    change IsDate _ (if monthStart (e = 3 ∧ (c ≠ 24 ∨ b = 3)) ((k + 50) / 32) > k
        then (k + 50) / 32 - 1 else (k + 50) / 32)
      (k - monthStart (e = 3 ∧ (c ≠ 24 ∨ b = 3)) (if monthStart (e = 3 ∧ (c ≠ 24 ∨ b = 3))
        ((k + 50) / 32) > k then (k + 50) / 32 - 1 else (k + 50) / 32) + 1) ∧
      dayNumber _ (if monthStart (e = 3 ∧ (c ≠ 24 ∨ b = 3)) ((k + 50) / 32) > k
        then (k + 50) / 32 - 1 else (k + 50) / 32)
      (k - monthStart (e = 3 ∧ (c ≠ 24 ∨ b = 3)) (if monthStart (e = 3 ∧ (c ≠ 24 ∨ b = 3))
        ((k + 50) / 32) > k then (k + 50) / 32 - 1 else (k + 50) / 32) + 1) = days
    generalize (if monthStart (e = 3 ∧ (c ≠ 24 ∨ b = 3)) ((k + 50) / 32) > k
      then (k + 50) / 32 - 1 else (k + 50) / 32) = month at months started ends ⊢
    rw [dayNumber, yearStart_cycles (by omega) fourYears (by omega), monthStart_congr leap]
    refine ⟨⟨by omega, months, by omega, ?_⟩, by omega⟩
    rwa [monthLength_congr leap]

/-- An earlier year, or the same year and an earlier month, or an earlier day of the same month. -/
def DateBefore (date other : Nat × Nat × Nat) : Prop :=
  date.1 < other.1 ∨ date.1 = other.1 ∧
    (date.2.1 < other.2.1 ∨ date.2.1 = other.2.1 ∧ date.2.2 < other.2.2)

section Order

variable {year month day laterYear laterMonth laterDay : Nat}

theorem dayNumber_lt_yearEnd (date : IsDate year month day) :
    dayNumber year month day < yearStart year + yearLength year := by
  have within := month_within (decide (IsLeap year)) month date.months
  rw [monthStart_decide, monthLength_decide] at within
  have length : (if decide (IsLeap year) = true then 366 else 365) = yearLength year := by
    simp [yearLength]
  have days := date.days
  unfold dayNumber
  omega

theorem dayNumber_lt (date : IsDate year month day) (later : IsDate laterYear laterMonth laterDay)
    (before : DateBefore (year, month, day) (laterYear, laterMonth, laterDay)) :
    dayNumber year month day < dayNumber laterYear laterMonth laterDay := by
  have days := date.days
  rcases before with earlier | ⟨sameYear, earlier | ⟨sameMonth, earlier⟩⟩
  · change year < laterYear at earlier
    have yearEnd := dayNumber_lt_yearEnd date
    have nextYear := yearStart_add_le date.first earlier
    have inYear : yearStart laterYear ≤ dayNumber laterYear laterMonth laterDay := by
      unfold dayNumber
      omega
    omega
  · dsimp only at sameYear earlier
    subst sameYear
    have nextMonth :=
      monthStart_add_le (decide (IsLeap year)) month laterMonth date.months.1 earlier
      later.months.2
    rw [monthStart_decide, monthLength_decide, monthStart_decide] at nextMonth
    unfold dayNumber
    omega
  · dsimp only at sameYear sameMonth earlier
    subst sameYear sameMonth
    unfold dayNumber
    omega

theorem civil_lt_iff (first second : Nat) :
    DateBefore (civil first) (civil second) ↔ first < second := by
  obtain ⟨firstDate, firstDay⟩ := civil_spec first
  obtain ⟨secondDate, secondDay⟩ := civil_spec second
  constructor
  · intro before
    have less := dayNumber_lt firstDate secondDate before
    rwa [firstDay, secondDay] at less
  · intro less
    by_contra not_before
    have apart : civil first ≠ civil second := by
      intro same
      rw [← firstDay, ← secondDay, same] at less
      exact lt_irrefl _ less
    have after : DateBefore (civil second) (civil first) := by
      have parts : ¬((civil first).1 = (civil second).1 ∧ (civil first).2.1 = (civil second).2.1 ∧
          (civil first).2.2 = (civil second).2.2) :=
        fun same => apart (Prod.ext same.1 (Prod.ext same.2.1 same.2.2))
      unfold DateBefore at not_before ⊢
      omega
    have more := dayNumber_lt secondDate firstDate after
    rw [firstDay, secondDay] at more
    omega

end Order

/-- The first day of the year 10000. -/
def lastDay : Nat := yearStart 10000

theorem year_of_lt_lastDay {days : Nat} (within : days < lastDay) : (civil days).1 < 10000 := by
  obtain ⟨isDate, same⟩ := civil_spec days
  by_contra late
  have start : yearStart 10000 ≤ yearStart (civil days).1 := by
    rcases Nat.lt_or_ge 10000 (civil days).1 with later | same
    · exact (Nat.le_add_right _ _).trans (yearStart_add_le (by decide) later)
    · have equal : (civil days).1 = 10000 := by omega
      rw [equal]
  unfold lastDay at within
  unfold dayNumber at same
  omega

/-- `2026-07-01`. -/
def dayText (days : Nat) : Text :=
  padded 4 (civil days).1 ++ '-' :: padded 2 (civil days).2.1 ++ '-' :: padded 2 (civil days).2.2

/-- `09:00:00`. -/
def clockText (seconds : Nat) : Text :=
  padded 2 (seconds / 3600) ++ ':' :: padded 2 (seconds % 3600 / 60) ++
    ':' :: padded 2 (seconds % 60)

theorem fixedWidth_pair {ι : Type} (valid : ι → Prop) (number : ι → Nat)
    (small : ∀ value, valid value → number value < 100) :
    FixedWidth valid (fun value other => number value < number other)
      (fun value => padded 2 (number value)) 2 :=
  (fixedWidth_padded (by decide)).comap valid number small

theorem fixedWidth_dayText : FixedWidth (· < lastDay) (· < ·) dayText 10 := by
  have year := (fixedWidth_padded (show 0 < 4 by decide)).comap (· < lastDay)
    (fun days => (civil days).1) fun days within => year_of_lt_lastDay within
  have hyphen : FixedWidth (· < lastDay) (fun _ _ => False) (fun _ => ['-']) 1 :=
    FixedWidth.const ['-']
  have month := fixedWidth_pair (· < lastDay) (fun days => (civil days).2.1) fun days _ => by
    have months := (civil_spec days).1.months
    omega
  have day := fixedWidth_pair (· < lastDay) (fun days => (civil days).2.2) fun days _ => by
    have inMonth := (civil_spec days).1.days
    have short := monthLength_le (IsLeap (civil days).1) (civil days).2.1
    omega
  refine ((year.append (hyphen.append (month.append (hyphen.append day)))).congr
    fun {first second} _ _ => ?_).of_eq fun {days} _ => ?_
  · rw [← civil_lt_iff first second]
    unfold DateBefore
    simp only [false_or, not_false_eq_true, and_self, true_and]
    omega
  · simp [dayText, padded, decimal]

theorem fixedWidth_clockText : FixedWidth (· < 86400) (· < ·) clockText 8 := by
  have colon : FixedWidth (· < 86400) (fun _ _ => False) (fun _ => [':']) 1 :=
    FixedWidth.const [':']
  have hours := fixedWidth_pair (· < 86400) (· / 3600) fun seconds within => by
    omega
  have minutes := fixedWidth_pair (· < 86400) (· % 3600 / 60) fun seconds _ => by
    omega
  have rest := fixedWidth_pair (· < 86400) (· % 60) fun seconds _ => by
    omega
  refine ((hours.append (colon.append (minutes.append (colon.append rest)))).congr
    fun {first second} _ _ => ?_).of_eq fun {seconds} _ => ?_
  · simp only [false_or, not_false_eq_true, and_self, true_and]
    omega
  · simp [clockText, padded, decimal]

/-- A point in time to the second, `2026-07-01T09:00:00`. -/
def secondText (seconds : Nat) : Text :=
  dayText (seconds / 86400) ++ 'T' :: clockText (seconds % 86400)

theorem fixedWidth_secondText :
    FixedWidth (· < lastDay * 86400) (· < ·) secondText 19 := by
  have day := fixedWidth_dayText.comap (· < lastDay * 86400) (· / 86400) fun seconds within =>
    Nat.div_lt_of_lt_mul ((Nat.mul_comm _ _).symm ▸ within)
  have letter : FixedWidth (· < lastDay * 86400) (fun _ _ => False) (fun _ => ['T']) 1 :=
    FixedWidth.const ['T']
  have clock := fixedWidth_clockText.comap (· < lastDay * 86400) (· % 86400) fun seconds _ =>
    Nat.mod_lt seconds (by decide)
  refine ((day.append (letter.append clock)).congr fun {first second} _ _ => ?_).of_eq
    fun {seconds} _ => ?_
  · simp only [false_or, not_false_eq_true, and_self, true_and]
    omega
  · simp [secondText]

end SkillCentric.Datetime
