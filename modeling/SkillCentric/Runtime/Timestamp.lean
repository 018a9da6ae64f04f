import SkillCentric.Runtime.Slug

/-!
# Timestamps

Clock readings are microseconds since the start of year 1, in UTC.  `isoTimestamp` writes them the
way the runtime stores them: the fraction is left out when it is zero, and the offset is `Z`.
-/

namespace SkillCentric

/-- A clock reading: microseconds since 0001-01-01T00:00:00Z. -/
abbrev Datetime := Nat

namespace Datetime

/-- Move a clock reading by a number of microseconds. -/
def plusMicros (time : Datetime) (delta : Int) : Datetime := ((time : Int) + delta).toNat

/-- Move a clock reading by a number of seconds. -/
def plusSeconds (time : Datetime) (seconds : Int) : Datetime := time.plusMicros (seconds * 1000000)

/-- Days before each month of a common year, January first. -/
def daysBeforeMonth : List Nat := [0, 31, 59, 90, 120, 151, 181, 212, 243, 273, 304, 334]

/-- Year, month and day of a day count since 0001-01-01 in the proleptic Gregorian calendar. -/
def civil (days : Nat) : Nat × Nat × Nat :=
  let n400 := days / 146097
  let n := days % 146097
  let n100 := n / 36524
  let n := n % 36524
  let n4 := n / 1461
  let n := n % 1461
  let n1 := n / 365
  let n := n % 365
  let year := n400 * 400 + 1 + n100 * 100 + n4 * 4 + n1
  if n1 = 4 ∨ n100 = 4 then (year - 1, 12, 31)
  else
    let leap := n1 = 3 ∧ (n4 ≠ 24 ∨ n100 = 3)
    let before (month : Nat) : Nat :=
      daysBeforeMonth.getD (month - 1) 0 + if month > 2 ∧ leap then 1 else 0
    let estimate := (n + 50) / 32
    let month := if before estimate > n then estimate - 1 else estimate
    (year, month, n - before month + 1)

/-- Decimal notation padded with zeros on the left. -/
def padded (width n : Nat) : Text :=
  List.replicate (width - (decimal n).length) '0' ++ decimal n

end Datetime

open Datetime

/-- `iso_timestamp`. -/
def isoTimestamp (time : Datetime) : Text :=
  let micros := time % 1000000
  let seconds := time / 1000000
  let (year, month, day) := civil (seconds / 86400)
  let inDay := seconds % 86400
  padded 4 year ++ '-' :: padded 2 month ++ '-' :: padded 2 day ++ 'T' :: padded 2 (inDay / 3600) ++
    ':' :: padded 2 (inDay % 3600 / 60) ++ ':' :: padded 2 (inDay % 60) ++
    (if micros = 0 then [] else '.' :: padded 6 micros) ++ ['Z']

example : isoTimestamp 63918493200000000 = ("2026-07-01T09:00:00Z" : Text) := by decide

example : isoTimestamp 63918493200250000 = ("2026-07-01T09:00:00.250000Z" : Text) := by decide

end SkillCentric
