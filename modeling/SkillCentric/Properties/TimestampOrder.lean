import SkillCentric.Runtime.Calendar

/-!
# Timestamps in string order

The in-memory store compares timestamps as texts.  The text of a whole second ends in `Z` where the
others go on with a dot, and the dot comes before the letter.
-/

namespace SkillCentric

open Datetime

namespace TimestampOrder

def fraction (micros : Nat) : Text := (if micros = 0 then [] else '.' :: padded 6 micros) ++ ['Z']

theorem isoTimestamp_eq (time : Datetime) :
    isoTimestamp time = secondText (time / 1000000) ++ fraction (time % 1000000) := by
  simp [isoTimestamp, secondText, dayText, clockText, fraction]

theorem fraction_zero : fraction 0 = ['Z'] := rfl

theorem fraction_of_ne {micros : Nat} (part : micros ≠ 0) :
    fraction micros = ['.'] ++ (padded 6 micros ++ ['Z']) := by
  rw [fraction, if_neg part]
  rfl

theorem fraction_lt_iff {micros other : Nat} (small : micros < 1000000)
    (otherSmall : other < 1000000) :
    fraction micros < fraction other ↔
      micros ≠ 0 ∧ (other = 0 ∨ micros < other) := by
  have six := fixedWidth_padded (show 0 < 6 by decide)
  by_cases part : micros = 0
  · subst part
    refine iff_of_false ?_ fun less => less.1 rfl
    by_cases otherPart : other = 0
    · subst otherPart
      exact lt_irrefl _
    · rw [fraction_zero, fraction_of_ne otherPart]
      change ¬ 'Z' :: [] < '.' :: _
      rw [List.cons_lt_cons_iff]
      exact fun less => less.elim (by decide) fun same => absurd same.1 (by decide)
  · rw [fraction_of_ne part]
    by_cases otherPart : other = 0
    · subst otherPart
      refine iff_of_true ?_ ⟨part, .inl rfl⟩
      rw [fraction_zero]
      exact List.cons_lt_cons_iff.mpr (.inl (by decide))
    · rw [fraction_of_ne otherPart, append_lt_append_iff rfl]
      have order := six.lt_iff small otherSmall
      have same : (padded 6 micros).length = (padded 6 other).length :=
        (six.length small).trans (six.length otherSmall).symm
      change padded 6 micros < padded 6 other ↔ _ at order
      rw [append_lt_append_iff same, order]
      simp [part, otherPart]

variable {first second : Nat} (firstWithin : first < lastDay * 86400 * 1000000)
  (secondWithin : second < lastDay * 86400 * 1000000)

include firstWithin secondWithin in
theorem isoTimestamp_lt_iff :
    isoTimestamp first < isoTimestamp second ↔
      first / 1000000 < second / 1000000 ∨ first / 1000000 = second / 1000000 ∧
        first % 1000000 ≠ 0 ∧ (second % 1000000 = 0 ∨ first % 1000000 < second % 1000000) := by
  have seconds (time : Nat) (within : time < lastDay * 86400 * 1000000) :
      time / 1000000 < lastDay * 86400 :=
    Nat.div_lt_of_lt_mul ((Nat.mul_comm _ _).symm ▸ within)
  have wide := fixedWidth_secondText
  have firstSeconds := seconds first firstWithin
  have secondSeconds := seconds second secondWithin
  rw [isoTimestamp_eq, isoTimestamp_eq,
    append_lt_append_iff ((wide.length firstSeconds).trans (wide.length secondSeconds).symm),
    wide.lt_iff firstSeconds secondSeconds, wide.eq_iff firstSeconds secondSeconds,
    fraction_lt_iff (Nat.mod_lt _ (by decide)) (Nat.mod_lt _ (by decide))]
  exact or_congr_right (and_congr_left' (by omega))

include firstWithin secondWithin in
theorem isoTimestamp_le_iff :
    (isoTimestamp first ≤ isoTimestamp second ↔ first ≤ second) ↔
      (first / 1000000 = second / 1000000 → (first % 1000000 = 0 ↔ second % 1000000 = 0)) := by
  rw [← not_lt, isoTimestamp_lt_iff secondWithin firstWithin]
  omega

end TimestampOrder

/-- The texts of two clock readings up to the year 9999 are in order if and only if they do not lie
in the same second with just one of them at its start. -/
theorem isoTimestamp_order (first second : Datetime)
    (firstWithin : first < lastDay * 86400 * 1000000)
    (secondWithin : second < lastDay * 86400 * 1000000) :
    (isoTimestamp first ≤ isoTimestamp second ↔ first ≤ second) ↔
      (first / 1000000 = second / 1000000 →
        (first % 1000000 = 0 ↔ second % 1000000 = 0)) :=
  TimestampOrder.isoTimestamp_le_iff firstWithin secondWithin

theorem isoTimestamp_order_hours :
    isoTimestamp 63918493200000000 ≤ isoTimestamp 63918496800250000 ↔
      63918493200000000 ≤ 63918496800250000 :=
  (isoTimestamp_order 63918493200000000 63918496800250000 (by decide) (by decide)).mpr
    fun same => absurd same (by decide)

/-- Nine o'clock sharp is after a quarter of a second past nine. -/
theorem quarter_second_first :
    ¬(isoTimestamp 63918493200000000 ≤ isoTimestamp 63918493200250000 ↔
      63918493200000000 ≤ 63918493200250000) := by
  decide

end SkillCentric
