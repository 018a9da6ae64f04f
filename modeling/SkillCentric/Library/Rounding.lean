import Mathlib.Algebra.Order.Floor.Ring
import Mathlib.Data.Rat.Floor
import Mathlib.Tactic

/-!
# Rounding shares

Shares of a whole are rounded one by one, a half upwards.  Three rounded shares add up to the whole
unless their fractions are all below a half, all at least a half, or two halves and nothing.
-/

namespace SkillCentric

/-- The nearest whole number, a half rounded up. -/
def roundHalfUp (x : ℚ) : ℤ := ⌊x + 1 / 2⌋

theorem roundHalfUp_of_lt {x : ℚ} (below : Int.fract x < 1 / 2) : roundHalfUp x = ⌊x⌋ := by
  have split := Int.floor_add_fract x
  have nonneg := Int.fract_nonneg x
  rw [roundHalfUp, Int.floor_eq_iff]
  constructor <;> linarith

theorem roundHalfUp_of_le {x : ℚ} (atLeast : 1 / 2 ≤ Int.fract x) : roundHalfUp x = ⌊x⌋ + 1 := by
  have split := Int.floor_add_fract x
  have below := Int.fract_lt_one x
  rw [roundHalfUp, Int.floor_eq_iff]
  push_cast
  constructor <;> linarith

theorem roundHalfUp_intCast (n : ℤ) : roundHalfUp n = n := by
  rw [roundHalfUp_of_lt (by norm_num), Int.floor_intCast]

theorem roundHalfUp_mono {x y : ℚ} (ordered : x ≤ y) : roundHalfUp x ≤ roundHalfUp y :=
  Int.floor_le_floor (by linarith)

theorem roundHalfUp_le (x : ℚ) : (roundHalfUp x : ℚ) ≤ x + 1 / 2 := Int.floor_le _

theorem le_roundHalfUp_iff {n : ℤ} {x : ℚ} : n ≤ roundHalfUp x ↔ (n : ℚ) - 1 / 2 ≤ x := by
  rw [roundHalfUp, Int.le_floor]
  constructor <;> intro bound <;> linarith

/-- The fractions of three shares that do not add up when rounded. -/
def Uneven (x y z : ℚ) : Prop :=
  (Int.fract x < 1 / 2 ∧ Int.fract y < 1 / 2 ∧ Int.fract z < 1 / 2 ∧
    ¬(Int.fract x = 0 ∧ Int.fract y = 0 ∧ Int.fract z = 0)) ∨
  (1 / 2 ≤ Int.fract x ∧ 1 / 2 ≤ Int.fract y ∧ 1 / 2 ≤ Int.fract z) ∨
  (Int.fract x = 0 ∧ Int.fract y = 1 / 2 ∧ Int.fract z = 1 / 2) ∨
  (Int.fract x = 1 / 2 ∧ Int.fract y = 0 ∧ Int.fract z = 1 / 2) ∨
  (Int.fract x = 1 / 2 ∧ Int.fract y = 1 / 2 ∧ Int.fract z = 0)

instance (x y z : ℚ) : Decidable (Uneven x y z) := by
  unfold Uneven
  infer_instance

theorem Uneven.comm {x y z : ℚ} : Uneven x y z → Uneven y x z
  | .inl ⟨a, b, c, left⟩ =>
    .inl ⟨b, a, c, fun ⟨second, first, third⟩ => left ⟨first, second, third⟩⟩
  | .inr (.inl ⟨a, b, c⟩) => .inr (.inl ⟨b, a, c⟩)
  | .inr (.inr (.inl ⟨a, b, c⟩)) => .inr (.inr (.inr (.inl ⟨b, a, c⟩)))
  | .inr (.inr (.inr (.inl ⟨a, b, c⟩))) => .inr (.inr (.inl ⟨b, a, c⟩))
  | .inr (.inr (.inr (.inr ⟨a, b, c⟩))) => .inr (.inr (.inr (.inr ⟨b, a, c⟩)))

theorem Uneven.rotate {x y z : ℚ} : Uneven x y z → Uneven y z x
  | .inl ⟨a, b, c, left⟩ =>
    .inl ⟨b, c, a, fun ⟨second, third, first⟩ => left ⟨first, second, third⟩⟩
  | .inr (.inl ⟨a, b, c⟩) => .inr (.inl ⟨b, c, a⟩)
  | .inr (.inr (.inl ⟨a, b, c⟩)) => .inr (.inr (.inr (.inr ⟨b, c, a⟩)))
  | .inr (.inr (.inr (.inl ⟨a, b, c⟩))) => .inr (.inr (.inl ⟨b, c, a⟩))
  | .inr (.inr (.inr (.inr ⟨a, b, c⟩))) => .inr (.inr (.inr (.inl ⟨b, c, a⟩)))

theorem uneven_comm (x y z : ℚ) : Uneven x y z ↔ Uneven y x z := ⟨Uneven.comm, Uneven.comm⟩

theorem uneven_rotate (x y z : ℚ) : Uneven x y z ↔ Uneven y z x :=
  ⟨Uneven.rotate, fun uneven => uneven.rotate.rotate⟩

section Shares

variable {x y z : ℚ} {total : ℤ} (whole : x + y + z = total)

include whole

theorem fract_add_eq :
    Int.fract x + Int.fract y + Int.fract z = ((total - ⌊x⌋ - ⌊y⌋ - ⌊z⌋ : ℤ) : ℚ) := by
  push_cast
  rw [← whole, Int.fract, Int.fract, Int.fract]
  ring

theorem rest_bounds : 0 ≤ total - ⌊x⌋ - ⌊y⌋ - ⌊z⌋ ∧ total - ⌊x⌋ - ⌊y⌋ - ⌊z⌋ ≤ 2 := by
  have sum := fract_add_eq whole
  have nonneg : (0 : ℚ) ≤ ((total - ⌊x⌋ - ⌊y⌋ - ⌊z⌋ : ℤ) : ℚ) := by
    rw [← sum]
    linarith [Int.fract_nonneg x, Int.fract_nonneg y, Int.fract_nonneg z]
  have below : ((total - ⌊x⌋ - ⌊y⌋ - ⌊z⌋ : ℤ) : ℚ) < 3 := by
    rw [← sum]
    linarith [Int.fract_lt_one x, Int.fract_lt_one y, Int.fract_lt_one z]
  constructor
  · exact_mod_cast nonneg
  · have less : total - ⌊x⌋ - ⌊y⌋ - ⌊z⌋ < 3 := by exact_mod_cast below
    omega

theorem round_of_lt (first : Int.fract x < 1 / 2) (second : Int.fract y < 1 / 2)
    (third : Int.fract z < 1 / 2) :
    roundHalfUp x + roundHalfUp y + roundHalfUp z = total ↔ ¬Uneven x y z := by
  have sum := fract_add_eq whole
  rw [roundHalfUp_of_lt first, roundHalfUp_of_lt second, roundHalfUp_of_lt third]
  constructor
  · intro same
    have none : total - ⌊x⌋ - ⌊y⌋ - ⌊z⌋ = 0 := by omega
    rw [none, Int.cast_zero] at sum
    have zeros : Int.fract x = 0 ∧ Int.fract y = 0 ∧ Int.fract z = 0 := by
      refine ⟨?_, ?_, ?_⟩ <;>
        linarith [Int.fract_nonneg x, Int.fract_nonneg y, Int.fract_nonneg z]
    rw [Uneven, zeros.1, zeros.2.1, zeros.2.2]
    norm_num
  · intro even
    have zeros : Int.fract x = 0 ∧ Int.fract y = 0 ∧ Int.fract z = 0 := by
      by_contra left
      exact even (.inl ⟨first, second, third, left⟩)
    rw [zeros.1, zeros.2.1, zeros.2.2] at sum
    have none : (0 : ℤ) = total - ⌊x⌋ - ⌊y⌋ - ⌊z⌋ := by exact_mod_cast sum
    omega

theorem round_of_le (first : 1 / 2 ≤ Int.fract x) (second : Int.fract y < 1 / 2)
    (third : Int.fract z < 1 / 2) :
    roundHalfUp x + roundHalfUp y + roundHalfUp z = total ↔ ¬Uneven x y z := by
  have sum := fract_add_eq whole
  have one : total - ⌊x⌋ - ⌊y⌋ - ⌊z⌋ = 1 := by
    have above : (0 : ℚ) < ((total - ⌊x⌋ - ⌊y⌋ - ⌊z⌋ : ℤ) : ℚ) := by
      linarith [Int.fract_nonneg y, Int.fract_nonneg z]
    have below : ((total - ⌊x⌋ - ⌊y⌋ - ⌊z⌋ : ℤ) : ℚ) < 2 := by linarith [Int.fract_lt_one x]
    have positive : 0 < total - ⌊x⌋ - ⌊y⌋ - ⌊z⌋ := by exact_mod_cast above
    have less : total - ⌊x⌋ - ⌊y⌋ - ⌊z⌋ < 2 := by exact_mod_cast below
    omega
  rw [roundHalfUp_of_le first, roundHalfUp_of_lt second, roundHalfUp_of_lt third]
  refine iff_of_true (by omega) ?_
  rintro (⟨low, -⟩ | ⟨-, high, -⟩ | ⟨-, half, -⟩ | ⟨-, -, half⟩ | ⟨-, half, -⟩) <;> linarith

theorem round_of_le_of_le (first : 1 / 2 ≤ Int.fract x) (second : 1 / 2 ≤ Int.fract y)
    (third : Int.fract z < 1 / 2) :
    roundHalfUp x + roundHalfUp y + roundHalfUp z = total ↔ ¬Uneven x y z := by
  have sum := fract_add_eq whole
  have bounds := rest_bounds whole
  rw [roundHalfUp_of_le first, roundHalfUp_of_le second, roundHalfUp_of_lt third]
  constructor
  · intro same
    have two : total - ⌊x⌋ - ⌊y⌋ - ⌊z⌋ = 2 := by omega
    rw [two] at sum
    norm_num at sum
    rintro (⟨low, -⟩ | ⟨-, -, high⟩ | ⟨zero, -⟩ | ⟨-, -, half⟩ | ⟨half, other, zero⟩) <;> linarith
  · intro even
    by_contra apart
    have above : (0 : ℚ) < ((total - ⌊x⌋ - ⌊y⌋ - ⌊z⌋ : ℤ) : ℚ) := by
      linarith [Int.fract_nonneg z]
    have positive : 0 < total - ⌊x⌋ - ⌊y⌋ - ⌊z⌋ := by exact_mod_cast above
    have one : total - ⌊x⌋ - ⌊y⌋ - ⌊z⌋ = 1 := by omega
    rw [one, Int.cast_one] at sum
    have zero := Int.fract_nonneg z
    exact even (.inr (.inr (.inr (.inr ⟨by linarith, by linarith, by linarith⟩))))

theorem round_of_le_of_le_of_le (first : 1 / 2 ≤ Int.fract x) (second : 1 / 2 ≤ Int.fract y)
    (third : 1 / 2 ≤ Int.fract z) :
    roundHalfUp x + roundHalfUp y + roundHalfUp z = total ↔ ¬Uneven x y z := by
  have bounds := rest_bounds whole
  rw [roundHalfUp_of_le first, roundHalfUp_of_le second, roundHalfUp_of_le third]
  exact iff_of_false (by omega) fun even => even (.inr (.inl ⟨first, second, third⟩))

theorem sum_roundHalfUp_eq_iff :
    roundHalfUp x + roundHalfUp y + roundHalfUp z = total ↔ ¬Uneven x y z := by
  have second_first : y + x + z = total := by rw [← whole]; ring
  have third_first : z + x + y = total := by rw [← whole]; ring
  have last_first : y + z + x = total := by rw [← whole]; ring
  have outer : x + z + y = total := by rw [← whole]; ring
  rcases lt_or_ge (Int.fract x) (1 / 2) with first | first <;>
    rcases lt_or_ge (Int.fract y) (1 / 2) with second | second <;>
    rcases lt_or_ge (Int.fract z) (1 / 2) with third | third
  · exact round_of_lt whole first second third
  · have rounded := round_of_le third_first third first second
    rw [uneven_rotate] at rounded
    rw [← rounded]
    omega
  · have rounded := round_of_le second_first second first third
    rw [uneven_comm] at rounded
    rw [← rounded]
    omega
  · have rounded := round_of_le_of_le last_first second third first
    rw [← uneven_rotate] at rounded
    rw [← rounded]
    omega
  · exact round_of_le whole first second third
  · have rounded := round_of_le_of_le outer first third second
    rw [uneven_rotate x z y, uneven_comm z y x, ← uneven_rotate] at rounded
    rw [← rounded]
    omega
  · exact round_of_le_of_le whole first second third
  · exact round_of_le_of_le_of_le whole first second third

end Shares

end SkillCentric
