import Mathlib.Data.Char
import Mathlib.Data.List.Lex
import Mathlib.Tactic

/-!
# Codes of fixed width

Lists of one length are compared front part first.  A code of fixed width writes values so that the
order of the lists is the order of the values; such codes may be put next to each other, the more
significant one in front.
-/

namespace SkillCentric

section Lex

variable {α : Type} [LinearOrder α]

theorem append_lt_append_iff {left right front back : List α} (same : left.length = right.length) :
    left ++ front < right ++ back ↔ left < right ∨ left = right ∧ front < back := by
  induction left generalizing right with
  | nil =>
      obtain rfl := List.length_eq_zero_iff.mp same.symm
      simp
  | cons first rest ih =>
      cases right with
      | nil => cases same
      | cons other others =>
          have tails := ih (Nat.succ.inj same)
          rw [List.cons_append, List.cons_append, List.cons_lt_cons_iff,
            List.cons_lt_cons_iff, tails,
            List.cons.injEq]
          tauto

end Lex

/-- A code writes the values that are valid with one width, and its order is theirs. -/
structure FixedWidth {ι α : Type} [LinearOrder α] (valid : ι → Prop) (before : ι → ι → Prop)
    (code : ι → List α) (width : Nat) : Prop where
  length : ∀ {value}, valid value → (code value).length = width
  lt_iff : ∀ {value other}, valid value → valid other →
    (code value < code other ↔ before value other)
  eq_iff : ∀ {value other}, valid value → valid other → (code value = code other ↔
    ¬before value other ∧ ¬before other value)

namespace FixedWidth

variable {ι α : Type} [LinearOrder α] {valid : ι → Prop} {before later : ι → ι → Prop}
  {code back : ι → List α} {width rest : Nat}

theorem const (text : List α) :
    FixedWidth valid (fun _ _ => False) (fun _ => text) text.length where
  length _ := rfl
  lt_iff _ _ := iff_of_false (lt_irrefl _) not_false
  eq_iff _ _ := iff_of_true rfl ⟨not_false, not_false⟩

theorem append (front : FixedWidth valid before code width)
    (tail : FixedWidth valid later back rest) :
    FixedWidth valid
      (fun value other => before value other ∨
        (¬before value other ∧ ¬before other value) ∧ later value other)
      (fun value => code value ++ back value) (width + rest) where
  length holds := by rw [List.length_append, front.length holds, tail.length holds]
  lt_iff left right := by
    have same : (code _).length = (code _).length :=
      (front.length left).trans (front.length right).symm
    rw [append_lt_append_iff same, front.lt_iff left right, front.eq_iff left right,
      tail.lt_iff left right]
  eq_iff left right := by
    have same : (code _).length = (code _).length :=
      (front.length left).trans (front.length right).symm
    constructor
    · intro equal
      obtain ⟨fronts, backs⟩ := List.append_inj equal same
      have apart := (front.eq_iff left right).mp fronts
      have behind := (tail.eq_iff left right).mp backs
      tauto
    · intro apart
      have fronts : code _ = code _ := (front.eq_iff left right).mpr (by tauto)
      have backs : back _ = back _ := (tail.eq_iff left right).mpr (by tauto)
      rw [fronts, backs]

theorem comap {κ : Type} (front : FixedWidth valid before code width)
    (among : κ → Prop) (get : κ → ι) (keeps : ∀ value, among value → valid (get value)) :
    FixedWidth among (fun value other => before (get value) (get other))
      (fun value => code (get value)) width where
  length holds := front.length (keeps _ holds)
  lt_iff left right := front.lt_iff (keeps _ left) (keeps _ right)
  eq_iff left right := front.eq_iff (keeps _ left) (keeps _ right)

theorem congr {order : ι → ι → Prop} (front : FixedWidth valid before code width)
    (same : ∀ {value other}, valid value → valid other → (before value other ↔ order value other)) :
    FixedWidth valid order code width where
  length := front.length
  lt_iff left right := (front.lt_iff left right).trans (same left right)
  eq_iff left right := by rw [front.eq_iff left right, same left right, same right left]

theorem of_eq {other : ι → List α} (front : FixedWidth valid before code width)
    (same : ∀ {value}, valid value → other value = code value) :
    FixedWidth valid before other width where
  length holds := by rw [same holds, front.length holds]
  lt_iff left right := by rw [same left, same right, front.lt_iff left right]
  eq_iff left right := by rw [same left, same right, front.eq_iff left right]

end FixedWidth

theorem fixedWidth_digit : FixedWidth (· < 10) (· < ·) (fun n => [Nat.digitChar n]) 1 where
  length _ := rfl
  lt_iff {m n} m_lt n_lt := by
    have all : ∀ i : Fin 10, ∀ j : Fin 10,
        [Nat.digitChar i.val] < [Nat.digitChar j.val] ↔ i.val < j.val := by decide
    exact all ⟨m, m_lt⟩ ⟨n, n_lt⟩
  eq_iff {m n} m_lt n_lt := by
    have all : ∀ i : Fin 10, ∀ j : Fin 10,
        [Nat.digitChar i.val] = [Nat.digitChar j.val] ↔ ¬i.val < j.val ∧ ¬j.val < i.val := by decide
    exact all ⟨m, m_lt⟩ ⟨n, n_lt⟩

theorem padded_succ {width n : Nat} (small : n < 10 ^ (width + 1)) (positive : 0 < width) :
    List.replicate (width + 1 - (Nat.toDigits 10 n).length) '0' ++ Nat.toDigits 10 n =
      List.replicate (width - (Nat.toDigits 10 (n / 10)).length) '0' ++ Nat.toDigits 10 (n / 10) ++
        [Nat.digitChar (n % 10)] := by
  by_cases single : n < 10
  · have quotient : n / 10 = 0 := by omega
    have remainder : n % 10 = n := by omega
    rw [quotient, remainder, Nat.toDigits_of_lt_base single]
    obtain ⟨less, rfl⟩ := Nat.exists_eq_succ_of_ne_zero positive.ne'
    have zero : Nat.toDigits 10 0 = ['0'] := rfl
    rw [zero, List.length_singleton, List.length_singleton, Nat.add_sub_cancel, Nat.succ_sub_one,
      ← List.replicate_succ']
  · have quotient : 0 < n / 10 := by omega
    have remainder : n % 10 < 10 := by omega
    have split : Nat.toDigits 10 n = Nat.toDigits 10 (n / 10) ++ [Nat.digitChar (n % 10)] := by
      have join := Nat.toDigits_append_toDigits (b := 10) (by decide) quotient remainder
      rw [Nat.toDigits_of_lt_base remainder] at join
      rw [join]
      congr 1
      omega
    rw [split, List.length_append, List.length_singleton, Nat.add_sub_add_right, List.append_assoc]

theorem fixedWidth_padded {width : Nat} (positive : 0 < width) :
    FixedWidth (· < 10 ^ width) (· < ·)
      (fun n => List.replicate (width - (Nat.toDigits 10 n).length) '0' ++ Nat.toDigits 10 n)
      width := by
  induction width, positive using Nat.le_induction with
  | base =>
      refine FixedWidth.of_eq fixedWidth_digit fun {n} small => ?_
      have digit : n < 10 := small
      rw [Nat.toDigits_of_lt_base digit]
      rfl
  | succ width positive ih =>
      have bound : 10 ^ (width + 1) = 10 ^ width * 10 := Nat.pow_succ ..
      have quotient : ∀ n < 10 ^ (width + 1), n / 10 < 10 ^ width :=
        fun n small => Nat.div_lt_of_lt_mul (by omega)
      have remainder : ∀ n < 10 ^ (width + 1), n % 10 < 10 := fun n _ => Nat.mod_lt n (by decide)
      have joined := (ih.comap (· < 10 ^ (width + 1)) (· / 10) quotient).append
        (fixedWidth_digit.comap (· < 10 ^ (width + 1)) (· % 10) remainder)
      refine (joined.congr fun {m n} _ _ => ?_).of_eq fun {n} small => ?_
      · omega
      · exact padded_succ small positive

end SkillCentric
