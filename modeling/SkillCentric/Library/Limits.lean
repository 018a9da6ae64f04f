import Mathlib.Data.List.Sort
import Mathlib.Tactic

/-!
# The first rows of an order

`ORDER BY … LIMIT n` keeps the items that have fewer than `n` others before them.
-/

namespace SkillCentric

variable {α : Type} [DecidableEq α] {before : α → α → Prop} [DecidableRel before]

omit [DecidableEq α] in
theorem mem_take_append_cons {front back : List α} {item : α} (n : Nat)
    (nodup : (front ++ item :: back).Nodup) :
    item ∈ (front ++ item :: back).take n ↔ front.length < n := by
  constructor
  · intro member
    by_contra few
    rw [List.take_append_of_le_length (not_lt.mp few)] at member
    exact (List.nodup_append.mp nodup).2.2 item (List.mem_of_mem_take member) item
      List.mem_cons_self rfl
  · intro few
    obtain ⟨more, rfl⟩ := Nat.exists_eq_add_of_lt few
    rw [Nat.add_assoc, List.take_length_add_append, List.take_succ_cons]
    exact List.mem_append_right _ List.mem_cons_self

/-- The items among the first `n` of an order. -/
theorem mem_take_insertionSort_iff {items : List α} {item : α} (n : Nat)
    (total : ∀ item other, before item other ∨ before other item)
    (trans : ∀ item other third, before item other → before other third → before item third)
    (antisymm : ∀ item ∈ items,
      ∀ other ∈ items, before item other → before other item → item = other)
    (nodup : items.Nodup) (member : item ∈ items) :
    item ∈ (items.insertionSort before).take n ↔
      (items.filter fun other => decide (before other item ∧ other ≠ item)).length < n := by
  have _ : Std.Total before := ⟨total⟩
  have _ : IsTrans α before := ⟨trans⟩
  have perm := List.perm_insertionSort before items
  have sorted := List.pairwise_insertionSort before items
  have within : ∀ other ∈ items.insertionSort before, other ∈ items := fun other => perm.mem_iff.mp
  have distinct : (items.insertionSort before).Nodup := perm.nodup_iff.mpr nodup
  rw [← (perm.filter _).length_eq]
  obtain ⟨front, back, split⟩ := List.append_of_mem (perm.mem_iff.mpr member)
  rw [split] at sorted distinct within ⊢
  have apart := List.nodup_append.mp distinct
  have front_before :
      front.filter (fun other => decide (before other item ∧ other ≠ item)) = front := by
    refine List.filter_eq_self.mpr fun other inFront => ?_
    have order := (List.pairwise_append.mp sorted).2.2 other inFront item List.mem_cons_self
    exact decide_eq_true ⟨order, apart.2.2 other inFront item List.mem_cons_self⟩
  have back_after :
      (item :: back).filter (fun other => decide (before other item ∧ other ≠ item)) = [] := by
    refine List.filter_eq_nil_iff.mpr fun other inBack => ?_
    rw [decide_eq_true_eq]
    rintro ⟨order, differs⟩
    rcases List.mem_cons.mp inBack with rfl | later
    · exact differs rfl
    · have reverse := (List.pairwise_cons.mp (List.pairwise_append.mp sorted).2.1).1 other later
      exact differs (antisymm other
        (within other (List.mem_append_right _ (List.mem_cons_of_mem _ later)))
          item member order reverse)
  rw [mem_take_append_cons n distinct, List.filter_append, front_before, back_after,
    List.append_nil]

end SkillCentric
