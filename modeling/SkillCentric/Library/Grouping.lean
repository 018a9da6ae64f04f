import SkillCentric.Library.Dict

/-!
# Grouping by key

A dictionary with a default collects items under their keys.  What it holds under a key depends on
the items of that key alone, so a commutative addition makes the groups independent of the order;
listed by their keys, equal groups are equal lists.
-/

namespace SkillCentric.Dict

variable {κ ν α : Type}

section Groups

variable [DecidableEq κ]

/-- Update the value under a key, which is `zero` at first. -/
def bump (dict : Dict κ ν) (zero : ν) (key : κ) (f : ν → ν) : Dict κ ν :=
  dict.set key (f ((dict.get? key).getD zero))

/-- Add items one by one, each under its key. -/
def group (dict : Dict κ ν) (zero : ν) (key : α → κ) (add : ν → α → ν)
    (items : List α) : Dict κ ν :=
  items.foldl (fun dict item => dict.bump zero (key item) fun value => add value item) dict

/-- The items of a key. -/
def under (key : α → κ) (wanted : κ) (items : List α) : List α :=
  items.filter fun item => decide (key item = wanted)

theorem get?_group (dict : Dict κ ν) (zero : ν) (key : α → κ) (add : ν → α → ν) (items : List α)
    (wanted : κ) :
    (dict.group zero key add items).get? wanted =
      if under key wanted items = [] then dict.get? wanted
      else some ((under key wanted items).foldl add ((dict.get? wanted).getD zero)) := by
  induction items generalizing dict with
  | nil => rfl
  | cons item rest ih =>
      rw [group, List.foldl_cons, ← group, ih, bump, get?_set]
      by_cases same : key item = wanted
      · have own : under key wanted (item :: rest) = item :: under key wanted rest :=
          List.filter_cons_of_pos (decide_eq_true same)
        rw [own, if_pos same.symm, if_neg (List.cons_ne_nil _ _), List.foldl_cons, same,
          Option.getD_some]
        split_ifs with last
        · rw [last, List.foldl_nil]
        · rfl
      · have own : under key wanted (item :: rest) = under key wanted rest :=
          List.filter_cons_of_neg (by simpa using same)
        rw [own, if_neg (Ne.symm same)]

theorem get?_group_empty (zero : ν) (key : α → κ) (add : ν → α → ν) (items : List α) (wanted : κ) :
    ((empty : Dict κ ν).group zero key add items).get? wanted =
      if under key wanted items = [] then none
      else some ((under key wanted items).foldl add zero) :=
        get?_group empty zero key add items wanted

theorem get?_group_perm {zero : ν} {key : α → κ} {add : ν → α → ν} [RightCommutative add]
    {items other : List α} (perm : items.Perm other) (wanted : κ) :
    ((empty : Dict κ ν).group zero key add items).get? wanted =
      ((empty : Dict κ ν).group zero key add other).get? wanted := by
  have own : (under key wanted items).Perm (under key wanted other) := perm.filter _
  rw [get?_group_empty, get?_group_empty, own.foldl_eq]
  have empty : under key wanted items = [] ↔ under key wanted other = [] := by
    rw [← List.length_eq_zero_iff, own.length_eq, List.length_eq_zero_iff]
  exact if_congr empty rfl rfl

theorem sum_length_under {key : α → κ} {keys : List κ} (distinct : keys.Nodup) {items : List α}
    (covered : ∀ item ∈ items, key item ∈ keys) :
    (keys.map fun wanted => (under key wanted items).length).sum = items.length := by
  induction items with
  | nil => simp [under]
  | cons item rest ih =>
      have grown (wanted : κ) : (under key wanted (item :: rest)).length =
          (under key wanted rest).length + if wanted = key item then 1 else 0 := by
        unfold under
        rw [List.filter_cons]
        by_cases same : key item = wanted
        · rw [if_pos (decide_eq_true same), if_pos same.symm, List.length_cons]
        · rw [if_neg (by simpa using same), if_neg (Ne.symm same), Nat.add_zero]
      have once : (keys.map fun wanted => if wanted = key item then 1 else 0).sum = 1 := by
        rw [List.sum_map_eq_nsmul_single (key item) _ fun other differ _ => if_neg differ,
          if_pos rfl,
          List.count_eq_one_of_mem distinct (covered item List.mem_cons_self)]
        rfl
      simp only [grown]
      rw [List.sum_map_add, ih fun other member => covered other (List.mem_cons_of_mem item member),
        once, List.length_cons]

end Groups

section Sorted

variable [LinearOrder κ] [DecidableEq κ]

omit [DecidableEq κ] in
/-- `sorted(dict.items())`. -/
def sorted (dict : Dict κ ν) : List (κ × ν) :=
  dict.entries.insertionSort fun left right => left.1 ≤ right.1

theorem mem_sorted {dict : Dict κ ν} {key : κ} {value : ν} :
    (key, value) ∈ dict.sorted ↔ dict.get? key = some value := by
  rw [sorted, List.mem_insertionSort, mem_entries_iff]

theorem sorted_congr {left right : Dict κ ν} (same : ∀ key, left.get? key = right.get? key) :
    left.sorted = right.sorted := by
  have total : Std.Total fun left right : κ × ν => left.1 ≤ right.1 :=
    ⟨fun left right => le_total left.1 right.1⟩
  have trans : IsTrans (κ × ν) fun left right => left.1 ≤ right.1 := ⟨fun _ _ _ => le_trans⟩
  have members (entry : κ × ν) : entry ∈ left.entries ↔ entry ∈ right.entries := by
    rw [mem_entries_iff, mem_entries_iff, same]
  have perm : left.sorted.Perm right.sorted :=
    (List.perm_insertionSort _ _).trans
      (((List.perm_ext_iff_of_nodup left.nodup.of_map right.nodup.of_map).mpr members).trans
        (List.perm_insertionSort _ _).symm)
  refine perm.eq_of_pairwise ?_ (List.pairwise_insertionSort _ _) (List.pairwise_insertionSort _ _)
  rintro ⟨key, value⟩ ⟨other, found⟩ first second below above
  obtain rfl : key = other := le_antisymm below above
  rw [mem_sorted] at first second
  rw [← same, first] at second
  cases second
  rfl

omit [DecidableEq κ] in
theorem sorted_mapValues (dict : Dict κ ν) (f : κ → ν → ν) :
    (dict.mapValues f).sorted = dict.sorted.map fun entry => (entry.1, f entry.1 entry.2) := by
  rw [sorted, sorted, mapValues]
  exact (List.map_insertionSort (fun left right : κ × ν => left.1 ≤ right.1)
    (fun left right : κ × ν => left.1 ≤ right.1) (fun entry => (entry.1, f entry.1 entry.2))
    dict.entries fun _ _ _ _ => Iff.rfl).symm

end Sorted

end SkillCentric.Dict
