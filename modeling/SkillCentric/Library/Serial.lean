import SkillCentric.Library.Table

/-!
# Serial keys and partial indexes

Keys drawn from a sequence.  The sequence stands above every key in use, so inserted rows never
clash; the gaps that a real sequence leaves after a failed insert carry no information.  A partial
unique index is a function into options no value of which occurs twice.
-/

namespace SkillCentric.Table

theorem countP_mapIdx {ρ α : Type} {items : List α} {make : Nat → α → ρ} {counted : ρ → Bool}
    {wanted : α → Bool} (inherits : ∀ i item, counted (make i item) = wanted item) :
    (items.mapIdx make).countP counted = items.countP wanted := by
  rw [List.mapIdx_eq_zipIdx_map, List.countP_map]
  conv_rhs => rw [← List.zipIdx_map_fst 0 items, List.countP_map]
  refine List.countP_congr fun entry _ => ?_
  simp [inherits]

section Serial

variable {ρ α : Type} [Keyed ρ Nat]

/-- The next value of the sequence behind the key. -/
def nextKey (table : Table ρ) : Nat := (table.rows.map Keyed.key).foldr max 0 + 1

variable {table : Table ρ}

theorem key_lt_nextKey {row : ρ} (member : row ∈ table) :
    Keyed.key row < table.nextKey := by
  have bound : ∀ keys : List Nat, ∀ key ∈ keys, key ≤ keys.foldr max 0 := by
    intro keys
    induction keys with
    | nil => simp
    | cons first rest ih =>
        intro key key_mem
        rcases List.mem_cons.mp key_mem with rfl | later
        · exact le_max_left _ _
        · exact (ih key later).trans (le_max_right _ _)
  exact Nat.lt_succ_of_le (bound _ _ (List.mem_map_of_mem member))

/-- `INSERT … SELECT` under serial keys: one row for each item, in order. -/
def insertAll (table : Table ρ) (items : List α) (make : Nat → α → ρ)
    (keyed : ∀ key item, Keyed.key (make key item) = key) : Table ρ where
  rows := table.rows ++ items.mapIdx fun i item => make (table.nextKey + i) item
  nodup := by
    rw [List.map_append]
    have numbered : (items.mapIdx fun i item => make (table.nextKey + i) item).map Keyed.key =
        (List.range items.length).map (table.nextKey + ·) := by
      apply List.ext_getElem (by simp)
      simp [keyed]
    rw [numbered]
    refine table.nodup.append ?_ ?_
    · exact List.nodup_range.map fun _ _ same => Nat.add_left_cancel same
    · intro key old new
      obtain ⟨row, row_mem, rfl⟩ := List.mem_map.mp old
      obtain ⟨i, -, same⟩ := List.mem_map.mp new
      have below := key_lt_nextKey (mem_iff.mpr row_mem)
      omega

theorem rows_insertAll (table : Table ρ) (items : List α) (make : Nat → α → ρ)
    (keyed : ∀ key item, Keyed.key (make key item) = key) :
    (table.insertAll items make keyed).rows =
      table.rows ++ items.mapIdx fun i item => make (table.nextKey + i) item := rfl

theorem mem_insertAll {items : List α} {make : Nat → α → ρ}
    {keyed : ∀ key item, Keyed.key (make key item) = key} {row : ρ} :
    row ∈ table.insertAll items make keyed ↔
      row ∈ table ∨ ∃ i item, items[i]? = some item ∧ make (table.nextKey + i) item = row := by
  simp only [mem_iff, insertAll, List.mem_append, List.mem_mapIdx]
  refine or_congr_right ⟨?_, ?_⟩
  · rintro ⟨i, bound, rfl⟩
    exact ⟨i, items[i], by simp [bound], rfl⟩
  · rintro ⟨i, item, found, rfl⟩
    obtain ⟨bound, rfl⟩ := List.getElem?_eq_some_iff.mp found
    exact ⟨i, bound, rfl⟩

theorem mem_insertAll_singleton {item : α} {make : Nat → α → ρ}
    {keyed : ∀ key item, Keyed.key (make key item) = key} {row : ρ} :
    row ∈ table.insertAll [item] make keyed ↔ row ∈ table ∨ row = make table.nextKey item := by
  refine mem_insertAll.trans (or_congr_right ⟨?_, ?_⟩)
  · rintro ⟨i, other, found, rfl⟩
    obtain ⟨bound, rfl⟩ := List.getElem?_eq_some_iff.mp found
    have first : i = 0 := by simpa using bound
    subst first
    rfl
  · rintro rfl
    exact ⟨0, item, rfl, rfl⟩

end Serial

section Rewritten

variable {ρ κ : Type} [Keyed ρ κ] {table after : Table ρ} {change : ρ → ρ}
  (written : after.rows = table.rows.map change)

include written

theorem mem_of_written {row : ρ} : row ∈ after ↔ ∃ old ∈ table, change old = row := by
  simp [mem_iff, written]

theorem exists_key_of_written (keeps : ∀ row, Keyed.key (change row) = (Keyed.key row : κ))
    {key : κ}
    (present : ∃ row ∈ table, Keyed.key row = key) : ∃ row ∈ after, Keyed.key row = key := by
  obtain ⟨row, member, rfl⟩ := present
  exact ⟨change row, (mem_of_written written).mpr ⟨row, member, rfl⟩, keeps row⟩

end Rewritten

theorem nodup_filterMap_iff {ρ κ ι : Type} [Keyed ρ κ] (table : Table ρ) (index : ρ → Option ι) :
    (table.rows.filterMap index).Nodup ↔
      ∀ row ∈ table, ∀ other ∈ table, ∀ value, index row = some value →
        index other = some value → row = other := by
  rw [List.nodup_iff_pairwise_ne, List.pairwise_filterMap]
  constructor
  · intro apart row row_mem other other_mem
    refine List.Pairwise.forall_of_forall_of_flip
      (R := fun row other => ∀ value, index row = some value → index other = some value →
        row = other) (fun _ _ _ _ _ => rfl) (apart.imp ?_) (apart.imp ?_) row_mem other_mem
    · intro row other differ value row_value other_value
      exact (differ value row_value value other_value rfl).elim
    · intro row other differ value other_value row_value
      exact (differ value row_value value other_value rfl).elim
  · intro unique
    refine table.rows_nodup.imp_of_mem ?_
    rintro row other row_mem other_mem differ value row_value _ other_value rfl
    exact differ (unique row row_mem other other_mem value row_value other_value)

end SkillCentric.Table
