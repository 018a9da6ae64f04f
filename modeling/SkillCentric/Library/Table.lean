import Mathlib.Tactic

/-!
# Tables with a primary key

A `Table` is a list of rows no two of which have the same key.  The statements of a relational
store become its operations: a plain insert is refused when the key is taken, a replacing insert
first deletes the rows it clashes with, updates keep the key.  The membership lemmas say which rows
are there afterwards.
-/

namespace SkillCentric

/-- Rows with a primary key. -/
class Keyed (ρ : Type) (κ : outParam Type) where
  key : ρ → κ

/-- A list of rows with distinct keys. -/
@[ext]
structure Table (ρ : Type) {κ : Type} [Keyed ρ κ] where
  rows : List ρ
  nodup : (rows.map Keyed.key).Nodup

namespace Table

variable {ρ κ : Type} [Keyed ρ κ]

/-- The table without rows. -/
def empty : Table ρ := ⟨[], by simp⟩

instance : Inhabited (Table ρ) := ⟨empty⟩

instance : Membership ρ (Table ρ) := ⟨fun table row => row ∈ table.rows⟩

variable {table : Table ρ} {row : ρ}

theorem mem_iff : row ∈ table ↔ row ∈ table.rows := Iff.rfl

/-- Delete the rows with a property. -/
def delete (table : Table ρ) (drop : ρ → Bool) : Table ρ where
  rows := table.rows.filter fun row => !drop row
  nodup := (List.filter_sublist.map Keyed.key).nodup table.nodup

/-- Rewrite rows without touching their keys. -/
def update (table : Table ρ) (change : ρ → ρ)
    (keeps : ∀ row, Keyed.key (change row) = Keyed.key row) :
    Table ρ where
  rows := table.rows.map change
  nodup := by simpa [List.map_map, Function.comp_def, keeps] using table.nodup

theorem mem_delete {drop : ρ → Bool} :
    row ∈ table.delete drop ↔ row ∈ table ∧ drop row = false := by
  simp [mem_iff, delete]

theorem mem_update {change : ρ → ρ}
    {keeps : ∀ row, Keyed.key (change row) = Keyed.key row} {row : ρ} :
    row ∈ table.update change keeps ↔ ∃ old ∈ table, change old = row := by
  simp [mem_iff, update]

theorem eq_of_key {left right : ρ} (left_mem : left ∈ table)
    (right_mem : right ∈ table) (same : (Keyed.key left : κ) = Keyed.key right) : left = right :=
  List.inj_on_of_nodup_map table.nodup left_mem right_mem same

theorem find?_of_key {passes : ρ → Bool} (member : row ∈ table) (passed : passes row = true)
    (only : ∀ other ∈ table, passes other = true → (Keyed.key other : κ) = Keyed.key row) :
    table.rows.find? passes = some row := by
  cases found : table.rows.find? passes with
  | none => exact absurd passed (List.find?_eq_none.mp found row member)
  | some other =>
      have other_mem : other ∈ table := List.mem_of_find?_eq_some found
      rw [eq_of_key other_mem member (only other other_mem (List.find?_some found))]

theorem rows_nodup (table : Table ρ) : table.rows.Nodup := table.nodup.of_map

theorem insertionSort_filter_eq {left right : Table ρ} {keep : ρ → Bool} {before : ρ → ρ → Prop}
    [DecidableRel before] (total : ∀ row other, before row other ∨ before other row)
    (trans : ∀ row other third, before row other → before other third → before row third)
    (same : ∀ row, keep row = true → (row ∈ left ↔ row ∈ right))
    (antisymm : ∀ row ∈ left, ∀ other ∈ left, before row other → before other row → row = other) :
    (left.rows.filter keep).insertionSort before =
      (right.rows.filter keep).insertionSort before := by
  have _ : Std.Total before := ⟨total⟩
  have _ : IsTrans ρ before := ⟨trans⟩
  have members (row : ρ) : row ∈ left.rows.filter keep ↔ row ∈ right.rows.filter keep := by
    rw [List.mem_filter, List.mem_filter]
    exact and_congr_left (same row)
  have perm : List.Perm ((left.rows.filter keep).insertionSort before)
      ((right.rows.filter keep).insertionSort before) :=
    (List.perm_insertionSort before _).trans
      (((List.perm_ext_iff_of_nodup (left.rows_nodup.filter keep)
        (right.rows_nodup.filter keep)).mpr members).trans
          (List.perm_insertionSort before _).symm)
  refine List.Perm.eq_of_pairwise ?_ (List.pairwise_insertionSort before _)
    (List.pairwise_insertionSort before _) perm
  intro row other row_mem other_mem
  rw [List.mem_insertionSort] at row_mem other_mem
  exact antisymm row (List.mem_filter.mp row_mem).1 other
    (List.mem_filter.mp ((members other).mpr other_mem)).1

/-- The table of one row. -/
def single (row : ρ) : Table ρ := ⟨[row], List.nodup_singleton _⟩

variable [DecidableEq κ]

/-- The row with a key. -/
def find? (table : Table ρ) (key : κ) : Option ρ := table.rows.find? fun row => Keyed.key row = key

/-- Append a row whose key is free. -/
def push (table : Table ρ) (row : ρ) (free : Keyed.key row ∉ table.rows.map Keyed.key) :
    Table ρ where
  rows := table.rows ++ [row]
  nodup := by
    rw [List.map_append]
    exact table.nodup.append (by simp) (by simpa using free)

/-- `INSERT`: refused when the key is taken. -/
def insert? (table : Table ρ) (row : ρ) : Option (Table ρ) :=
  if free : Keyed.key row ∉ table.rows.map Keyed.key then some (table.push row free) else none

/-- `INSERT OR REPLACE`: the rows with the same key, or in `clash` with the new one through another
unique index, are deleted first. -/
def replace (table : Table ρ) (row : ρ) (clash : ρ → Bool) : Table ρ :=
  (table.delete fun old => decide (Keyed.key old = Keyed.key row) || clash old).push row (by
    simp only [delete, List.mem_map, List.mem_filter, not_exists, not_and]
    intro old member same
    simp [same] at member)

/-- `INSERT … ON CONFLICT(key) DO UPDATE`. -/
def upsert (table : Table ρ) (row : ρ) (change : ρ → ρ)
    (keeps : ∀ old, Keyed.key (change old) = Keyed.key old) : Table ρ :=
  if free : Keyed.key row ∉ table.rows.map Keyed.key then table.push row free
  else table.update (fun old => if Keyed.key old = Keyed.key row then change old else old) (by
    intro old
    split
    · exact keeps old
    · rfl)

theorem find?_eq_some {key : κ} :
    table.find? key = some row ↔ row ∈ table ∧ Keyed.key row = key := by
  constructor
  · intro found
    exact ⟨List.mem_of_find?_eq_some found, by simpa using List.find?_some found⟩
  · rintro ⟨member, rfl⟩
    cases found : table.find? (Keyed.key row) with
    | none =>
        have absent := List.find?_eq_none.mp found row member
        simp at absent
    | some other =>
        have other_mem := List.mem_of_find?_eq_some found
        have same : (Keyed.key other : κ) = Keyed.key row := by simpa using List.find?_some found
        rw [eq_of_key (mem_iff.mpr other_mem) member same]

theorem find?_eq_none {key : κ} :
    table.find? key = none ↔ ∀ row ∈ table, Keyed.key row ≠ key := by
  simp [find?, mem_iff]

variable {row other : ρ}

omit [DecidableEq κ] in
theorem mem_push {free : Keyed.key row ∉ table.rows.map Keyed.key} :
    other ∈ table.push row free ↔ other ∈ table ∨ other = row := by
  simp [mem_iff, push]

theorem insert?_eq_some {table after : Table ρ} (inserted : table.insert? row = some after) :
    table.find? (Keyed.key row) = none ∧ after.rows = table.rows ++ [row] := by
  unfold insert? at inserted
  split at inserted
  · rename_i free
    cases inserted
    refine ⟨find?_eq_none.mpr fun old member same => free ?_, rfl⟩
    exact same ▸ List.mem_map_of_mem member
  · cases inserted

theorem mem_replace {clash : ρ → Bool} :
    other ∈ table.replace row clash ↔
      (other ∈ table ∧ Keyed.key other ≠ Keyed.key row ∧ clash other = false) ∨ other = row := by
  rw [replace, mem_push, mem_delete]
  simp

theorem mem_upsert {change : ρ → ρ} {keeps : ∀ old, Keyed.key (change old) = Keyed.key old} :
    other ∈ table.upsert row change keeps ↔
      (other ∈ table ∧ Keyed.key other ≠ Keyed.key row) ∨
        (table.find? (Keyed.key row) = none ∧ other = row) ∨
        ∃ old, table.find? (Keyed.key row) = some old ∧ other = change old := by
  unfold upsert
  split
  · rename_i free
    have absent : table.find? (Keyed.key row) = none :=
      find?_eq_none.mpr fun old member same => free (same ▸ List.mem_map_of_mem member)
    have differ : ∀ old ∈ table, Keyed.key old ≠ Keyed.key row := find?_eq_none.mp absent
    rw [mem_push]
    constructor
    · rintro (member | rfl)
      · exact .inl ⟨member, differ other member⟩
      · exact .inr (.inl ⟨absent, rfl⟩)
    · rintro (⟨member, -⟩ | ⟨-, rfl⟩ | ⟨old, found, -⟩)
      · exact .inl member
      · exact .inr rfl
      · rw [absent] at found
        cases found
  · rename_i taken
    obtain ⟨old, old_mem, old_key⟩ := List.mem_map.mp (not_not.mp taken)
    have found : table.find? (Keyed.key row) = some old := find?_eq_some.mpr ⟨old_mem, old_key⟩
    rw [mem_update]
    constructor
    · rintro ⟨before, member, rfl⟩
      split
      · rename_i same
        refine .inr (.inr ⟨before, find?_eq_some.mpr ⟨member, same⟩, rfl⟩)
      · rename_i differ
        exact .inl ⟨member, differ⟩
    · rintro (⟨member, differ⟩ | ⟨absent, -⟩ | ⟨before, located, rfl⟩)
      · exact ⟨other, member, if_neg differ⟩
      · rw [found] at absent
        cases absent
      · obtain ⟨member, same⟩ := find?_eq_some.mp located
        exact ⟨before, member, if_pos same⟩

end Table

end SkillCentric
