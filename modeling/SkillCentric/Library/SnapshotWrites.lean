import SkillCentric.Library.Table

/-!
# Sub-statements over one snapshot

The writing parts of one query read the tables as they were when the query began, and run in an
order of their own.  A deletion reaches rows of the snapshot only; an insertion skips a row whose
key is present when it runs.  A deletion and insertions replace rows in every order exactly when no
inserted row has the key of a row of the snapshot.
-/

namespace SkillCentric

/-- A table while a query writes it. -/
structure Draft (ρ : Type) {κ : Type} [Keyed ρ κ] where
  seen : List ρ
  added : List ρ
  nodup : ((seen ++ added).map Keyed.key).Nodup

/-- A sub-statement that writes a table. -/
inductive Write (ρ : Type) where
  /-- `DELETE`. -/
  | delete (drop : ρ → Bool)
  /-- `INSERT … ON CONFLICT DO NOTHING`. -/
  | insert (rows : List ρ)

/-- The rows a sub-statement offers. -/
def Write.offered {ρ : Type} : Write ρ → List ρ
  | .delete _ => []
  | .insert rows => rows

/-- A sub-statement deletes a row. -/
def Write.drops {ρ : Type} (row : ρ) : Write ρ → Bool
  | .delete drop => drop row
  | .insert _ => false

namespace Draft

variable {ρ κ : Type} [Keyed ρ κ]

/-- The table as the query finds it. -/
def start (table : Table ρ) : Draft ρ where
  seen := table.rows
  added := []
  nodup := by simpa using table.nodup

/-- The table as the query leaves it. -/
def table (draft : Draft ρ) : Table ρ := ⟨draft.seen ++ draft.added, draft.nodup⟩

/-- Delete rows of the snapshot. -/
def delete (draft : Draft ρ) (drop : ρ → Bool) : Draft ρ where
  seen := draft.seen.filter fun row => !drop row
  added := draft.added
  nodup := ((List.filter_sublist.append_right draft.added).map Keyed.key).nodup draft.nodup

/-- Rewrite rows of the snapshot without touching their keys. -/
def update (draft : Draft ρ) (change : ρ → ρ)
    (keeps : ∀ row, Keyed.key (change row) = Keyed.key row) :
    Draft ρ where
  seen := draft.seen.map change
  added := draft.added
  nodup := by simpa [List.map_map, Function.comp_def, keeps] using draft.nodup

variable [DecidableEq κ]

/-- Insert one row, unless its key is present. -/
def insertRow (draft : Draft ρ) (row : ρ) : Draft ρ :=
  if free : Keyed.key row ∉ (draft.seen ++ draft.added).map Keyed.key then
    { seen := draft.seen
      added := draft.added ++ [row]
      nodup := by
        rw [← List.append_assoc, List.map_append]
        exact draft.nodup.append (by simp) (by simpa using free) }
  else draft

private theorem key_upserted {row : ρ} {change : ρ → ρ}
    (keeps : ∀ row, Keyed.key (change row) = Keyed.key row) (old : ρ) :
    Keyed.key (if Keyed.key old = Keyed.key row then change old else old) = Keyed.key old := by
  split
  · exact keeps old
  · rfl

/-- `INSERT … ON CONFLICT DO UPDATE`. -/
def upsert (draft : Draft ρ) (row : ρ) (change : ρ → ρ)
    (keeps : ∀ row, Keyed.key (change row) = Keyed.key row) : Draft ρ :=
  if Keyed.key row ∈ (draft.seen ++ draft.added).map Keyed.key then
    draft.update (fun old => if Keyed.key old = Keyed.key row then change old else old)
      (key_upserted keeps)
  else draft.insertRow row

/-- A sub-statement runs. -/
def write (draft : Draft ρ) : Write ρ → Draft ρ
  | .delete drop => draft.delete drop
  | .insert rows => rows.foldl insertRow draft

/-- Sub-statements run in order. -/
def run (draft : Draft ρ) (writes : List (Write ρ)) : Draft ρ := writes.foldl write draft

theorem run_append (draft : Draft ρ) (first later : List (Write ρ)) :
    draft.run (first ++ later) = (draft.run first).run later := List.foldl_append

variable {draft : Draft ρ}

omit [DecidableEq κ] in
theorem mem_table {row : ρ} :
    row ∈ draft.table ↔ row ∈ draft.seen ∨ row ∈ draft.added := List.mem_append

theorem run_view {δ ω : Type} {step : δ → ω → δ} {view : δ → Draft ρ} {part : ω → Option (Write ρ)}
    (each : ∀ state write, view (step state write) = (view state).run (part write).toList)
    (order : List ω) (state : δ) :
    view (order.foldl step state) = (view state).run (order.filterMap part) := by
  induction order generalizing state with
  | nil => rfl
  | cons write rest ih =>
      rw [List.foldl_cons, ih, each, ← run_append]
      cases found : part write with
      | none => rw [List.filterMap_cons_none found, Option.toList_none, List.nil_append]
      | some change =>
        rw [List.filterMap_cons_some found, Option.toList_some, List.singleton_append]

theorem insert_of_free {rows : List ρ}
    (free : ((draft.seen ++ draft.added ++ rows).map Keyed.key).Nodup) :
    (draft.write (.insert rows)).seen = draft.seen ∧
      (draft.write (.insert rows)).added = draft.added ++ rows := by
  induction rows generalizing draft with
  | nil => simp [write]
  | cons row rest ih =>
      have absent : Keyed.key row ∉ (draft.seen ++ draft.added).map Keyed.key := by
        rw [List.map_append, List.nodup_append'] at free
        exact fun present => free.2.2 present (by simp)
      have inserted : (draft.insertRow row).seen = draft.seen ∧
          (draft.insertRow row).added = draft.added ++ [row] := by
        rw [insertRow, dif_pos absent]
        exact ⟨rfl, rfl⟩
      have later := @ih (draft.insertRow row) (by
        rw [inserted.1, inserted.2]
        simpa using free)
      rw [inserted.1, inserted.2, List.append_assoc] at later
      exact later

theorem run_of_free {writes : List (Write ρ)}
    (free : ((draft.seen ++ draft.added ++ writes.flatMap Write.offered).map Keyed.key).Nodup) :
    (draft.run writes).seen = (draft.seen.filter fun row => !writes.any (Write.drops row)) ∧
      (draft.run writes).added = draft.added ++ writes.flatMap Write.offered := by
  induction writes generalizing draft with
  | nil => simp [run]
  | cons write rest ih =>
      cases write with
      | delete drop =>
          have kept : (draft.delete drop).seen.Sublist draft.seen := List.filter_sublist
          obtain ⟨seen, added⟩ := @ih (draft.delete drop)
            ((((kept.append_right draft.added).append_right _).map Keyed.key).nodup free)
          refine ⟨?_, added⟩
          rw [run, List.foldl_cons, ← run, Draft.write, seen, delete, List.filter_filter]
          simp [Write.drops, Bool.and_comm]
      | insert rows =>
          rw [List.flatMap_cons, Write.offered, ← List.append_assoc] at free
          obtain ⟨same, more⟩ := insert_of_free
            (((List.sublist_append_left _ _).map Keyed.key).nodup free)
          have later := @ih (draft.write (.insert rows)) (by
            rw [same, more, ← List.append_assoc]
            exact free)
          rw [same, more] at later
          simpa [run, Write.drops, Write.offered] using later

/-- The sub-statements that replace rows: one deletion and batches of new rows. -/
def replacing (drop : ρ → Bool) (batches : List (List ρ)) : List (Write ρ) :=
  .delete drop :: batches.map .insert

omit [Keyed ρ κ] [DecidableEq κ] in
theorem offered_replacing (drop : ρ → Bool) (batches : List (List ρ)) :
    (replacing drop batches).flatMap Write.offered = batches.flatten := by
  rw [replacing, List.flatMap_cons, List.flatMap_map, Write.offered, List.nil_append]
  exact List.flatMap_id

omit [Keyed ρ κ] [DecidableEq κ] in
theorem drops_replacing (drop : ρ → Bool) (batches : List (List ρ)) (row : ρ) :
    (replacing drop batches).any (Write.drops row) = drop row := by
  simp [replacing, Write.drops, Function.comp_def]

theorem mem_replaced {table : Table ρ} {drop : ρ → Bool} {batches : List (List ρ)}
    {order : List (Write ρ)} (perm : order.Perm (replacing drop batches))
    (distinct : (batches.flatten.map Keyed.key).Nodup)
    (fresh : ∀ row ∈ batches.flatten, ∀ old ∈ table, Keyed.key old ≠ Keyed.key row) {row : ρ} :
    row ∈ ((start table).run order).table ↔
      (row ∈ table ∧ drop row = false) ∨ row ∈ batches.flatten := by
  have offered : (order.flatMap Write.offered).Perm batches.flatten := by
    rw [← offered_replacing drop batches]
    exact perm.flatMap_right _
  have free : ((table.rows ++ order.flatMap Write.offered).map Keyed.key).Nodup := by
    rw [List.map_append]
    refine table.nodup.append ((offered.map Keyed.key).nodup_iff.mpr distinct) ?_
    intro key old new
    obtain ⟨before, before_mem, rfl⟩ := List.mem_map.mp old
    obtain ⟨after, after_mem, same⟩ := List.mem_map.mp new
    exact fresh after (offered.mem_iff.mp after_mem) before before_mem same.symm
  have dropped : order.any (Write.drops row) = drop row := by
    rw [← drops_replacing drop batches row]
    exact perm.any_eq
  have startFree : (((start table).seen ++ (start table).added ++
      order.flatMap Write.offered).map Keyed.key).Nodup := by
    simpa [start] using free
  obtain ⟨seen, added⟩ := run_of_free startFree
  rw [mem_table, seen, added]
  simp only [start, List.nil_append, List.mem_filter, dropped, offered.mem_iff]
  simp [Table.mem_iff]

theorem seen_insertRows (draft : Draft ρ) (rows : List ρ) :
    (rows.foldl insertRow draft).seen = draft.seen := by
  induction rows generalizing draft with
  | nil => rfl
  | cons row rest ih =>
      rw [List.foldl_cons, ih, insertRow]
      split <;> rfl

private theorem seen_inserts (draft : Draft ρ) (batches : List (List ρ)) :
    (draft.run (batches.map .insert)).seen = draft.seen := by
  induction batches generalizing draft with
  | nil => rfl
  | cons rows rest ih =>
      rw [run, List.map_cons, List.foldl_cons, ← run, ih]
      exact seen_insertRows draft rows

theorem key_lost {table : Table ρ} {drop : ρ → Bool} {old : ρ} (member : old ∈ table)
    (dropped : drop old = true) (batches : List (List ρ)) :
    ∀ row ∈ ((start table).run (batches.map .insert ++ [.delete drop])).table,
      Keyed.key row ≠ Keyed.key old := by
  let before := (start table).run (batches.map .insert)
  have seen : before.seen = table.rows := seen_inserts (start table) batches
  have distinct := before.nodup
  rw [List.map_append, List.nodup_append', seen] at distinct
  intro row left same
  rw [run_append] at left
  rcases mem_table.mp left with kept | added
  · obtain ⟨kept, spared⟩ :=
      List.mem_filter.mp (kept : row ∈ before.seen.filter fun row => !drop row)
    rw [seen] at kept
    rw [Table.eq_of_key (Table.mem_iff.mpr kept) member same, dropped] at spared
    cases spared
  · exact distinct.2.2 (List.mem_map_of_mem member) (same ▸ List.mem_map_of_mem added)

end Draft

end SkillCentric
