import SkillCentric.Library.Table

/-!
# Seeding a table

A seed is a list of rows that are upserted one after another.  A row that breaks a constraint stops
the seed.  Rows with one key replace each other silently; a seed that keeps all its rows is one in
which the key and the unique indexes tell the rows apart.
-/

namespace SkillCentric

namespace Seeding

variable {ρ κ : Type} [Keyed ρ κ] [DecidableEq κ]

/-- The constraints of a table besides its primary key. -/
structure Constraints (ρ : Type) where
  admits : ρ → Bool
  clash : ρ → ρ → Bool

variable (constraints : Constraints ρ)

/-- `INSERT … ON CONFLICT(key) DO UPDATE SET` every column. -/
def put (table : Table ρ) (row : ρ) : Table ρ :=
  table.upsert row (fun old => if Keyed.key old = Keyed.key row then row else old) fun old => by
    split
    · exact Eq.symm ‹_›
    · rfl

/-- One statement of a seed. -/
def statement (table : Table ρ) (row : ρ) : Option (Table ρ) :=
  if constraints.admits row && table.rows.all fun old =>
    decide (Keyed.key old = Keyed.key row) || !constraints.clash old row then
    some (put table row)
  else none

/-- All statements of a seed, in order. -/
def run (table : Table ρ) (rows : List ρ) : Option (Table ρ) :=
  rows.foldlM (statement constraints) table

/-- The last of the values with an id. -/
def standing {α ι : Type} [DecidableEq ι] (id : α → ι) (values : List α) (key : ι) : Option α :=
  (values.filter fun value => id value = key).getLast?

variable {constraints} {table after : Table ρ} {row other : ρ} {rows : List ρ}

theorem mem_put : other ∈ put table row ↔
    (other ∈ table ∧ Keyed.key other ≠ Keyed.key row) ∨ other = row := by
  rw [put, Table.mem_upsert]
  constructor
  · rintro (kept | ⟨-, new⟩ | ⟨old, found, changed⟩)
    · exact .inl kept
    · exact .inr new
    · rw [if_pos (Table.find?_eq_some.mp found).2] at changed
      exact .inr changed
  · rintro (kept | rfl)
    · exact .inl kept
    · cases found : table.find? (Keyed.key other) with
      | none => exact .inr (.inl ⟨rfl, rfl⟩)
      | some old => exact .inr (.inr ⟨old, rfl, (if_pos (Table.find?_eq_some.mp found).2).symm⟩)

theorem statement_eq_some : statement constraints table row = some after ↔
    (constraints.admits row = true ∧ ∀ old ∈ table, constraints.clash old row = true →
      (Keyed.key old : κ) = Keyed.key row) ∧ after = put table row := by
  unfold statement
  simp only [Bool.and_eq_true, List.all_eq_true, Bool.or_eq_true, decide_eq_true_eq,
    Bool.not_eq_true', Option.ite_none_right_eq_some, Option.some.injEq, Table.mem_iff]
  refine and_congr (and_congr_right fun _ => forall₂_congr fun old _ => ?_) eq_comm
  cases constraints.clash old row <;> simp

theorem run_cons_eq_some : run constraints table (row :: rows) = some after ↔
    (constraints.admits row = true ∧ ∀ old ∈ table, constraints.clash old row = true →
      (Keyed.key old : κ) = Keyed.key row) ∧ run constraints (put table row) rows = some after := by
  change (statement constraints table row).bind (run constraints · rows) = some after ↔ _
  rw [Option.bind_eq_some_iff]
  constructor
  · rintro ⟨next, stated, later⟩
    obtain ⟨sound, rfl⟩ := statement_eq_some.mp stated
    exact ⟨sound, later⟩
  · exact fun ⟨sound, later⟩ => ⟨_, statement_eq_some.mpr ⟨sound, rfl⟩, later⟩

theorem mem_of_run (ran : run constraints table rows = some after) (found : other ∈ after) :
    other ∈ table ∨ other ∈ rows := by
  induction rows generalizing table with
  | nil =>
      cases ran
      exact .inl found
  | cons row rest ih =>
      rcases ih (run_cons_eq_some.mp ran).2 with before | new
      · rcases mem_put.mp before with ⟨old, -⟩ | rfl
        · exact .inl old
        · exact .inr List.mem_cons_self
      · exact .inr (List.mem_cons_of_mem _ new)

theorem admits_of_run (ran : run constraints table rows = some after) :
    ∀ row ∈ rows, constraints.admits row = true := by
  induction rows generalizing table with
  | nil => simp
  | cons row rest ih =>
      obtain ⟨sound, later⟩ := run_cons_eq_some.mp ran
      exact List.forall_mem_cons.mpr ⟨sound.1, ih later⟩

theorem clashes_of_run
    (symm : ∀ row other, constraints.clash row other = constraints.clash other row)
    (unique : ∀ row ∈ table, ∀ other ∈ table, constraints.clash row other = true →
      (Keyed.key row : κ) = Keyed.key other)
    (ran : run constraints table rows = some after) :
    ∀ row ∈ after, ∀ other ∈ after, constraints.clash row other = true →
      (Keyed.key row : κ) = Keyed.key other := by
  induction rows generalizing table with
  | nil =>
      cases ran
      exact unique
  | cons row rest ih =>
      obtain ⟨⟨-, free⟩, later⟩ := run_cons_eq_some.mp ran
      refine ih ?_ later
      intro left left_mem right right_mem clash
      rw [mem_put] at left_mem right_mem
      rcases left_mem with ⟨left_old, -⟩ | rfl <;> rcases right_mem with ⟨right_old, -⟩ | rfl
      · exact unique left left_old right right_old clash
      · exact free left left_old clash
      · exact (free right right_old (symm left right ▸ clash)).symm
      · rfl

theorem run_of_sound (admits : ∀ row ∈ rows, constraints.admits row = true)
    (clashes : ∀ old, old ∈ table ∨ old ∈ rows → ∀ row ∈ rows, constraints.clash old row = true →
      (Keyed.key old : κ) = Keyed.key row) :
    ∃ after, run constraints table rows = some after := by
  induction rows generalizing table with
  | nil => exact ⟨table, rfl⟩
  | cons row rest ih =>
      suffices later : ∃ after, run constraints (put table row) rest = some after from
        later.imp fun after ran => run_cons_eq_some.mpr ⟨⟨admits row List.mem_cons_self,
          fun old found => clashes old (.inl found) row List.mem_cons_self⟩, ran⟩
      refine ih (fun other listed => admits other (List.mem_cons_of_mem _ listed)) ?_
      intro old there other listed
      refine clashes old ?_ other (List.mem_cons_of_mem _ listed)
      rcases there with there | there
      · rcases mem_put.mp there with ⟨before, -⟩ | rfl
        · exact .inl before
        · exact .inr List.mem_cons_self
      · exact .inr (List.mem_cons_of_mem _ there)

theorem mem_run_of_mem (ran : run constraints table rows = some after) (found : other ∈ table)
    (alone : ∀ row ∈ rows, (Keyed.key row : κ) = Keyed.key other → row = other) :
    other ∈ after := by
  induction rows generalizing table with
  | nil =>
      cases ran
      exact found
  | cons row rest ih =>
      obtain ⟨-, later⟩ := run_cons_eq_some.mp ran
      refine ih later ?_ fun next listed => alone next (List.mem_cons_of_mem _ listed)
      rw [mem_put]
      by_cases same : (Keyed.key row : κ) = Keyed.key other
      · exact .inr (alone row List.mem_cons_self same).symm
      · exact .inl ⟨found, fun equal => same equal.symm⟩

theorem mem_run (ran : run constraints table rows = some after) (listed : other ∈ rows)
    (alone : ∀ row ∈ rows, (Keyed.key row : κ) = Keyed.key other → row = other) :
    other ∈ after := by
  induction rows generalizing table with
  | nil => cases listed
  | cons row rest ih =>
      obtain ⟨-, later⟩ := run_cons_eq_some.mp ran
      have later_alone := fun next listed => alone next (List.mem_cons_of_mem row listed)
      rcases List.mem_cons.mp listed with rfl | listed
      · exact mem_run_of_mem later (mem_put.mpr (.inr rfl)) later_alone
      · exact ih later listed later_alone

theorem find?_put {key : κ} : (put table row).find? key =
    if Keyed.key row = key then some row else table.find? key := by
  apply Option.ext
  intro other
  rw [Table.find?_eq_some, mem_put]
  split
  · rename_i same
    subst same
    simp only [Option.some.injEq]
    constructor
    · rintro ⟨⟨-, differ⟩ | rfl, same⟩
      · exact absurd same differ
      · rfl
    · rintro rfl
      exact ⟨.inr rfl, rfl⟩
  · rename_i differ
    rw [Table.find?_eq_some]
    constructor
    · rintro ⟨⟨there, -⟩ | rfl, same⟩
      · exact ⟨there, same⟩
      · exact absurd same differ
    · rintro ⟨there, rfl⟩
      exact ⟨.inl ⟨there, fun same => differ same.symm⟩, rfl⟩

variable {α ι : Type} {id : α → ι} {values : List α}

theorem standing_cons [DecidableEq ι] {value : α} {rest : List α} {key : ι} :
    standing id (value :: rest) key =
      (standing id rest key).or (if id value = key then some value else none) := by
  unfold standing
  rw [List.filter_cons]
  by_cases same : id value = key
  · rw [if_pos (by simpa using same), if_pos same, List.getLast?_cons]
    cases (rest.filter fun value => id value = key).getLast? <;> rfl
  · rw [if_neg (by simpa using same), if_neg same, Option.or_none]

theorem find?_run (ran : run constraints table rows = some after) (key : κ) :
    after.find? key = (standing Keyed.key rows key).or (table.find? key) := by
  induction rows generalizing table with
  | nil =>
      cases ran
      rfl
  | cons row rest ih =>
      obtain ⟨-, later⟩ := run_cons_eq_some.mp ran
      rw [ih later, find?_put, standing_cons]
      cases standing Keyed.key rest key <;> split <;> rfl

private theorem standing_eq_none [DecidableEq ι] {key : ι} :
    standing id values key = none ↔ ∀ value ∈ values, id value ≠ key := by
  simp [standing]

theorem mem_of_standing [DecidableEq ι] {key : ι}
    {value : α} (stands : standing id values key = some value) :
    value ∈ values ∧ id value = key := by
  have found := List.mem_filter.mp (List.mem_of_getLast? stands)
  exact ⟨found.1, of_decide_eq_true found.2⟩

theorem exists_of_run (ran : run constraints table rows = some after) (listed : row ∈ rows) :
    ∃ other ∈ after, (Keyed.key other : κ) = Keyed.key row := by
  have found := find?_run ran (Keyed.key row)
  cases stands : standing Keyed.key rows (Keyed.key row) with
  | none => exact absurd rfl (standing_eq_none.mp stands row listed)
  | some other =>
      rw [stands, Option.some_or] at found
      exact ⟨other, Table.find?_eq_some.mp found⟩

theorem mem_run_iff (ran : run constraints .empty rows = some after) :
    row ∈ after ↔ standing Keyed.key rows (Keyed.key row) = some row := by
  have found := find?_run ran (Keyed.key row)
  have empty : (Table.empty : Table ρ).find? (Keyed.key row) = none := rfl
  rw [empty, Option.or_none] at found
  rw [← found, Table.find?_eq_some, and_iff_left rfl]

theorem filter_insertionSort {α : Type} {before : α → α → Prop} [DecidableRel before]
    {keep : α → Bool}
    {values : List α} (level : ∀ left ∈ values, ∀ right ∈ values, keep left = true →
      keep right = true → before left right) :
    (values.insertionSort before).filter keep = values.filter keep := by
  have insert (value : α) (list : List α)
      (level : ∀ right ∈ list, keep value = true → keep right = true → before value right) :
      (list.orderedInsert before value).filter keep = (value :: list).filter keep := by
    induction list with
    | nil => rfl
    | cons head tail ih =>
        rw [List.orderedInsert_cons]
        split
        · rfl
        · rename_i after
          rw [List.filter_cons, ih fun right listed => level right (.tail head listed)]
          simp only [List.filter_cons]
          by_cases kept : keep value = true <;> by_cases head_kept : keep head = true
          · exact absurd (level head List.mem_cons_self kept head_kept) after
          all_goals simp [kept, head_kept]
  induction values with
  | nil => rfl
  | cons value rest ih =>
      have later := ih fun left left_mem right right_mem =>
        level left (.tail value left_mem) right (.tail value right_mem)
      rw [List.insertionSort_cons, insert, List.filter_cons, later, ← List.filter_cons]
      intro right listed
      rw [List.mem_insertionSort] at listed
      exact level value List.mem_cons_self right (.tail value listed)

theorem standing_insertionSort [DecidableEq ι] {before : α → α → Prop} [DecidableRel before]
    (level : ∀ left ∈ values, ∀ right ∈ values, id left = id right → before left right) (key : ι) :
    standing id (values.insertionSort before) key = standing id values key := by
  unfold standing
  rw [filter_insertionSort]
  intro left left_mem right right_mem left_key right_key
  exact level left left_mem right right_mem
    ((of_decide_eq_true left_key).trans (of_decide_eq_true right_key).symm)

theorem standing_map {α β ι : Type} [DecidableEq ι] (id : β → ι) (image : α → β) (values : List α)
    (key : ι) : standing id (values.map image) key =
      (standing (fun value => id (image value)) values key).map image := by
  simp only [standing, List.filter_map, List.getLast?_map, Function.comp_def]

theorem standing_injective {α ι ι' : Type} [DecidableEq ι] [DecidableEq ι'] {join : ι → ι'}
    (injective : Function.Injective join) (id : α → ι) (values : List α) (key : ι) :
    standing (fun value => join (id value)) values (join key) = standing id values key := by
  simp only [standing, injective.eq_iff]

end Seeding

end SkillCentric
