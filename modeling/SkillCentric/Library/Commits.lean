import SkillCentric.Library.Serial
import SkillCentric.Library.Stateful

/-!
# Statements that are committed one by one

Each statement of a call is its own transaction: it runs as a whole or not at all, and what it wrote
stays when a later one fails.  A statement fails by its own error, because the store refuses it, or
because the answer is lost after it has run.  The rules compute, statement by statement, which
states a call may leave behind when it raises and when it returns.
-/

namespace SkillCentric

/-- What becomes of a statement that is sent to a store. -/
inductive Delivery where
  | answered
  | unanswered
  | refused
  deriving DecidableEq, Repr

namespace Stateful

variable {ε σ α β : Type}

/-- Send one statement; `failed` is raised when it is refused or not answered. -/
def commit (failed : ε) (delivery : Delivery) (statement : σ → Except ε (α × σ)) :
    ExceptT ε (StateM σ) α :=
  ExceptT.mk fun state =>
    match statement state with
    | .error error => (.error error, state)
    | .ok (value, after) =>
        match delivery with
        | .answered => (.ok value, after)
        | .unanswered => (.error failed, after)
        | .refused => (.error failed, state)

/-- If the call raises, it leaves a good state. -/
def RaisesIn (good : σ → Prop) (op : ExceptT ε (StateM σ) α) (state : σ) : Prop :=
  ∀ error after, perform op state = (.error error, after) → good after

/-- If the call returns, its value and the state it leaves are good. -/
def ReturnsIn (good : α → σ → Prop) (op : ExceptT ε (StateM σ) α) (state : σ) : Prop :=
  ∀ value after, perform op state = (.ok value, after) → good value after

variable {failed : ε} {delivery : Delivery} {statement : σ → Except ε (α × σ)} {state : σ}

theorem perform_commit :
    perform (commit failed delivery statement) state =
      match statement state with
      | .error error => (.error error, state)
      | .ok (value, after) =>
          match delivery with
          | .answered => (.ok value, after)
          | .unanswered => (.error failed, after)
          | .refused => (.error failed, state) := rfl

section Raises

variable {good : σ → Prop}

theorem raisesIn_pure (value : α) : RaisesIn good (pure value : ExceptT ε (StateM σ) α) state :=
  fun _ _ raised => nomatch raised

theorem raisesIn_throw (error : ε) :
    RaisesIn good (throw error : ExceptT ε (StateM σ) α) state ↔ good state := by
  constructor
  · exact fun kept => kept error state rfl
  · intro here _ _ raised
    cases raised
    exact here

theorem raisesIn_bind_commit {next : α → ExceptT ε (StateM σ) β} {value : α} {after : σ}
    (runs : statement state = .ok (value, after)) :
    RaisesIn good (commit failed delivery statement >>= next) state ↔
      (delivery = .refused → good state) ∧ (delivery = .unanswered → good after) ∧
        (delivery = .answered → RaisesIn good (next value) after) := by
  unfold RaisesIn
  rw [perform_bind, perform_commit, runs]
  cases delivery <;> simp

theorem raisesIn_bind_commit_of_error {next : α → ExceptT ε (StateM σ) β} {error : ε}
    (fails : statement state = .error error) :
    RaisesIn good (commit failed delivery statement >>= next) state ↔ good state := by
  unfold RaisesIn
  rw [perform_bind, perform_commit, fails]
  simp

end Raises

section Returns

variable {good : β → σ → Prop}

theorem returnsIn_pure (value : β) :
    ReturnsIn good (pure value : ExceptT ε (StateM σ) β) state ↔ good value state := by
  constructor
  · exact fun returned => returned value state rfl
  · intro here _ _ returned
    cases returned
    exact here

theorem returnsIn_throw (error : ε) :
    ReturnsIn good (throw error : ExceptT ε (StateM σ) β) state :=
  fun _ _ returned => nomatch returned

theorem returnsIn_bind_commit {next : α → ExceptT ε (StateM σ) β} {value : α} {after : σ}
    (runs : statement state = .ok (value, after)) :
    ReturnsIn good (commit failed delivery statement >>= next) state ↔
      (delivery = .answered → ReturnsIn good (next value) after) := by
  unfold ReturnsIn
  rw [perform_bind, perform_commit, runs]
  cases delivery <;> simp

theorem returnsIn_bind_commit_of_error {next : α → ExceptT ε (StateM σ) β} {error : ε}
    (fails : statement state = .error error) :
    ReturnsIn good (commit failed delivery statement >>= next) state := by
  unfold ReturnsIn
  rw [perform_bind, perform_commit, fails]
  simp

end Returns

end Stateful

namespace Table

variable {ρ α : Type} [Keyed ρ Nat]

theorem insertAll_update_eq_iff {table : Table ρ} {change : ρ → ρ}
    {keeps : ∀ row, Keyed.key (change row) = (Keyed.key row : Nat)} {items : List α}
    {make : Nat → α → ρ} {keyed : ∀ key item, Keyed.key (make key item) = key} :
    (table.update change keeps).insertAll items make keyed = table ↔
      items = [] ∧ ∀ row ∈ table, change row = row := by
  rw [Table.ext_iff, rows_insertAll]
  change table.rows.map change ++ _ = table.rows ↔ _
  constructor
  · intro same
    have length := congrArg List.length same
    have none_inserted : items = [] := by
      rw [List.length_append, List.length_map, List.length_mapIdx] at length
      exact List.length_eq_zero_iff.mp (by omega)
    subst none_inserted
    rw [List.mapIdx_nil, List.append_nil] at same
    refine ⟨rfl, fun row member => ?_⟩
    exact List.map_inj_left.mp (same.trans (List.map_id table.rows).symm) row member
  · rintro ⟨rfl, unchanged⟩
    rw [List.mapIdx_nil, List.append_nil]
    exact (List.map_congr_left unchanged).trans (List.map_id table.rows)

end Table

end SkillCentric
