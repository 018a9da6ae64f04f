import SkillCentric.Library.Stateful

/-!
# Refusals

Some errors of a computation are refusals, the others are failures.  A computation settles when it
returns a value with a property, or refuses.  The rules compute what a computation needs in order to
settle, part by part.
-/

namespace SkillCentric

namespace Stateful

variable {ε σ α β : Type} {refusal : ε → Prop} {post : β → Prop}

/-- The computation returns a value with the property, or refuses. -/
def Settles (refusal : ε → Prop) (post : α → Prop) : Except ε α → Prop
  | .ok value => post value
  | .error error => refusal error

@[simp]
theorem settles_ok {post : α → Prop} {value : α} :
    Settles refusal post (.ok value : Except ε α) ↔ post value := Iff.rfl

@[simp]
theorem settles_error {post : α → Prop} {error : ε} :
    Settles refusal post (.error error : Except ε α) ↔ refusal error := Iff.rfl

theorem settles_bind {first : Except ε α} {next : α → Except ε β} :
    Settles refusal post (first >>= next) ↔
      Settles refusal (fun value => Settles refusal post (next value)) first := by
  cases first with
  | ok value => exact Iff.rfl
  | error error => exact Iff.rfl

theorem settles_of_failures {post : α → Prop} {computed : Except ε α}
    (failures : ∀ error, computed = .error error → ¬refusal error) :
    Settles refusal post computed ↔ ∃ value, computed = .ok value ∧ post value := by
  cases computed with
  | ok value => exact ⟨fun holds => ⟨value, rfl, holds⟩, by rintro ⟨_, ⟨⟩, holds⟩; exact holds⟩
  | error error => exact ⟨fun refuses => absurd refuses (failures error rfl), by rintro ⟨_, ⟨⟩, _⟩⟩

theorem failIf_eq_ok {condition : Bool} {failed next : Except ε β} {result : β}
    (fails : failed ≠ .ok result) :
    (if condition = true then failed else next) = .ok result ↔
      condition = false ∧ next = .ok result := by
  cases condition with
  | true => exact iff_of_false fails fun both => Bool.noConfusion both.1
  | false => exact ⟨fun returned => ⟨rfl, returned⟩, And.right⟩

theorem settles_forM {post : PUnit → Prop} {body : α → Except ε PUnit} {items : List α}
    (refuses : ∀ item ∈ items, ∀ error, body item = .error error → refusal error) :
    Settles refusal post (items.forM body) ↔ (∃ item ∈ items, body item ≠ .ok ⟨⟩) ∨ post ⟨⟩ := by
  induction items with
  | nil => simp [List.forM, pure, Except.pure, Settles]
  | cons item rest ih =>
      obtain ⟨head, tail⟩ := List.forall_mem_cons.mp refuses
      change Settles refusal post (body item >>= fun _ => rest.forM body) ↔ _
      rw [settles_bind]
      cases ran : body item with
      | ok value => simp only [settles_ok, ih tail, List.exists_mem_cons_iff, ran, ne_eq,
          not_true_eq_false, false_or]
      | error error =>
          exact iff_of_true (head error ran) (.inl ⟨item, List.mem_cons_self, by rw [ran]; nofun⟩)

theorem mapM_returns_iff {f : α → Except ε β} {values : List α} :
    (∃ results, values.mapM f = .ok results) ↔
      ∀ value ∈ values, ∃ result, f value = .ok result := by
  constructor
  · rintro ⟨results, passed⟩
    induction values generalizing results with
    | nil => exact List.forall_mem_nil _
    | cons value rest ih =>
        rw [List.mapM_cons] at passed
        obtain ⟨first, done, passed⟩ := bind_eq_ok.mp passed
        obtain ⟨others, later, -⟩ := bind_eq_ok.mp passed
        exact List.forall_mem_cons.mpr ⟨⟨first, done⟩, ih others later⟩
  · intro each
    obtain ⟨results, passed, -⟩ := mapM_exists each
    exact ⟨results, passed⟩

theorem settles_perform_bind {first : ExceptT ε (StateM σ) α} {next : α → ExceptT ε (StateM σ) β}
    {state : σ} (kept : (perform first state).2 = state) :
    Settles refusal post (perform (first >>= next) state).1 ↔
      Settles refusal (fun value => Settles refusal post (perform (next value) state).1)
        (perform first state).1 := by
  rw [perform_bind]
  rcases ran : perform first state with ⟨outcome, after⟩
  obtain rfl : after = state := by simpa only [ran] using kept
  cases outcome with
  | ok value => exact Iff.rfl
  | error error => exact Iff.rfl

end Stateful

end SkillCentric
