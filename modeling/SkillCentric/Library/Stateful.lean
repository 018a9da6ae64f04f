import Mathlib.Tactic

/-!
# Stateful checks

Checks over a state that raise errors and keep what they changed before: `ExceptT ε (StateM σ)`.
`Moves` bounds what such a check does to the state, whether it returns or raises.  Loops of pure
checks are `forM` in `Except`.
-/

namespace SkillCentric

namespace Stateful

variable {ε σ α β : Type}

/-- Run a check on a state. -/
def perform (op : ExceptT ε (StateM σ) α) (state : σ) : Except ε α × σ := op.run.run state

@[simp]
theorem perform_pure (value : α) (state : σ) :
    perform (pure value : ExceptT ε (StateM σ) α) state = (.ok value, state) := rfl

@[simp]
theorem perform_get (state : σ) :
    perform (get : ExceptT ε (StateM σ) σ) state = (.ok state, state) := rfl

@[simp]
theorem perform_modify (change : σ → σ) (state : σ) :
    perform (modify change : ExceptT ε (StateM σ) PUnit) state = (.ok ⟨⟩, change state) := rfl

theorem perform_bind (first : ExceptT ε (StateM σ) α) (next : α → ExceptT ε (StateM σ) β)
    (state : σ) :
    perform (first >>= next) state =
      match perform first state with
      | (.ok value, after) => perform (next value) after
      | (.error error, after) => (.error error, after) := by
  change StateT.bind first.run (ExceptT.bindCont next) state = _
  unfold StateT.bind perform
  change (match first.run.run state with
    | (outcome, after) => ExceptT.bindCont next outcome after) = _
  obtain ⟨outcome, after⟩ := first.run.run state
  cases outcome with
  | ok value => rfl
  | error error => rfl

theorem perform_bind_eq {first : ExceptT ε (StateM σ) α} {next : α → ExceptT ε (StateM σ) β}
    {state middle : σ} {value : α} (ran : perform first state = (.ok value, middle)) :
    perform (first >>= next) state = perform (next value) middle := by
  rw [perform_bind, ran]

variable {result : β}

theorem perform_bind_ok {first : ExceptT ε (StateM σ) α} {next : α → ExceptT ε (StateM σ) β}
    {state after : σ} (ran : perform (first >>= next) state = (.ok result, after)) :
    ∃ value middle, perform first state = (.ok value, middle) ∧
      perform (next value) middle = (.ok result, after) := by
  rw [perform_bind] at ran
  split at ran
  · exact ⟨_, _, ‹_›, ran⟩
  · cases ran

/-- Whether it returns or raises, the check takes the state along the relation. -/
def Moves (relation : σ → σ → Prop) (op : ExceptT ε (StateM σ) α) : Prop :=
  ∀ state, relation state (perform op state).2

section Rules

variable {relation : σ → σ → Prop} (refl : ∀ state, relation state state)
  (trans : ∀ ⦃first second third⦄, relation first second → relation second third →
    relation first third)
  {first : ExceptT ε (StateM σ) α} {next : α → ExceptT ε (StateM σ) β}

include refl in
theorem moves_pure (value : α) : Moves relation (pure value : ExceptT ε (StateM σ) α) :=
  fun state => refl state

include refl in
theorem moves_throw (error : ε) : Moves relation (throw error : ExceptT ε (StateM σ) α) :=
  fun state => refl state

include trans in
theorem moves_bind (head : Moves relation first) (tail : ∀ value, Moves relation (next value)) :
    Moves relation (first >>= next) := by
  intro state
  have start := head state
  rw [perform_bind]
  cases ran : perform first state with
  | mk outcome after =>
      rw [ran] at start
      cases outcome with
      | ok value => exact trans start (tail value after)
      | error error => exact start

include refl trans in
theorem moves_forM {body : α → ExceptT ε (StateM σ) PUnit} (items : List α)
    (each : ∀ item, Moves relation (body item)) : Moves relation (items.forM body) := by
  induction items with
  | nil => exact moves_pure refl _
  | cons item rest ih => exact moves_bind trans (each item) fun _ => ih

end Rules

/-- Under the condition the check returns in `after`; otherwise it raises and changes nothing. -/
def Atomic (condition : Prop) (op : ExceptT ε (StateM σ) PUnit) (before after : σ) : Prop :=
  (condition ∧ perform op before = (.ok ⟨⟩, after)) ∨
    (¬condition ∧ ∃ error, perform op before = (.error error, before))

namespace Atomic

variable {condition other : Prop} {before after : σ} {first next : ExceptT ε (StateM σ) PUnit}

theorem done (before : σ) : Atomic True (pure ⟨⟩ : ExceptT ε (StateM σ) PUnit) before before :=
  .inl ⟨trivial, rfl⟩

theorem of_returns (returns : ∀ after, perform first before = (.ok ⟨⟩, after) ↔
      condition ∧ before = after)
    (kept : (perform first before).2 = before) : Atomic condition first before before := by
  rcases ran : perform first before with ⟨outcome, after⟩
  rw [ran] at kept
  cases kept
  cases outcome with
  | ok value => exact .inl ⟨((returns after).mp ran).1, ran⟩
  | error error =>
      refine .inr ⟨fun holds => ?_, error, ran⟩
      rw [(returns after).mpr ⟨holds, rfl⟩] at ran
      cases ran

theorem bind (head : Atomic condition first before before) (tail : Atomic other next before after) :
    Atomic (condition ∧ other) (first >>= fun _ => next) before after := by
  unfold Atomic
  rw [perform_bind]
  rcases head with ⟨holds, ran⟩ | ⟨fails, error, ran⟩
  · rw [ran]
    simpa only [Atomic, holds, true_and] using tail
  · rw [ran]
    exact .inr ⟨fun both => fails both.1, error, rfl⟩

theorem forM {body : α → ExceptT ε (StateM σ) PUnit} {holds : α → Prop} (items : List α)
    (each : ∀ item, Atomic (holds item) (body item) before before) :
    Atomic (∀ item ∈ items, holds item) (items.forM body) before before := by
  induction items with
  | nil => simpa using done before
  | cons item rest ih => simpa using (each item).bind ih

end Atomic

theorem forM_eq_ok {body : α → Except ε PUnit} {items : List α} {value : PUnit} :
    items.forM body = .ok value ↔ ∀ item ∈ items, body item = .ok ⟨⟩ := by
  induction items with
  | nil => simp [pure, Except.pure]
  | cons item rest ih =>
      change (body item >>= fun _ => rest.forM body) = _ ↔ _
      cases outcome : body item with
      | error error => simp [bind, Except.bind, outcome]
      | ok value => simpa [bind, Except.bind, outcome] using ih

theorem eq_ok_of_isOk {result : Except ε α} (default : α) (returned : result.isOk = true) :
    result = .ok (result.toOption.getD default) := by
  cases result with
  | error error => cases returned
  | ok value => rfl

theorem bind_eq_ok {first : Except ε α} {next : α → Except ε β} :
    (first >>= next) = .ok result ↔ ∃ value, first = .ok value ∧ next value = .ok result := by
  cases first with
  | error error => simp [bind, Except.bind]
  | ok value => simp [bind, Except.bind]

theorem mapError_eq_ok {raised : ε → σ} {computed : Except ε α} {value : α} :
    computed.mapError raised = .ok value ↔ computed = .ok value := by
  cases computed with
  | error error => simp [Except.mapError]
  | ok found => simp [Except.mapError]

theorem raiseIf_eq_ok {condition : Bool} {error : ε} {value : PUnit} :
    (if condition = true then Except.error error else .ok ⟨⟩) = .ok value ↔ condition = false := by
  cases condition <;> simp

theorem unless_eq_ok {condition : Prop} [Decidable condition] {error : ε}
    {next : Unit → Except ε β} :
    (if condition then next () else throw error >>= next) = .ok result ↔
      condition ∧ next () = .ok result := by
  split
  · rename_i holds
    simp only [holds, true_and]
  · rename_i fails
    simp [fails, bind, Except.bind, throw, throwThe, MonadExceptOf.throw]

section Passes

variable {values : List α} {results : List β} {f : α → Except ε β}

theorem mapM_ok {g : α → β} (each : ∀ value ∈ values, f value = .ok (g value)) :
    values.mapM f = .ok (values.map g) := by
  induction values with
  | nil => rfl
  | cons value rest ih =>
      rw [List.mapM_cons, each value List.mem_cons_self,
        ih fun other listed => each other (List.mem_cons_of_mem _ listed)]
      rfl

theorem mapM_exists (each : ∀ value ∈ values, ∃ result, f value = .ok result) :
    ∃ results, values.mapM f = .ok results ∧
      ∀ result, result ∈ results ↔ ∃ value ∈ values, f value = .ok result := by
  induction values with
  | nil => exact ⟨[], rfl, by simp⟩
  | cons value rest ih =>
      obtain ⟨first, done⟩ := each value List.mem_cons_self
      obtain ⟨results, passed, members⟩ :=
        ih fun other listed => each other (List.mem_cons_of_mem _ listed)
      refine ⟨first :: results, by rw [List.mapM_cons, done, passed]; rfl, fun result => ?_⟩
      simp only [List.mem_cons, exists_eq_or_imp, done, members, Except.ok.injEq]
      rw [eq_comm]

theorem mapM_related {related : α → β → Prop}
    (each : ∀ value ∈ values, ∃ result, f value = .ok result ∧ related value result) :
    ∃ results, values.mapM f = .ok results ∧ List.Forall₂ related values results := by
  induction values with
  | nil => exact ⟨[], rfl, .nil⟩
  | cons value rest ih =>
      obtain ⟨first, done, fits⟩ := each value List.mem_cons_self
      obtain ⟨results, passed, others⟩ :=
        ih fun other listed => each other (List.mem_cons_of_mem _ listed)
      exact ⟨first :: results, by rw [List.mapM_cons, done, passed]; rfl, .cons fits others⟩

theorem forall₂_of_mapM_ok (passed : values.mapM f = .ok results) :
    List.Forall₂ (fun value result => f value = .ok result) values results := by
  induction values generalizing results with
  | nil =>
      cases passed
      exact .nil
  | cons value rest ih =>
      rw [List.mapM_cons] at passed
      obtain ⟨first, done, passed⟩ := bind_eq_ok.mp passed
      obtain ⟨others, later, passed⟩ := bind_eq_ok.mp passed
      cases passed
      exact .cons done (ih later)

theorem length_of_mapM_ok (passed : values.mapM f = .ok results) :
    results.length = values.length :=
  (forall₂_of_mapM_ok passed).length_eq.symm

theorem exists_right {related : α → β → Prop} (all : List.Forall₂ related values results) :
    ∀ value ∈ values, ∃ result ∈ results, related value result := by
  induction all with
  | nil => exact nofun
  | cons first _ ih =>
      refine List.forall_mem_cons.mpr ⟨⟨_, List.mem_cons_self, first⟩, fun value member => ?_⟩
      obtain ⟨result, listed, found⟩ := ih value member
      exact ⟨result, List.mem_cons_of_mem _ listed, found⟩

theorem mem_of_mapM_ok (passed : values.mapM f = .ok results) :
    ∀ value ∈ values, ∃ result ∈ results, f value = .ok result :=
  exists_right (forall₂_of_mapM_ok passed)

theorem exists_of_mapM_ok (passed : values.mapM f = .ok results) :
    ∀ result ∈ results, ∃ value ∈ values, f value = .ok result :=
  exists_right (forall₂_of_mapM_ok passed).flip

variable {f : α → Option β}

theorem mem_mapM (passed : values.mapM f = some results) (result : β) :
    result ∈ results ↔ ∃ value ∈ values, f value = some result := by
  induction values generalizing results with
  | nil =>
      cases passed
      simp
  | cons value rest ih =>
      rw [List.mapM_cons] at passed
      obtain ⟨first, found, passed⟩ := Option.bind_eq_some_iff.mp passed
      obtain ⟨others, later, done⟩ := Option.bind_eq_some_iff.mp passed
      cases done
      simp only [List.mem_cons, exists_eq_or_imp, found, ih later, Option.some.injEq]
      rw [eq_comm]

theorem mapM_isSome (each : ∀ value ∈ values, ∃ result, f value = some result) :
    ∃ results, values.mapM f = some results := by
  induction values with
  | nil => exact ⟨[], rfl⟩
  | cons value rest ih =>
      obtain ⟨first, found⟩ := each value List.mem_cons_self
      obtain ⟨others, later⟩ := ih fun other listed => each other (List.mem_cons_of_mem _ listed)
      exact ⟨first :: others, by rw [List.mapM_cons, found, later]; rfl⟩

theorem mapM_each (passed : values.mapM f = some results) :
    ∀ value ∈ values, ∃ result, f value = some result := by
  induction values generalizing results with
  | nil => exact nofun
  | cons value rest ih =>
      rw [List.mapM_cons] at passed
      obtain ⟨first, found, passed⟩ := Option.bind_eq_some_iff.mp passed
      obtain ⟨others, later, -⟩ := Option.bind_eq_some_iff.mp passed
      rintro other (_ | ⟨_, listed⟩)
      · exact ⟨first, found⟩
      · exact ih later other listed

end Passes

section Loop

variable {step : σ → α → Except ε σ} {values : List α} {start final : σ}

theorem foldlM_keeps {keeps : σ → Prop}
    (kept : ∀ state value after, step state value = .ok after → keeps state → keeps after)
    (ran : values.foldlM step start = .ok final) (holds : keeps start) : keeps final := by
  induction values generalizing start with
  | nil =>
      cases ran
      exact holds
  | cons value rest ih =>
      rw [List.foldlM_cons] at ran
      obtain ⟨middle, turn, ran⟩ := bind_eq_ok.mp ran
      exact ih ran (kept start value middle turn holds)

theorem foldlM_establishes (holds : α → σ → Prop)
    (done : ∀ state value after, step state value = .ok after → holds value after)
    (kept : ∀ other state value after, step state value = .ok after → holds other state →
      holds other after)
    (ran : values.foldlM step start = .ok final) : ∀ value ∈ values, holds value final := by
  induction values generalizing start with
  | nil => exact fun value member => absurd member List.not_mem_nil
  | cons value rest ih =>
      rw [List.foldlM_cons] at ran
      obtain ⟨middle, turn, rest_ran⟩ := bind_eq_ok.mp ran
      refine List.forall_mem_cons.mpr ⟨?_, ih rest_ran⟩
      exact foldlM_keeps (kept value) rest_ran (done _ _ _ turn)

end Loop

end Stateful

end SkillCentric
