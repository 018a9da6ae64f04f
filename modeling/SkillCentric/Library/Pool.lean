import SkillCentric.Library.Program

/-!
# Pools of interleaved programs

A `Pool` is a shared state with threads, each a program with the operations it has performed so
far.  One scheduling step performs the next operation of one thread.  A pool is `Sound` for a
family of contracts when every thread meets its contract from the current state; the step rule
reduces the soundness of the next pool to the interference the operation causes.
-/

namespace SkillCentric

variable {Op : Type} {Reply : Op → Type} {State Info ε α : Type}

/-- A thread: what it works on, its past operations with their states, and what is left. -/
structure Thread (Reply : Op → Type) (State Info ε α : Type) where
  info : Info
  past : List (Op × State)
  program : Program Reply ε α

namespace Thread

/-- The operation the thread performs next. -/
def nextOp (thread : Thread Reply State Info ε α) : Option Op :=
  match thread.program with
  | .done _ => none
  | .call op _ => some op

/-- A thread with operations left. -/
def Live (thread : Thread Reply State Info ε α) : Prop := thread.nextOp.isSome

instance (thread : Thread Reply State Info ε α) : Decidable thread.Live :=
  inferInstanceAs (Decidable (thread.nextOp.isSome = true))

variable (exec : (op : Op) → State → Reply op × State)

/-- The thread after its next operation, performed in `state`. -/
def advance (state : State) (thread : Thread Reply State Info ε α) :
    Thread Reply State Info ε α :=
  match thread.program with
  | .done _ => thread
  | .call op next =>
      { thread with
        past := thread.past ++ [(op, state)]
        program := next (exec op state).1 }

@[simp]
theorem advance_info (state : State) (thread : Thread Reply State Info ε α) :
    (thread.advance exec state).info = thread.info := by
  unfold advance
  split <;> rfl

/-- The shared state after the thread's next operation. -/
def effect (state : State) (thread : Thread Reply State Info ε α) : State :=
  match thread.program with
  | .done _ => state
  | .call op _ => (exec op state).2

theorem effect_of_nextOp {state : State} {thread : Thread Reply State Info ε α} {op : Op}
    (next : thread.nextOp = some op) : thread.effect exec state = (exec op state).2 := by
  unfold nextOp at next
  unfold effect
  split at next
  · cases next
  · cases next
    simp

theorem effect_of_done {state : State} {thread : Thread Reply State Info ε α}
    (finished : thread.nextOp = none) : thread.effect exec state = state := by
  unfold nextOp at finished
  unfold effect
  split at finished
  · simp
  · cases finished

end Thread

/-- A shared state and the threads that work on it. -/
structure Pool (Reply : Op → Type) (State Info ε α : Type) where
  state : State
  threads : List (Thread Reply State Info ε α)

namespace Pool

variable (exec : (op : Op) → State → Reply op × State)

/-- Let the thread at `index` perform its next operation. -/
def step (pool : Pool Reply State Info ε α) (index : Nat) : Pool Reply State Info ε α :=
  match pool.threads[index]? with
  | none => pool
  | some thread =>
      { state := thread.effect exec pool.state
        threads := pool.threads.set index (thread.advance exec pool.state) }

/-- Start a thread. -/
def spawn (pool : Pool Reply State Info ε α) (info : Info) (program : Program Reply ε α) :
    Pool Reply State Info ε α :=
  { pool with threads := pool.threads ++ [⟨info, [], program⟩] }

/-- Drop the rest of a thread's program. -/
def crash (pool : Pool Reply State Info ε α) (index : Nat) (outcome : Except ε α) :
    Pool Reply State Info ε α :=
  { pool with
    threads := pool.threads.modify index fun thread => { thread with program := .done outcome } }

variable {thread : Thread Reply State Info ε α} {pool : Pool Reply State Info ε α} {index : Nat}
  {outcome : Except ε α}

theorem step_of_thread (found : pool.threads[index]? = some thread) :
    pool.step exec index =
      { state := thread.effect exec pool.state
        threads := pool.threads.set index (thread.advance exec pool.state) } := by
  simp [step, found]

theorem step_of_none (absent : pool.threads[index]? = none) : pool.step exec index = pool := by
  simp [step, absent]

variable {index other : Nat}

theorem getElem?_step (found : (pool.step exec index).threads[other]? = some thread) :
    ∃ old, pool.threads[other]? = some old ∧ thread.info = old.info ∧
      (other ≠ index → thread = old) ∧
      (other = index → thread = old.advance exec pool.state) := by
  cases located : pool.threads[index]? with
  | none =>
      rw [step_of_none exec located] at found
      refine ⟨thread, found, rfl, fun _ => rfl, ?_⟩
      rintro rfl
      simp [located] at found
  | some old =>
      rw [step_of_thread exec located] at found
      have bound : index < pool.threads.length := (List.getElem?_eq_some_iff.mp located).1
      by_cases same : other = index
      · subst same
        rw [List.getElem?_set_self bound] at found
        cases found
        exact ⟨old, located, by simp, fun differ => (differ rfl).elim, fun _ => rfl⟩
      · rw [List.getElem?_set_ne (Ne.symm same)] at found
        exact ⟨thread, found, rfl, fun _ => rfl, fun equal => (same equal).elim⟩

theorem mem_past_step
    (found : (pool.step exec index).threads[other]? = some thread) {entry : Op × State}
    (listed : entry ∈ thread.past) :
    entry.2 = pool.state ∨ ∃ old, pool.threads[other]? = some old ∧ entry ∈ old.past := by
  obtain ⟨old, located, -, kept, advanced⟩ := getElem?_step exec found
  by_cases same : other = index
  · rw [advanced same, Thread.advance] at listed
    cases program : old.program with
    | done outcome =>
        rw [program] at listed
        exact .inr ⟨old, located, listed⟩
    | call op next =>
        rw [program] at listed
        rcases List.mem_append.mp listed with earlier | now
        · exact .inr ⟨old, located, earlier⟩
        · rw [List.mem_singleton.mp now]
          exact .inl rfl
  · rw [kept same] at listed
    exact .inr ⟨old, located, listed⟩

theorem getElem?_step_of (index : Nat) {other : Nat} (found : pool.threads[other]? = some thread) :
    ∃ next, (pool.step exec index).threads[other]? = some next ∧ next.info = thread.info := by
  cases located : pool.threads[index]? with
  | none =>
      rw [step_of_none exec located]
      exact ⟨thread, found, rfl⟩
  | some old =>
      rw [step_of_thread exec located]
      have bound : index < pool.threads.length := (List.getElem?_eq_some_iff.mp located).1
      by_cases same : other = index
      · subst same
        rw [found] at located
        cases located
        exact ⟨_, List.getElem?_set_self bound, thread.advance_info exec pool.state⟩
      · exact ⟨thread, (List.getElem?_set_ne (Ne.symm same)).trans found, rfl⟩

/-- Every thread meets its contract from the current state. -/
def Sound (contract : Info → Contract Op State) (pool : Pool Reply State Info ε α) : Prop :=
  ∀ (index : Nat) (thread : Thread Reply State Info ε α), pool.threads[index]? = some thread →
    (contract thread.info).Meets exec thread.past thread.program (fun _ _ _ => True) pool.state

variable {exec} {contract : Info → Contract Op State} {pool : Pool Reply State Info ε α}

theorem Sound.guar (sound : pool.Sound exec contract)
    (found : pool.threads[index]? = some thread) {op : Op} (next : thread.nextOp = some op)
    (permitted : (contract thread.info).allowed thread.past op pool.state) :
    (contract thread.info).guar op pool.state := by
  have meets := sound index thread found
  unfold Thread.nextOp at next
  split at next
  · cases next
  · rename_i head rest program_eq
    cases next
    rw [program_eq] at meets
    exact (meets pool.state ((contract thread.info).rely_refl _) permitted).1

theorem meets_of_live_rely {contract : Contract Op State} {before after : State}
    (meets : contract.Meets exec thread.past thread.program (fun _ _ _ => True) before)
    (change : thread.Live → contract.rely before after) :
    contract.Meets exec thread.past thread.program (fun _ _ _ => True) after := by
  cases program_eq : thread.program with
  | done outcome => trivial
  | call op next =>
      have live : thread.Live := by simp [Thread.Live, Thread.nextOp, program_eq]
      rw [program_eq] at meets
      exact meets.of_rely (change live)

theorem Sound.step (sound : pool.Sound exec contract)
    (found : pool.threads[index]? = some thread) (permitted : ∀ op, thread.nextOp = some op →
      (contract thread.info).allowed thread.past op pool.state)
    (interference : ∀ (other : Nat) (peer : Thread Reply State Info ε α), other ≠ index →
      pool.threads[other]? = some peer → peer.Live →
        (contract peer.info).rely pool.state (thread.effect exec pool.state)) :
    (pool.step exec index).Sound exec contract := by
  intro other peer located
  obtain ⟨old, old_found, info_eq, kept, advanced⟩ := getElem?_step exec located
  rw [step_of_thread exec found]
  by_cases same : other = index
  · rw [info_eq, advanced same]
    subst same
    rw [found] at old_found
    cases old_found
    have meets := sound other thread found
    cases program_eq : thread.program with
    | done outcome => simp [Thread.advance, program_eq, Contract.Meets]
    | call op rest =>
        rw [program_eq] at meets
        have next : thread.nextOp = some op := by simp [Thread.nextOp, program_eq]
        have later :=
          (meets pool.state ((contract thread.info).rely_refl _) (permitted op next)).2
        simpa [Thread.advance, Thread.effect, program_eq] using later
  · rw [kept same]
    exact meets_of_live_rely (sound other old old_found) (interference other old same old_found)

theorem Sound.of_rely (sound : pool.Sound exec contract) {state : State}
    (interference : ∀ (index : Nat) (thread : Thread Reply State Info ε α),
      pool.threads[index]? = some thread → thread.Live →
        (contract thread.info).rely pool.state state) :
    ({ pool with state } : Pool Reply State Info ε α).Sound exec contract :=
  fun index thread found =>
    meets_of_live_rely (sound index thread found) (interference index thread found)

theorem getElem?_crash (found : (pool.crash index outcome).threads[other]? = some thread) :
    ∃ old, pool.threads[other]? = some old ∧ thread.info = old.info ∧
      (thread = old ∨ thread.program = .done outcome) := by
  simp only [crash, List.getElem?_modify] at found
  cases located : pool.threads[other]? with
  | none => simp [located] at found
  | some old =>
      by_cases same : index = other
      · simp only [located, same, if_true, Option.map_eq_map, Option.map_some,
          Option.some.injEq] at found
        subst found
        exact ⟨old, rfl, rfl, .inr rfl⟩
      · simp only [located, same, if_false, Option.map_eq_map, Option.map_some,
          Option.some.injEq] at found
        exact ⟨old, rfl, by rw [found], .inl found.symm⟩

theorem crash_past (found : (pool.crash index outcome).threads[other]? = some thread) :
    ∃ old, pool.threads[other]? = some old ∧ thread.info = old.info ∧ thread.past = old.past := by
  simp only [crash, List.getElem?_modify] at found
  obtain ⟨old, located, changed⟩ := Option.map_eq_some_iff.mp found
  refine ⟨old, located, ?_⟩
  subst changed
  split <;> exact ⟨rfl, rfl⟩

theorem getElem?_crash_of (index : Nat) (outcome : Except ε α) {other : Nat}
    (found : pool.threads[other]? = some thread) :
    ∃ next, (pool.crash index outcome).threads[other]? = some next ∧ next.info = thread.info := by
  simp only [crash, List.getElem?_modify, found, Option.map_eq_map, Option.map_some,
    Option.some.injEq, exists_eq_left']
  split <;> rfl

theorem Sound.crash (sound : pool.Sound exec contract) :
    (pool.crash index outcome).Sound exec contract := by
  intro other thread found
  obtain ⟨old, located, info_eq, kept | dropped⟩ := getElem?_crash found
  · subst kept
    exact sound other thread located
  · rw [dropped]
    trivial

theorem getElem?_spawn {info : Info} {program : Program Reply ε α}
    (found : (pool.spawn info program).threads[index]? = some thread) :
    pool.threads[index]? = some thread ∨
      (index = pool.threads.length ∧ thread = ⟨info, [], program⟩) := by
  simp only [spawn] at found
  rcases Nat.lt_or_ge index pool.threads.length with inside | outside
  · rw [List.getElem?_append_left inside] at found
    exact .inl found
  · rw [List.getElem?_append_right outside] at found
    rw [List.getElem?_singleton] at found
    split at found
    · cases found
      exact .inr ⟨by omega, rfl⟩
    · cases found

theorem Sound.spawn (sound : pool.Sound exec contract) {info : Info}
    {program : Program Reply ε α}
    (meets : (contract info).Meets exec [] program (fun _ _ _ => True) pool.state) :
    (pool.spawn info program).Sound exec contract := by
  intro index thread found
  rcases getElem?_spawn found with old | ⟨-, rfl⟩
  · exact sound index thread old
  · exact meets

end Pool

end SkillCentric
