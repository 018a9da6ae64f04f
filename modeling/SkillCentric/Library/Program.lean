import Mathlib.Tactic

/-!
# Programs of atomic operations

A `Program` is a finitely deep tree of atomic operations on a shared state, each followed by a
continuation that reads the reply, and ends with a value or a raised error.  `Meets` is the
weakest precondition of such a program under interference: between two operations of the program
the state may change along `rely`, every operation is taken only when it is `allowed`, and each
one owes `guar`.  `Triple` is the Hoare-triple view of it, with one postcondition for a returned
value and one for a raised error.
-/

namespace SkillCentric

/-- A program whose atomic operations are drawn from `Op`. -/
inductive Program {Op : Type} (Reply : Op → Type) (ε α : Type) : Type where
  | done (outcome : Except ε α)
  | call (op : Op) (next : Reply op → Program Reply ε α)

namespace Program

variable {Op : Type} {Reply : Op → Type} {ε α β : Type}

/-- Sequential composition; a raised error skips the continuation. -/
def bind : Program Reply ε α → (α → Program Reply ε β) → Program Reply ε β
  | .done (.ok value), next => next value
  | .done (.error error), _ => .done (.error error)
  | .call op rest, next => .call op fun reply => (rest reply).bind next

/-- Run a handler on the error a program raises. -/
def tryCatch : Program Reply ε α → (ε → Program Reply ε α) → Program Reply ε α
  | .done (.ok value), _ => .done (.ok value)
  | .done (.error error), handler => handler error
  | .call op rest, handler => .call op fun reply => (rest reply).tryCatch handler

instance : Monad (Program Reply ε) where
  pure value := .done (.ok value)
  bind := bind

instance : MonadExceptOf ε (Program Reply ε) where
  throw error := .done (.error error)
  tryCatch := tryCatch

/-- The program of a single operation. -/
def op (operation : Op) : Program Reply ε (Reply operation) :=
  .call operation fun reply => .done (.ok reply)

/-- The program that performs no operation and ends with the given outcome. -/
def ofExcept (outcome : Except ε α) : Program Reply ε α := .done outcome

/-- Run a program and return its outcome instead of raising. -/
def attempt : Program Reply ε α → Program Reply ε (Except ε α)
  | .done outcome => .done (.ok outcome)
  | .call op next => .call op fun reply => (next reply).attempt

variable {State : Type} (exec : (op : Op) → State → Reply op × State)

/-- Run a program to its end with no other program around. -/
def run : Program Reply ε α → State → Except ε α × State
  | .done outcome, state => (outcome, state)
  | .call op next, state => run (next (exec op state).1) (exec op state).2

@[simp]
theorem run_done (outcome : Except ε α) (state : State) :
    run exec (.done outcome : Program Reply ε α) state = (outcome, state) := rfl

@[simp]
theorem run_pure (value : α) (state : State) :
    run exec (pure value : Program Reply ε α) state = (.ok value, state) := rfl

@[simp]
theorem run_throw (error : ε) (state : State) :
    run exec (throw error : Program Reply ε α) state = (.error error, state) := rfl

@[simp]
theorem run_ofExcept (outcome : Except ε α) (state : State) :
    run exec (ofExcept outcome : Program Reply ε α) state = (outcome, state) := rfl

@[simp]
theorem run_op (operation : Op) (state : State) :
    run exec (op operation : Program Reply ε (Reply operation)) state =
      (.ok (exec operation state).1, (exec operation state).2) := rfl

theorem run_bind (program : Program Reply ε α) (next : α → Program Reply ε β) (state : State) :
    run exec (program >>= next) state =
      match run exec program state with
      | (.ok value, after) => run exec (next value) after
      | (.error error, after) => (.error error, after) := by
  change run exec (program.bind next) state = _
  induction program generalizing state with
  | done outcome => cases outcome <;> rfl
  | call op rest ih => exact ih _ _

theorem run_bind_ok {program : Program Reply ε α} {next : α → Program Reply ε β}
    {state after : State} {result : β}
    (ran : run exec (program >>= next) state = (.ok result, after)) :
    ∃ value middle, run exec program state = (.ok value, middle) ∧
      run exec (next value) middle = (.ok result, after) := by
  rw [run_bind] at ran
  split at ran
  · exact ⟨_, _, ‹_›, ran⟩
  · cases ran

@[simp]
theorem run_attempt (program : Program Reply ε α) (state : State) :
    run exec program.attempt state =
      (.ok (run exec program state).1, (run exec program state).2) := by
  induction program generalizing state with
  | done outcome => rfl
  | call op rest ih => exact ih _ _

/-- Every operation the program can perform satisfies `p`, and every value it can return satisfies
`returned`, whatever states its operations are performed in. -/
def Yields (p : Op → Prop) (returned : α → Prop) : Program Reply ε α → Prop
  | .done (.ok value) => returned value
  | .done (.error _) => True
  | .call op next => p op ∧ ∀ state, (next (exec op state).1).Yields p returned

section Yields

variable {exec} {p q : Op → Prop} {program : Program Reply ε α} {returned : α → Prop}

theorem Yields.mono {returned returned' : α → Prop}
    (yields : program.Yields exec p returned) (weaken : ∀ op, p op → q op)
    (weaken_returned : ∀ value, returned value → returned' value) :
    program.Yields exec q returned' := by
  induction program with
  | done outcome =>
      cases outcome with
      | ok value => exact weaken_returned value yields
      | error error => trivial
  | call op next ih =>
      exact ⟨weaken op yields.1, fun state => ih _ (yields.2 state)⟩

theorem yields_trivial (program : Program Reply ε α) :
    program.Yields exec (fun _ => True) fun _ => True := by
  induction program with
  | done outcome => cases outcome <;> trivial
  | call op next ih => exact ⟨trivial, fun state => ih _⟩

theorem yields_pure {value : α} (holds : returned value) :
    (pure value : Program Reply ε α).Yields exec p returned := holds

theorem yields_throw {error : ε} :
    (throw error : Program Reply ε α).Yields exec p returned := trivial

theorem yields_ofExcept {outcome : Except ε α}
    (holds : ∀ value, outcome = .ok value → returned value) :
    (ofExcept outcome : Program Reply ε α).Yields exec p returned := by
  cases outcome with
  | ok value => exact holds value rfl
  | error error => trivial

theorem yields_op {operation : Op} {returned : Reply operation → Prop} (holds : p operation)
    (holds_returned : ∀ state, returned (exec operation state).1) :
    (op operation : Program Reply ε (Reply operation)).Yields exec p returned :=
  ⟨holds, holds_returned⟩

theorem yields_bind {next : α → Program Reply ε β}
    {middle : α → Prop} {returned : β → Prop} (first : program.Yields exec p middle)
    (second : ∀ value, middle value → (next value).Yields exec p returned) :
    (program >>= next).Yields exec p returned := by
  change (program.bind next).Yields exec p returned
  induction program with
  | done outcome =>
      cases outcome with
      | ok value => exact second value first
      | error error => trivial
  | call op rest ih => exact ⟨first.1, fun state => ih _ (first.2 state)⟩

theorem yields_seq {next : α → Program Reply ε β}
    {returned : β → Prop} (first : program.Yields exec p fun _ => True)
    (second : ∀ value, (next value).Yields exec p returned) :
    (program >>= next).Yields exec p returned :=
  yields_bind first fun value _ => second value

theorem yields_attempt (yields : program.Yields exec p returned) :
    program.attempt.Yields exec p fun outcome =>
      ∀ value, outcome = .ok value → returned value := by
  induction program with
  | done outcome =>
      rintro value rfl
      exact yields
  | call op next ih => exact ⟨yields.1, fun state => ih _ (yields.2 state)⟩

theorem Yields.run_invariant (yields : program.Yields exec p returned) (inv : State → Prop)
    (keep : ∀ op state, p op → inv state → inv (exec op state).2) {state : State}
    (init : inv state) : inv (program.run exec state).2 := by
  induction program generalizing state with
  | done outcome => exact init
  | call op next ih =>
      exact ih _ (yields.2 state) (keep op state yields.1 init)

end Yields

end Program

/-- What a program may assume of its surroundings and what each of its operations owes. -/
structure Contract (Op State : Type) where
  rely : State → State → Prop
  allowed : List (Op × State) → Op → State → Prop
  guar : Op → State → Prop
  rely_refl : ∀ state, rely state state
  rely_trans : ∀ first second third, rely first second → rely second third → rely first third

namespace Contract

variable {Op : Type} {Reply : Op → Type} {State ε α β : Type}
variable (exec : (op : Op) → State → Reply op × State) (contract : Contract Op State)

/-- Weakest precondition of a program under a contract. -/
def Meets : List (Op × State) → Program Reply ε α →
    (List (Op × State) → Except ε α → State → Prop) → State → Prop
  | past, .done outcome, post, state => post past outcome state
  | past, .call op next, post, state =>
      ∀ now, contract.rely state now → contract.allowed past op now →
        contract.guar op now ∧
          Meets (past ++ [(op, now)]) (next (exec op now).1) post (exec op now).2

variable {exec contract}

variable {program : Program Reply ε α} {past : List (Op × State)} {state : State}
  {returned : α → State → Prop} {pre : State → Prop} {raised : ε → State → Prop}

theorem Meets.mono {post weaker : List (Op × State) → Except ε α → State → Prop}
    (meets : contract.Meets exec past program post state)
    (weaken : ∀ past outcome state, post past outcome state → weaker past outcome state) :
    contract.Meets exec past program weaker state := by
  induction program generalizing past state with
  | done outcome => exact weaken _ _ _ meets
  | call op next ih =>
      intro now reach permitted
      obtain ⟨owed, rest⟩ := meets now reach permitted
      exact ⟨owed, ih _ rest⟩

theorem Meets.of_rely {before after : State}
    (meets : contract.Meets exec past program (fun _ _ _ => True) before)
    (change : contract.rely before after) :
    contract.Meets exec past program (fun _ _ _ => True) after := by
  cases program with
  | done outcome => trivial
  | call op next =>
      intro now reach permitted
      exact meets now (contract.rely_trans _ _ _ change reach) permitted

theorem meets_bind {next : α → Program Reply ε β}
    {post : List (Op × State) → Except ε β → State → Prop} (meets : contract.Meets exec past program
      (fun past outcome state =>
        match outcome with
        | .ok value => contract.Meets exec past (next value) post state
        | .error error => post past (.error error) state) state) :
    contract.Meets exec past (program >>= next) post state := by
  change contract.Meets exec past (program.bind next) post state
  induction program generalizing past state with
  | done outcome => cases outcome <;> exact meets
  | call op rest ih =>
      intro now reach permitted
      obtain ⟨owed, later⟩ := meets now reach permitted
      exact ⟨owed, ih _ later⟩

theorem meets_attempt {post : List (Op × State) → Except ε (Except ε α) → State → Prop}
    (meets : contract.Meets exec past program
      (fun past outcome state => post past (.ok outcome) state) state) :
    contract.Meets exec past program.attempt post state := by
  induction program generalizing past state with
  | done outcome => exact meets
  | call op rest ih =>
      intro now reach permitted
      obtain ⟨owed, later⟩ := meets now reach permitted
      exact ⟨owed, ih _ later⟩

variable (exec contract)

/-- An assertion no relied-on change can break. -/
def Stable (assertion : State → Prop) : Prop :=
  ∀ before after, contract.rely before after → assertion before → assertion after

/-- From `pre`, the program ends in `returned` with a value or in `raised` with an error. -/
def Triple (pre : State → Prop) (program : Program Reply ε α)
    (returned : α → State → Prop) (raised : ε → State → Prop) : Prop :=
  ∀ past state, pre state →
    contract.Meets exec past program
      (fun _ outcome state =>
        match outcome with
        | .ok value => returned value state
        | .error error => raised error state) state

variable {exec contract}

theorem stable_and {left right : State → Prop} (left_stable : contract.Stable left)
    (right_stable : contract.Stable right) :
    contract.Stable fun state => left state ∧ right state :=
  fun before after change holds =>
    ⟨left_stable before after change holds.1, right_stable before after change holds.2⟩

theorem Triple.conseq {pre pre' : State → Prop}
    {returned returned' : α → State → Prop} {raised raised' : ε → State → Prop}
    (triple : contract.Triple exec pre program returned raised)
    (strengthen : ∀ state, pre' state → pre state)
    (weaken : ∀ value state, returned value state → returned' value state)
    (weaken_raised : ∀ error state, raised error state → raised' error state) :
    contract.Triple exec pre' program returned' raised' := by
  intro past state holds
  refine (triple past state (strengthen state holds)).mono fun _ outcome after post => ?_
  cases outcome with
  | ok value => exact weaken value after post
  | error error => exact weaken_raised error after post

theorem Triple.raising {raised raised' : ε → State → Prop}
    (triple : contract.Triple exec pre program returned raised)
    (weaken : ∀ error state, raised error state → raised' error state) :
    contract.Triple exec pre program returned raised' :=
  triple.conseq (fun _ holds => holds) (fun _ _ post => post) weaken

theorem triple_of_fact {fact : Prop}
    (triple : fact → contract.Triple exec pre program returned raised) :
    contract.Triple exec (fun state => fact ∧ pre state) program returned raised :=
  fun past state holds => triple holds.1 past state holds.2

theorem triple_pure {value : α} (post : ∀ state, pre state → returned value state) :
    contract.Triple exec pre (pure value : Program Reply ε α) returned raised :=
  fun _ state holds => post state holds

theorem triple_throw {error : ε} (post : ∀ state, pre state → raised error state) :
    contract.Triple exec pre (throw error : Program Reply ε α) returned raised :=
  fun _ state holds => post state holds

theorem triple_ofExcept {outcome : Except ε α}
    (post : ∀ value state, outcome = .ok value → pre state → returned value state)
    (post_raised : ∀ error state, outcome = .error error → pre state → raised error state) :
    contract.Triple exec pre (Program.ofExcept outcome : Program Reply ε α) returned raised := by
  intro _ state holds
  cases outcome with
  | ok value => exact post value state rfl holds
  | error error => exact post_raised error state rfl holds

theorem triple_op {operation : Op} {returned : Reply operation → State → Prop}
    (stable : contract.Stable pre)
    (step : ∀ past now, pre now → contract.allowed past operation now →
      contract.guar operation now ∧ returned (exec operation now).1 (exec operation now).2) :
    contract.Triple exec pre (Program.op operation : Program Reply ε _) returned raised :=
  fun past state holds now reach permitted =>
    step past now (stable state now reach holds) permitted

theorem triple_bind {next : α → Program Reply ε β} {middle : α → State → Prop}
    {returned : β → State → Prop} (first : contract.Triple exec pre program middle raised)
    (second : ∀ value, contract.Triple exec (middle value) (next value) returned raised) :
    contract.Triple exec pre (program >>= next) returned raised := by
  intro past state holds
  refine meets_bind ((first past state holds).mono fun past outcome after post => ?_)
  cases outcome with
  | ok value => exact second value past after post
  | error error => exact post

theorem triple_attempt {middle raised : ε → State → Prop}
    (body : contract.Triple exec pre program returned middle) :
    contract.Triple exec pre program.attempt
      (fun outcome state =>
        match outcome with
        | .ok value => returned value state
        | .error error => middle error state) raised := by
  intro past state holds
  refine meets_attempt ((body past state holds).mono fun past outcome after post => ?_)
  cases outcome <;> exact post

theorem triple_of_yields {p : Op → Prop}
    {returned : α → Prop} (yields : program.Yields exec p returned) (stable : contract.Stable pre)
    (step : ∀ op past now, p op → pre now → contract.allowed past op now →
      contract.guar op now ∧ pre (exec op now).2) :
    contract.Triple exec pre program (fun value state => returned value ∧ pre state)
      (fun _ => pre) := by
  intro past state holds
  induction program generalizing past state with
  | done outcome =>
      cases outcome with
      | ok value => exact ⟨yields, holds⟩
      | error error => exact holds
  | call op next ih =>
      intro now reach permitted
      obtain ⟨owed, kept⟩ := step op past now yields.1 (stable state now reach holds) permitted
      exact ⟨owed, ih _ (yields.2 _) _ _ kept⟩

/-- The contract of a program that runs alone and owes nothing. -/
def alone (Op State : Type) : Contract Op State where
  rely before after := before = after
  allowed _ _ _ := True
  guar _ _ := True
  rely_refl _ := rfl
  rely_trans _ _ _ first second := first.trans second

theorem stable_alone (assertion : State → Prop) : (alone Op State).Stable assertion :=
  fun _ _ same holds => same ▸ holds

theorem triple_alone_trivial (pre : State → Prop) (program : Program Reply ε α) :
    (alone Op State).Triple exec pre program (fun _ _ => True) (fun _ _ => True) := by
  intro past state holds
  clear holds
  induction program generalizing past state with
  | done outcome => cases outcome <;> trivial
  | call op next ih => exact fun now _ _ => ⟨trivial, ih _ _ _⟩

theorem Triple.run_alone (triple : (alone Op State).Triple exec pre program returned raised)
    (holds : pre state) :
    match program.run exec state with
    | (.ok value, after) => returned value after
    | (.error error, after) => raised error after := by
  have meets := triple [] state holds
  generalize ([] : List (Op × State)) = past at meets
  clear triple holds
  induction program generalizing past state with
  | done outcome => cases outcome <;> exact meets
  | call op next ih => exact ih _ _ (meets state rfl trivial).2

end Contract

end SkillCentric
