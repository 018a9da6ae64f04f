import SkillCentric.Library.Pool

/-!
# Programs that keep to rules about their past

A rule says which operation a program may perform after the operations it has performed, whatever
its surroundings do.  `Keeps` is the property of a program to keep to a rule; a pool is conducted
when all its threads do.
-/

namespace SkillCentric

variable {Op : Type} {Reply : Op → Type} {State Info ε α β : Type}

/-- Operations with the states they were performed in, oldest first. -/
abbrev Past (Op State : Type) : Type := List (Op × State)

namespace Program

variable (exec : (op : Op) → State → Reply op × State) (rule : Past Op State → Op → Prop)

/-- The program keeps to the rule and ends as it should. -/
def Keeps (ends : Past Op State → Except ε α → Prop) :
    Past Op State → Program Reply ε α → Prop
  | past, .done outcome => ends past outcome
  | past, .call op next =>
      rule past op ∧ ∀ state, Keeps ends (past ++ [(op, state)]) (next (exec op state).1)

/-- From `before`, the program keeps to the rule and returns in `after`. -/
def Conduct (before : Past Op State → Prop) (program : Program Reply ε α)
    (after : α → Past Op State → Prop) : Prop :=
  ∀ past, before past → program.Keeps exec rule
    (fun past outcome => ∀ value, outcome = .ok value → after value past) past

variable {exec rule} {program : Program Reply ε α} {before : Past Op State → Prop}

theorem Keeps.mono {ends weaker : Past Op State → Except ε α → Prop} {past : Past Op State}
    (keeps : program.Keeps exec rule ends past)
    (weaken : ∀ past outcome, ends past outcome → weaker past outcome) :
    program.Keeps exec rule weaker past := by
  induction program generalizing past with
  | done outcome => exact weaken _ _ keeps
  | call op next ih => exact ⟨keeps.1, fun state => ih _ (keeps.2 state)⟩

theorem keeps_bind {ends : Past Op State → Except ε β → Prop} {past : Past Op State}
    {next : α → Program Reply ε β} (raises : ∀ past error, ends past (.error error))
    (keeps : program.Keeps exec rule
      (fun past outcome => ∀ value, outcome = .ok value → (next value).Keeps exec rule ends past)
      past) : (program >>= next).Keeps exec rule ends past := by
  change (program.bind next).Keeps exec rule ends past
  induction program generalizing past with
  | done outcome =>
      cases outcome with
      | ok value => exact keeps value rfl
      | error error => exact raises past error
  | call op rest ih => exact ⟨keeps.1, fun state => ih _ (keeps.2 state)⟩

theorem Conduct.mono
    {after weaker : α → Past Op State → Prop} (conduct : Conduct exec rule before program after)
    (weaken : ∀ value past, after value past → weaker value past) :
    Conduct exec rule before program weaker := fun past holds =>
  (conduct past holds).mono fun past _ post value same => weaken value past (post value same)

theorem conduct_bind {middle : α → Past Op State → Prop} {next : α → Program Reply ε β}
    {after : β → Past Op State → Prop} (first : Conduct exec rule before program middle)
    (second : ∀ value, Conduct exec rule (middle value) (next value) after) :
    Conduct exec rule before (program >>= next) after := fun past holds =>
  keeps_bind (fun _ _ _ raised => nomatch raised)
    ((first past holds).mono fun past _ post value same => second value past (post value same))

theorem conduct_pure {value : α}
    {after : α → Past Op State → Prop} (post : ∀ past, before past → after value past) :
    Conduct exec rule before (pure value : Program Reply ε α) after := by
  intro past holds returned same
  cases same
  exact post past holds

theorem conduct_ofExcept {outcome : Except ε α} {after : α → Past Op State → Prop}
    (post : ∀ value past, outcome = .ok value → before past → after value past) :
    Conduct exec rule before (Program.ofExcept outcome : Program Reply ε α) after :=
  fun past holds value same => post value past same holds

theorem conduct_op {operation : Op} {after : Reply operation → Past Op State → Prop}
    (step : ∀ past, before past → rule past operation ∧
      ∀ state, after (exec operation state).1 (past ++ [(operation, state)])) :
    Conduct exec rule before (Program.op operation : Program Reply ε _) after := by
  intro past holds
  refine ⟨(step past holds).1, fun state value same => ?_⟩
  cases same
  exact (step past holds).2 state

theorem conduct_of_yields
    {p : Op → Prop} {returned : α → Prop} (yields : program.Yields exec p returned)
    (step : ∀ past op, p op → before past →
      rule past op ∧ ∀ state, before (past ++ [(op, state)])) :
    Conduct exec rule before program fun value past => returned value ∧ before past := by
  intro past holds
  induction program generalizing past with
  | done outcome =>
      intro value same
      subst same
      exact ⟨yields, holds⟩
  | call op next ih =>
      obtain ⟨allowed, kept⟩ := step past op yields.1 holds
      exact ⟨allowed, fun state => ih _ (yields.2 state) _ (kept state)⟩

end Program

namespace Pool

section RulesOfThreads

variable (exec : (op : Op) → State → Reply op × State) (rule : Info → Past Op State → Op → Prop)
  (ends : Info → Past Op State → Except ε α → Prop)

/-- Every thread keeps to the rule for what it works on. -/
def ConductedFor (pool : Pool Reply State Info ε α) : Prop :=
  ∀ (index : Nat) (thread : Thread Reply State Info ε α), pool.threads[index]? = some thread →
    thread.program.Keeps exec (rule thread.info) (ends thread.info) thread.past

variable {exec rule ends} {pool : Pool Reply State Info ε α}

theorem ConductedFor.follows (conducted : pool.ConductedFor exec rule ends) {index : Nat}
    {thread : Thread Reply State Info ε α} (found : pool.threads[index]? = some thread) {op : Op}
    (next : thread.nextOp = some op) : rule thread.info thread.past op := by
  have keeps := conducted index thread found
  unfold Thread.nextOp at next
  split at next
  · cases next
  · rename_i program
    cases next
    rw [program] at keeps
    exact keeps.1

theorem ConductedFor.step (conducted : pool.ConductedFor exec rule ends) (index : Nat) :
    (pool.step exec index).ConductedFor exec rule ends := by
  intro other thread found
  obtain ⟨old, located, info, kept, advanced⟩ := getElem?_step exec found
  have keeps := conducted other old located
  by_cases same : other = index
  · rw [info, advanced same]
    cases program : old.program with
    | done outcome => rwa [Thread.advance, program] at *
    | call op next =>
        rw [program] at keeps
        simpa only [Thread.advance, program] using keeps.2 pool.state
  · rw [info, kept same]
    exact keeps

theorem ConductedFor.spawn (conducted : pool.ConductedFor exec rule ends) {info : Info}
    {program : Program Reply ε α} (keeps : program.Keeps exec (rule info) (ends info) []) :
    (pool.spawn info program).ConductedFor exec rule ends := by
  intro index thread found
  rcases getElem?_spawn found with old | ⟨-, rfl⟩
  · exact conducted index thread old
  · exact keeps

theorem ConductedFor.crash (conducted : pool.ConductedFor exec rule ends) {index : Nat}
    {outcome : Except ε α} (ended : ∀ info past, ends info past outcome) :
    (pool.crash index outcome).ConductedFor exec rule ends := by
  intro other thread found
  obtain ⟨old, located, info, rfl | dropped⟩ := getElem?_crash found
  · exact conducted other thread located
  · rw [dropped]
    exact ended _ _

end RulesOfThreads

variable (exec : (op : Op) → State → Reply op × State) (rule : Past Op State → Op → Prop)
  (ends : Info → Past Op State → Except ε α → Prop)

/-- Every thread keeps to the rule. -/
def Conducted (pool : Pool Reply State Info ε α) : Prop :=
  ∀ (index : Nat) (thread : Thread Reply State Info ε α), pool.threads[index]? = some thread →
    thread.program.Keeps exec rule (ends thread.info) thread.past

variable {exec rule ends} {pool : Pool Reply State Info ε α}

theorem Conducted.conductedFor (conducted : pool.Conducted exec rule ends) :
    pool.ConductedFor exec (fun _ => rule) ends := conducted

theorem Conducted.follows (conducted : pool.Conducted exec rule ends) {index : Nat}
    {thread : Thread Reply State Info ε α} (found : pool.threads[index]? = some thread) {op : Op}
    (next : thread.nextOp = some op) : rule thread.past op :=
  conducted.conductedFor.follows found next

theorem Conducted.step (conducted : pool.Conducted exec rule ends) (index : Nat) :
    (pool.step exec index).Conducted exec rule ends := conducted.conductedFor.step index

theorem Conducted.spawn (conducted : pool.Conducted exec rule ends) {info : Info}
    {program : Program Reply ε α} (keeps : program.Keeps exec rule (ends info) []) :
    (pool.spawn info program).Conducted exec rule ends := conducted.conductedFor.spawn keeps

theorem Conducted.crash (conducted : pool.Conducted exec rule ends) {index : Nat}
    {outcome : Except ε α} (ended : ∀ info past, ends info past outcome) :
    (pool.crash index outcome).Conducted exec rule ends := conducted.conductedFor.crash ended

end Pool

end SkillCentric
