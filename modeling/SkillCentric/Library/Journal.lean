import SkillCentric.Library.Pool

/-!
# Journals of interleaved programs

Which thread did what is a fact about a run and not about the shared state.  A journal records it:
every program of a pool is tagged with the number of its thread, and each operation that goes
through is written down under that number.  Contracts can then speak about the past of all threads.
-/

namespace SkillCentric

variable {Op : Type} {Reply : Op → Type} {State ε α β : Type}

/-- A shared state with the operations carried out so far, each under the number of its thread. -/
structure Journaled (Op State : Type) where
  state : State
  journal : List (Nat × Op)

/-- Replies of tagged operations. -/
abbrev TaggedReply (Reply : Op → Type) : Nat × Op → Type := fun op => Reply op.2

namespace Program

/-- Tag every operation of a program. -/
def tag (index : Nat) : Program Reply ε α → Program (TaggedReply Reply) ε α
  | .done outcome => .done outcome
  | .call op next => .call (index, op) fun reply => (next reply).tag index

@[simp]
theorem tag_bind (index : Nat) (program : Program Reply ε α) (next : α → Program Reply ε β) :
    (program >>= next).tag index = program.tag index >>= fun value => (next value).tag index := by
  change (program.bind next).tag index =
    (program.tag index).bind fun value => (next value).tag index
  induction program with
  | done outcome => cases outcome <;> rfl
  | call op rest ih => simp only [bind, tag, ih]

@[simp]
theorem tag_attempt (index : Nat) (program : Program Reply ε α) :
    program.attempt.tag index = (program.tag index).attempt := by
  induction program with
  | done outcome => rfl
  | call op rest ih => simp only [attempt, tag, ih]

end Program

section Exec

variable (exec : (op : Op) → State → Reply op × State) (carried : (op : Op) → Reply op → Bool)

/-- Carry out a tagged operation and write it down when it went through. -/
def journaled (op : Nat × Op) (now : Journaled Op State) :
    TaggedReply Reply op × Journaled Op State :=
  let result := exec op.2 now.state
  (result.1,
    { state := result.2
      journal := if carried op.2 result.1 then now.journal ++ [op] else now.journal })

end Exec

end SkillCentric
