import Mathlib.Tactic

/-!
# Runs of a transition function

A run is a list of events.  `Steps` says that a condition holds of every event in the state it
occurs in; invariants turn a condition on the steps of a run into a property of them.
-/

namespace SkillCentric

variable {State Event : Type} (step : State → Event → State)

/-- The condition holds of every event of the run, in the state the event occurs in. -/
def Steps (condition : State → Event → Prop) : State → List Event → Prop
  | _, [] => True
  | state, event :: rest => condition state event ∧ Steps condition (step state event) rest

variable {step} {condition lawful : State → Event → Prop} {state : State} {events : List Event}

theorem Steps.of_invariant (run : Steps step condition state events)
    (inv : State → Prop) (init : inv state)
    (keep : ∀ state event, inv state → condition state event → inv (step state event))
    (law : ∀ state event, inv state → condition state event → lawful state event) :
    Steps step lawful state events := by
  induction events generalizing state with
  | nil => trivial
  | cons event rest ih =>
      obtain ⟨careful, later⟩ := run
      exact ⟨law state event init careful, ih later (keep state event init careful)⟩

theorem Steps.invariant (run : Steps step condition state events)
    (inv : State → Prop) (init : inv state)
    (keep : ∀ state event, inv state → condition state event → inv (step state event)) :
    inv (events.foldl step state) := by
  induction events generalizing state with
  | nil => exact init
  | cons event rest ih => exact ih run.2 (keep state event init run.1)

theorem Steps.and (first : Steps step condition state events)
    (second : Steps step lawful state events) :
    Steps step (fun state event => condition state event ∧ lawful state event) state events := by
  induction events generalizing state with
  | nil => trivial
  | cons event rest ih =>
      exact ⟨⟨first.1, second.1⟩, ih first.2 second.2⟩

theorem Steps.suffix {before later : List Event}
    (run : Steps step condition state (before ++ later)) :
    Steps step condition (before.foldl step state) later := by
  induction before generalizing state with
  | nil => exact run
  | cons first rest ih => exact ih run.2

theorem steps_iff :
    Steps step condition state events ↔
      ∀ before event later, events = before ++ event :: later →
        condition (before.foldl step state) event := by
  constructor
  · rintro run before event later rfl
    exact run.suffix.1
  · intro holds
    induction events generalizing state with
    | nil => trivial
    | cons event rest ih =>
        refine ⟨holds [] event rest rfl, ih ?_⟩
        rintro before other later rfl
        exact holds (event :: before) other later rfl

theorem Steps.initial {before later : List Event}
    (run : Steps step condition state (before ++ later)) : Steps step condition state before := by
  induction before generalizing state with
  | nil => trivial
  | cons first rest ih => exact ⟨run.1, ih run.2⟩

theorem Steps.last {before : List Event} {event : Event}
    (run : Steps step condition state (before ++ [event])) :
    condition (before.foldl step state) event :=
  run.suffix.1

theorem steps_of_forall (step : State → Event → State) (state : State)
    (holds : ∀ state, ∀ event ∈ events, condition state event) :
    Steps step condition state events := by
  induction events generalizing state with
  | nil => trivial
  | cons event rest ih =>
      exact ⟨holds state event (by simp),
        ih _ fun state other member => holds state other (by simp [member])⟩

instance [∀ state event, Decidable (condition state event)] :
    (state : State) → (events : List Event) → Decidable (Steps step condition state events)
  | _, [] => inferInstanceAs (Decidable True)
  | state, event :: rest =>
      have := instDecidableSteps (step state event) rest
      inferInstanceAs
        (Decidable (condition state event ∧ Steps step condition (step state event) rest))

end SkillCentric
