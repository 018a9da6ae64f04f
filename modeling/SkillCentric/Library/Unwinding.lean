import Mathlib.Tactic

/-!
# Unwinding

A machine answers the events of several parties from one state.  What a party sees of a state is a
relation `alike` between states.  When the events of the others keep the view and the party's own
events are answered alike in alike states, a run and the same run without the others answer the
party alike.
-/

namespace SkillCentric

variable {State Event Reply : Type} {step : State → Event → Reply × State}

/-- The events of a run with their answers. -/
def answers (step : State → Event → Reply × State) : State → List Event → List (Event × Reply)
  | _, [] => []
  | state, event :: rest => (event, (step state event).1) :: answers step (step state event).2 rest

/-- The state after a run. -/
def ending (step : State → Event → Reply × State) (state : State) (events : List Event) : State :=
  events.foldl (fun state event => (step state event).2) state

/-- The local conditions of noninterference for the events that are `own`. -/
structure Unwinding (step : State → Event → Reply × State) (own : Event → Bool)
    (inv : State → Prop) (alike : State → State → Prop) : Prop where
  keeps : ∀ state event, inv state → inv (step state event).2
  unseen : ∀ left right event, inv left → alike left right → own event = false →
    alike (step left event).2 right
  alike_after : ∀ left right event, inv left → inv right → alike left right → own event = true →
    alike (step left event).2 (step right event).2
  answered : ∀ left right event, inv left → inv right → alike left right → own event = true →
    (step left event).1 = (step right event).1

section Purge

variable {own : Event → Bool} {inv : State → Prop} {alike : State → State → Prop}

/-- The party is answered as if the others were not there. -/
theorem Unwinding.answers_filter (unwinding : Unwinding step own inv alike) (events : List Event)
    {left right : State} (left_inv : inv left) (right_inv : inv right) (view : alike left right) :
    (answers step left events).filter (fun answer => own answer.1) =
      answers step right (events.filter own) := by
  induction events generalizing left right with
  | nil => rfl
  | cons event rest ih =>
      have later := unwinding.keeps left event left_inv
      cases mine : own event with
      | false =>
          rw [answers, List.filter_cons_of_neg (by simp [mine]),
            List.filter_cons_of_neg (by simp [mine])]
          exact ih later right_inv (unwinding.unseen left right event left_inv view mine)
      | true =>
          rw [answers, List.filter_cons_of_pos (by simpa using mine), List.filter_cons_of_pos mine,
            answers, unwinding.answered left right event left_inv right_inv view mine,
            ih later (unwinding.keeps right event right_inv)
              (unwinding.alike_after left right event left_inv right_inv view mine)]

end Purge

theorem ending_append (state : State) (before later : List Event) :
    ending step state (before ++ later) = ending step (ending step state before) later :=
  List.foldl_append

theorem ending_induction {motive : List Event → State → Prop} {state : State}
    (start : motive [] state)
    (next : ∀ events event after,
      motive events after → motive (events ++ [event]) (step after event).2)
    (events : List Event) : motive events (ending step state events) := by
  induction events using List.reverseRecOn with
  | nil => exact start
  | append_singleton events event ih =>
      rw [ending_append]
      exact next events event _ ih

end SkillCentric
