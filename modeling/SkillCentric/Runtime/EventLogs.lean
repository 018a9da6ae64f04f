import SkillCentric.Library.Tickets
import SkillCentric.Runtime.FlightRecorder
import SkillCentric.Runtime.Frames

/-!
# The event log and the checkpoint log

Both logs of the in-memory store draw the indices of a run from a counter that is opened by the
first draw, and both append rows.
-/

namespace SkillCentric

namespace InMemoryRuntimeStore

variable {counters : Dict Text Nat} {runId other : Text} {used : List Nat}

theorem nextIndex_set_self (index : Nat) :
    nextIndex (counters.set runId (index + 1)) runId used = index + 1 := by
  rw [nextIndex, Dict.get?_set_self]
  rfl

theorem nextIndex_set_of_ne (index : Nat) (differs : other ≠ runId) :
    nextIndex (counters.set runId index) other used = nextIndex counters other used := by
  rw [nextIndex, Dict.get?_set_ne _ _ differs, nextIndex]

theorem nextIndex_of_opened (opened : (counters.get? runId).isSome = true) (more : List Nat) :
    nextIndex counters runId used = nextIndex counters runId more := by
  obtain ⟨index, found⟩ := Option.isSome_iff_exists.mp opened
  rw [nextIndex, nextIndex, found]
  rfl

/-- The event that a run has stored under a key. -/
def storedEvent (events : List RuntimeEvent) (runId key : Text) : Option RuntimeEvent :=
  events.find? fun event => event.runId = runId ∧ event.idempotencyKey = key

variable {store : InMemoryRuntimeStore}

theorem insertRuntimeEvent_of_stored {record event : RuntimeEvent}
    (stored : storedEvent store.runtimeEvents record.runId record.idempotencyKey = some event) :
    store.insertRuntimeEvent record = (event, store) := by
  rw [storedEvent] at stored
  rw [insertRuntimeEvent, stored]

theorem insertRuntimeEvent_of_new {record : RuntimeEvent}
    (new : storedEvent store.runtimeEvents record.runId record.idempotencyKey = none) :
    store.insertRuntimeEvent record =
      (record, { store with runtimeEvents := store.runtimeEvents ++ [record] }) := by
  rw [storedEvent] at new
  rw [insertRuntimeEvent, new]

theorem insertRuntimeCheckpoint_of_new {record : RuntimeCheckpoint}
    (new : ∀ checkpoint ∈ store.runtimeCheckpoints, checkpoint.runId = record.runId →
      checkpoint.checkpointIndex ≠ record.checkpointIndex) :
    store.insertRuntimeCheckpoint record =
      (record, { store with runtimeCheckpoints := store.runtimeCheckpoints ++ [record] }) := by
  have missing : (store.runtimeCheckpoints.find? fun checkpoint =>
      checkpoint.runId = record.runId ∧
        checkpoint.checkpointIndex = record.checkpointIndex) = none := by
    refine List.find?_eq_none.mpr fun checkpoint listed same => ?_
    obtain ⟨owner, index⟩ := of_decide_eq_true same
    exact new checkpoint listed owner index
  rw [insertRuntimeCheckpoint, missing]

end InMemoryRuntimeStore

open InMemoryRuntimeStore

/-- The event log of the store. -/
def eventLog : TicketLog exec RuntimeEvent Text where
  rows plane := plane.store.runtimeEvents
  run := RuntimeEvent.runId
  index := RuntimeEvent.eventIndex
  next plane runId := (plane.store.allocateRuntimeEventIndex runId).1
  opened plane runId := (plane.store.eventIndices.get? runId).isSome = true
  draws
    | .allocateRuntimeEventIndex runId => some runId
    | _ => none
  files
    | .insertRuntimeEvent record => some record
    | _ => none
  apart op run drawing := by
    cases op <;> first | rfl | cases drawing
  rows_exec op plane := by
    by_cases touched : op.touchesEvents = true
    · cases op with
      | allocateRuntimeEventIndex runId => exact .inl rfl
      | insertRuntimeEvent record =>
          simp only [exec, Plane.withStore]
          cases stored : storedEvent plane.store.runtimeEvents record.runId
            record.idempotencyKey with
          | some event => exact .inl (by rw [insertRuntimeEvent_of_stored stored])
          | none => exact .inr ⟨record, rfl, by rw [insertRuntimeEvent_of_new stored]⟩
      | _ => cases touched
    · exact .inl (exec_events plane (by simpa using touched)).1
  next_draw op runId drawing plane := by
    cases op with
    | allocateRuntimeEventIndex owner =>
        cases drawing
        exact nextIndex_set_self _
    | _ => cases drawing
  next_other op runId drawing plane other differs := by
    cases op with
    | allocateRuntimeEventIndex owner =>
        cases drawing
        exact nextIndex_set_of_ne _ differs
    | _ => cases drawing
  opens op runId drawing plane := by
    cases op with
    | allocateRuntimeEventIndex owner =>
        cases drawing
        simp only [exec, Plane.withStore, allocateRuntimeEventIndex, Dict.get?_set_self]
        rfl
    | _ => cases drawing
  stays op plane runId opened := by
    by_cases touched : op.touchesEvents = true
    · cases op with
      | allocateRuntimeEventIndex owner =>
          simp only [exec, Plane.withStore, allocateRuntimeEventIndex]
          rw [Dict.get?_set]
          split_ifs
          · rfl
          · exact opened
      | insertRuntimeEvent record =>
          simp only [exec, Plane.withStore, insertRuntimeEvent]
          split <;> exact opened
      | _ => cases touched
    · rw [(exec_events plane (by simpa using touched)).2]
      exact opened
  next_kept op silent plane opened other := by
    by_cases touched : op.touchesEvents = true
    · cases op with
      | allocateRuntimeEventIndex owner => cases silent
      | insertRuntimeEvent record =>
          have opened := opened record rfl
          simp only [exec, Plane.withStore, insertRuntimeEvent, allocateRuntimeEventIndex]
          split
          · rfl
          · by_cases same : other = record.runId
            · subst same
              exact nextIndex_of_opened opened _
            · simp only [List.filter_append, List.filter_singleton, Ne.symm same, decide_false,
                cond_false, List.append_nil]
      | _ => cases touched
    · have kept := exec_events plane (by simpa using touched)
      simp only [allocateRuntimeEventIndex, kept]

/-- The checkpoint log of the store. -/
def checkpointLog : TicketLog exec RuntimeCheckpoint Text where
  rows plane := plane.store.runtimeCheckpoints
  run := RuntimeCheckpoint.runId
  index := RuntimeCheckpoint.checkpointIndex
  next plane runId := (plane.store.allocateRuntimeCheckpointIndex runId).1
  opened plane runId := (plane.store.checkpointIndices.get? runId).isSome = true
  draws
    | .allocateRuntimeCheckpointIndex runId => some runId
    | _ => none
  files
    | .insertRuntimeCheckpoint record => some record
    | _ => none
  apart op run drawing := by
    cases op <;> first | rfl | cases drawing
  rows_exec op plane := by
    by_cases touched : op.touchesCheckpoints = true
    · cases op with
      | allocateRuntimeCheckpointIndex runId => exact .inl rfl
      | insertRuntimeCheckpoint record =>
          simp only [exec, Plane.withStore, insertRuntimeCheckpoint]
          split
          · exact .inl rfl
          · exact .inr ⟨record, rfl, rfl⟩
      | _ => cases touched
    · exact .inl (exec_checkpoints plane (by simpa using touched)).1
  next_draw op runId drawing plane := by
    cases op with
    | allocateRuntimeCheckpointIndex owner =>
        cases drawing
        exact nextIndex_set_self _
    | _ => cases drawing
  next_other op runId drawing plane other differs := by
    cases op with
    | allocateRuntimeCheckpointIndex owner =>
        cases drawing
        exact nextIndex_set_of_ne _ differs
    | _ => cases drawing
  opens op runId drawing plane := by
    cases op with
    | allocateRuntimeCheckpointIndex owner =>
        cases drawing
        simp only [exec, Plane.withStore, allocateRuntimeCheckpointIndex, Dict.get?_set_self]
        rfl
    | _ => cases drawing
  stays op plane runId opened := by
    by_cases touched : op.touchesCheckpoints = true
    · cases op with
      | allocateRuntimeCheckpointIndex owner =>
          simp only [exec, Plane.withStore, allocateRuntimeCheckpointIndex]
          rw [Dict.get?_set]
          split_ifs
          · rfl
          · exact opened
      | insertRuntimeCheckpoint record =>
          simp only [exec, Plane.withStore, insertRuntimeCheckpoint]
          split <;> exact opened
      | _ => cases touched
    · rw [(exec_checkpoints plane (by simpa using touched)).2]
      exact opened
  next_kept op silent plane opened other := by
    by_cases touched : op.touchesCheckpoints = true
    · cases op with
      | allocateRuntimeCheckpointIndex owner => cases silent
      | insertRuntimeCheckpoint record =>
          have opened := opened record rfl
          simp only [exec, Plane.withStore, insertRuntimeCheckpoint, allocateRuntimeCheckpointIndex]
          split
          · rfl
          · by_cases same : other = record.runId
            · subst same
              exact nextIndex_of_opened opened _
            · simp only [List.filter_append, List.filter_singleton, Ne.symm same, decide_false,
                cond_false, List.append_nil]
      | _ => cases touched
    · have kept := exec_checkpoints plane (by simpa using touched)
      simp only [allocateRuntimeCheckpointIndex, kept]

end SkillCentric
