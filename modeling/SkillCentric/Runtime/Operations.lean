import SkillCentric.Library.Program
import SkillCentric.Runtime.Artifacts
import SkillCentric.Runtime.MemoryStore
import SkillCentric.Runtime.Timestamp

/-!
# Atomic operations of the runtime plane

The clock, the artifact store and the runtime store are the state that workers and operators
share.  `Op` lists the operations they perform on it, `exec` performs one, and `Py` is the type of
the programs made of them.
-/

namespace SkillCentric

/-- The shared state of the runtime plane. -/
structure Plane where
  clock : Datetime
  store : InMemoryRuntimeStore
  artifacts : JsonArtifactStore

namespace Plane

/-- The plane before any operation. -/
def empty : Plane := ⟨0, .empty, .empty⟩

/-- Queue items of the store. -/
abbrev items (plane : Plane) : Dict Text QueueItem := plane.store.runtimeQueueItems

/-- Runs of the store. -/
abbrev runs (plane : Plane) : Dict Text RuntimeRun := plane.store.runtimeRuns

/-- Attempts of the store. -/
abbrev attempts (plane : Plane) : Dict Text RunAttempt := plane.store.runtimeRunAttempts

/-- Claim rows of the store. -/
abbrev claims (plane : Plane) : Dict Text RunClaim := plane.store.runtimeRunClaims

/-- Replace the store. -/
def withStore (plane : Plane) (store : InMemoryRuntimeStore) : Plane := { plane with store }

end Plane

/-- The tables of `as_runtime_plane_recordset` that the runtime reads back. -/
structure Recordset where
  runtimeQueueItems : List QueueItem
  runtimeQuotaReservations : List QuotaReservation

/-- Atomic operations. -/
inductive Op where
  | now
  | writeJson (parts : List Text) (payload : Json)
  | readJson (path : ArtifactPath)
  | insertRuntimeQueueItem (record : QueueItem)
  | getRuntimeQueueItem (queueId : Text)
  | updateRuntimeQueueItem (queueId : Text) (fields : StatusFields)
  | heartbeatRuntimeQueueItem (queueId : Text) (fields : HeartbeatFields)
  | claimNextRuntimeQueueAttempt (request : ClaimRequest)
  | recoverStaleRuntimeQueueItems (now : Text)
  | updateRuntimeRunAttempt (attemptId : Text) (fields : AttemptFields)
  | updateRuntimeRunClaim (claimId releasedAt releaseReason : Text)
  | releaseRuntimeQueueClaims (queueId releasedAt releaseReason : Text)
  | insertRuntimeDeadLetter (record : DeadLetter)
  | insertRuntimeQuotaReservation (record : QuotaReservation)
  | updateRuntimeQuotaReservation (reservationId : Text) (status : ReservationStatus)
      (finalizedAt : Text)
  | insertRuntimeRun (record : RuntimeRun)
  | updateRuntimeRun (runId : Text) (fields : RunFields)
  | getRuntimeRun (runId : Text)
  | insertRuntimeStep (record : RuntimeStep)
  | updateRuntimeStep (stepId : Text) (status : RuntimeStatus) (completedAt : Text)
      (stopReason : Option Text) (tokensUsed : Int)
  | allocateRuntimeEventIndex (runId : Text)
  | insertRuntimeEvent (record : RuntimeEvent)
  | allocateRuntimeCheckpointIndex (runId : Text)
  | insertRuntimeCheckpoint (record : RuntimeCheckpoint)
  | insertToolInvocation (record : ToolInvocation)
  | insertValidationResult (record : ValidationResult)
  | asRuntimePlaneRecordset
  | eventsForRun (runId : Text)
  | checkpointsForRun (runId : Text)

/-- What an operation returns. -/
def Op.Reply : Op → Type
  | .now => Datetime
  | .writeJson _ _ => ArtifactPath
  | .readJson _ => Except PyError Json
  | .insertRuntimeQueueItem _ => QueueItem
  | .getRuntimeQueueItem _ => Option QueueItem
  | .updateRuntimeQueueItem _ _ => Except PyError QueueItem
  | .heartbeatRuntimeQueueItem _ _ => Except PyError QueueItem
  | .claimNextRuntimeQueueAttempt _ => Option ClaimBundle
  | .recoverStaleRuntimeQueueItems _ => List QueueItem
  | .updateRuntimeRunAttempt _ _ => Except PyError Unit
  | .updateRuntimeRunClaim _ _ _ => Except PyError Unit
  | .releaseRuntimeQueueClaims _ _ _ => Unit
  | .insertRuntimeDeadLetter _ => Unit
  | .insertRuntimeQuotaReservation _ => Unit
  | .updateRuntimeQuotaReservation _ _ _ => Except PyError Unit
  | .insertRuntimeRun _ => Unit
  | .updateRuntimeRun _ _ => Except PyError Unit
  | .getRuntimeRun _ => Option RuntimeRun
  | .insertRuntimeStep _ => RuntimeStep
  | .updateRuntimeStep _ _ _ _ _ => Except PyError Unit
  | .allocateRuntimeEventIndex _ => Nat
  | .insertRuntimeEvent _ => RuntimeEvent
  | .allocateRuntimeCheckpointIndex _ => Nat
  | .insertRuntimeCheckpoint _ => RuntimeCheckpoint
  | .insertToolInvocation _ => Unit
  | .insertValidationResult _ => Unit
  | .asRuntimePlaneRecordset => Recordset
  | .eventsForRun _ => List RuntimeEvent
  | .checkpointsForRun _ => List RuntimeCheckpoint

/-- Perform one operation. -/
def exec : (op : Op) → Plane → op.Reply × Plane
  | .now, plane => (plane.clock, plane)
  | .writeJson parts payload, plane =>
      let (path, artifacts) := plane.artifacts.writeJson parts payload
      (path, { plane with artifacts })
  | .readJson path, plane => (plane.artifacts.readJson path, plane)
  | .insertRuntimeQueueItem record, plane =>
      let (item, store) := plane.store.insertRuntimeQueueItem record
      (item, plane.withStore store)
  | .getRuntimeQueueItem queueId, plane => (plane.items.get? queueId, plane)
  | .updateRuntimeQueueItem queueId fields, plane =>
      let (item, store) := plane.store.updateRuntimeQueueItem queueId fields
      (item, plane.withStore store)
  | .heartbeatRuntimeQueueItem queueId fields, plane =>
      let (item, store) := plane.store.heartbeatRuntimeQueueItem queueId fields
      (item, plane.withStore store)
  | .claimNextRuntimeQueueAttempt request, plane =>
      let (bundle, store) := plane.store.claimNextRuntimeQueueAttempt request
      (bundle, plane.withStore store)
  | .recoverStaleRuntimeQueueItems now, plane =>
      let (items, store) := plane.store.recoverStaleRuntimeQueueItems now
      (items, plane.withStore store)
  | .updateRuntimeRunAttempt attemptId fields, plane =>
      let (result, store) := plane.store.updateRuntimeRunAttempt attemptId fields
      (result, plane.withStore store)
  | .updateRuntimeRunClaim claimId releasedAt releaseReason, plane =>
      let (result, store) := plane.store.updateRuntimeRunClaim claimId releasedAt releaseReason
      (result, plane.withStore store)
  | .releaseRuntimeQueueClaims queueId releasedAt releaseReason, plane =>
      ((), plane.withStore
        (plane.store.releaseRuntimeQueueClaims queueId releasedAt releaseReason))
  | .insertRuntimeDeadLetter record, plane =>
      ((), plane.withStore { plane.store with
        runtimeDeadLetters := plane.store.runtimeDeadLetters.set record.id record })
  | .insertRuntimeQuotaReservation record, plane =>
      ((), plane.withStore { plane.store with
        runtimeQuotaReservations := plane.store.runtimeQuotaReservations.set record.id record })
  | .updateRuntimeQuotaReservation reservationId status finalizedAt, plane =>
      let (result, store) :=
        plane.store.updateRuntimeQuotaReservation reservationId status finalizedAt
      (result, plane.withStore store)
  | .insertRuntimeRun record, plane =>
      ((), plane.withStore { plane.store with
        runtimeRuns := plane.store.runtimeRuns.set record.id record })
  | .updateRuntimeRun runId fields, plane =>
      let (result, store) := plane.store.updateRuntimeRun runId fields
      (result, plane.withStore store)
  | .getRuntimeRun runId, plane => (plane.runs.get? runId, plane)
  | .insertRuntimeStep record, plane =>
      let (step, store) := plane.store.insertRuntimeStep record
      (step, plane.withStore store)
  | .updateRuntimeStep stepId status completedAt stopReason tokensUsed, plane =>
      let (result, store) :=
        plane.store.updateRuntimeStep stepId status completedAt stopReason tokensUsed
      (result, plane.withStore store)
  | .allocateRuntimeEventIndex runId, plane =>
      let (index, store) := plane.store.allocateRuntimeEventIndex runId
      (index, plane.withStore store)
  | .insertRuntimeEvent record, plane =>
      let (event, store) := plane.store.insertRuntimeEvent record
      (event, plane.withStore store)
  | .allocateRuntimeCheckpointIndex runId, plane =>
      let (index, store) := plane.store.allocateRuntimeCheckpointIndex runId
      (index, plane.withStore store)
  | .insertRuntimeCheckpoint record, plane =>
      let (checkpoint, store) := plane.store.insertRuntimeCheckpoint record
      (checkpoint, plane.withStore store)
  | .insertToolInvocation record, plane =>
      ((), plane.withStore { plane.store with
        toolInvocations := plane.store.toolInvocations ++ [record] })
  | .insertValidationResult record, plane =>
      ((), plane.withStore { plane.store with
        validationResults := plane.store.validationResults ++ [record] })
  | .asRuntimePlaneRecordset, plane =>
      (⟨plane.items.values, plane.store.runtimeQuotaReservations.values⟩, plane)
  | .eventsForRun runId, plane =>
      (plane.store.runtimeEvents.filter (·.runId = runId), plane)
  | .checkpointsForRun runId, plane =>
      (plane.store.runtimeCheckpoints.filter (·.runId = runId), plane)

/-- Programs of the runtime plane. -/
abbrev Py (α : Type) : Type := Program Op.Reply PyError α

namespace Py

/-- Perform an operation that cannot fail. -/
def call (operation : Op) : Py operation.Reply := Program.op operation

/-- The current time as a stored timestamp. -/
def timestamp : Py Text := do
  let time ← call .now
  return isoTimestamp time

/-- Lift the outcome of a fallible operation. -/
def lift {α : Type} (outcome : Except PyError α) : Py α := Program.ofExcept outcome

/-- Raise an error when a condition holds. -/
def raiseIf (condition : Prop) [Decidable condition] (error : PyError) : Py Unit :=
  if condition then throw error else pure ()

end Py

end SkillCentric
