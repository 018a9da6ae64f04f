import SkillCentric.Runtime.Json

/-!
# Runtime-plane records

The rows of the runtime store with the statuses they carry.  Identifiers and timestamps are texts;
an artifact is named by its path below the artifact root.
-/

namespace SkillCentric

/-- Statuses of a queue item. -/
inductive RuntimeQueueStatus where
  | queued
  | claiming
  | running
  | succeeded
  | failed
  | cancelled
  | retryScheduled
  | deadLettered
  deriving DecidableEq, Repr

namespace RuntimeQueueStatus

/-- The status as stored. -/
def text : RuntimeQueueStatus → Text
  | .queued => "queued"
  | .claiming => "claiming"
  | .running => "running"
  | .succeeded => "succeeded"
  | .failed => "failed"
  | .cancelled => "cancelled"
  | .retryScheduled => "retry_scheduled"
  | .deadLettered => "dead_lettered"

/-- Statuses a worker may claim from. -/
def claimable : RuntimeQueueStatus → Bool
  | .queued | .retryScheduled => true
  | _ => false

/-- Statuses counted against the running limits. -/
def executing : RuntimeQueueStatus → Bool
  | .claiming | .running => true
  | _ => false

/-- Statuses that end the life of a queue item. -/
def terminal : RuntimeQueueStatus → Bool
  | .succeeded | .failed | .cancelled | .deadLettered => true
  | _ => false

end RuntimeQueueStatus

/-- Statuses of a run. -/
inductive RuntimeStatus where
  | queued
  | running
  | succeeded
  | failed
  | cancelled
  deriving DecidableEq, Repr

namespace RuntimeStatus

/-- The status as stored. -/
def text : RuntimeStatus → Text
  | .queued => "queued"
  | .running => "running"
  | .succeeded => "succeeded"
  | .failed => "failed"
  | .cancelled => "cancelled"

/-- Statuses that end a run. -/
def terminal : RuntimeStatus → Bool
  | .succeeded | .failed | .cancelled => true
  | _ => false

end RuntimeStatus

/-- Path of an artifact below the artifact root; the stored URI is the store's prefix and the
path, joined by slashes. -/
abbrev ArtifactPath := List Text

/-- A row of `runtime_queue_items`. -/
structure QueueItem where
  id : Text
  taskId : Text
  tenantId : Text
  areaId : Text
  environment : Text
  queueName : Text
  status : RuntimeQueueStatus
  priority : Int
  scheduledAt : Text
  attempts : Nat
  maxAttempts : Int
  claimedBy : Option Text
  claimedAt : Option Text
  claimedUntil : Option Text
  leaseExpiresAt : Option Text
  heartbeatAt : Option Text
  attemptId : Option Text
  taskPayloadUri : ArtifactPath
  compositionContextUri : Option ArtifactPath
  runId : Option Text
  lastError : Option Text
  idempotencyKey : Text
  createdAt : Text
  updatedAt : Text
  deriving DecidableEq

namespace QueueItem

/-- Null the fields a claim sets. -/
def clearClaim (item : QueueItem) : QueueItem :=
  { item with
    claimedBy := none
    claimedAt := none
    claimedUntil := none
    leaseExpiresAt := none
    heartbeatAt := none }

/-- The fields of a queue item that no operation changes. -/
structure Identity where
  id : Text
  taskId : Text
  tenantId : Text
  areaId : Text
  maxAttempts : Int
  taskPayloadUri : ArtifactPath
  compositionContextUri : Option ArtifactPath
  idempotencyKey : Text
  deriving DecidableEq

/-- What stays of an item through all operations. -/
def identity (item : QueueItem) : Identity where
  id := item.id
  taskId := item.taskId
  tenantId := item.tenantId
  areaId := item.areaId
  maxAttempts := item.maxAttempts
  taskPayloadUri := item.taskPayloadUri
  compositionContextUri := item.compositionContextUri
  idempotencyKey := item.idempotencyKey

end QueueItem

/-- The fields `_update_status` writes; `none` leaves a field alone. -/
structure StatusFields where
  status : RuntimeQueueStatus
  updatedAt : Text
  runId : Option Text := none
  attemptId : Option Text := none
  scheduledAt : Option Text := none
  lastError : Option (Option Text) := none
  clearClaim : Bool := false
  deriving DecidableEq

namespace StatusFields

/-- `stored.update(fields)`. -/
def apply (fields : StatusFields) (item : QueueItem) : QueueItem :=
  let updated :=
    { item with
      status := fields.status
      updatedAt := fields.updatedAt
      runId := fields.runId.or item.runId
      attemptId := fields.attemptId.or item.attemptId
      scheduledAt := fields.scheduledAt.getD item.scheduledAt
      lastError := fields.lastError.getD item.lastError }
  if fields.clearClaim then updated.clearClaim else updated

section Apply

variable (fields : StatusFields) (item : QueueItem)

@[simp]
theorem apply_id : (fields.apply item).id = item.id := by
  unfold apply QueueItem.clearClaim
  split <;> rfl

@[simp]
theorem apply_status : (fields.apply item).status = fields.status := by
  unfold apply QueueItem.clearClaim
  split <;> rfl

@[simp]
theorem apply_attempts : (fields.apply item).attempts = item.attempts := by
  unfold apply QueueItem.clearClaim
  split <;> rfl

@[simp]
theorem apply_maxAttempts : (fields.apply item).maxAttempts = item.maxAttempts := by
  unfold apply QueueItem.clearClaim
  split <;> rfl

@[simp]
theorem apply_tenantId : (fields.apply item).tenantId = item.tenantId := by
  unfold apply QueueItem.clearClaim
  split <;> rfl

@[simp]
theorem apply_identity : (fields.apply item).identity = item.identity := by
  unfold apply QueueItem.clearClaim
  split <;> rfl

@[simp]
theorem apply_claimedBy :
    (fields.apply item).claimedBy = if fields.clearClaim then none else item.claimedBy := by
  unfold apply QueueItem.clearClaim
  split <;> rfl

end Apply

end StatusFields

/-- The fields a heartbeat writes. -/
structure HeartbeatFields where
  heartbeatAt : Text
  claimedUntil : Text
  leaseExpiresAt : Text
  updatedAt : Text
  deriving DecidableEq

namespace HeartbeatFields

/-- `stored.update(fields)`. -/
def apply (fields : HeartbeatFields) (item : QueueItem) : QueueItem :=
  { item with
    heartbeatAt := some fields.heartbeatAt
    claimedUntil := some fields.claimedUntil
    leaseExpiresAt := some fields.leaseExpiresAt
    updatedAt := fields.updatedAt }

section Apply

variable (fields : HeartbeatFields) (item : QueueItem)

@[simp]
theorem apply_id : (fields.apply item).id = item.id := rfl

@[simp]
theorem apply_status : (fields.apply item).status = item.status := rfl

@[simp]
theorem apply_attempts : (fields.apply item).attempts = item.attempts := rfl

@[simp]
theorem apply_maxAttempts : (fields.apply item).maxAttempts = item.maxAttempts := rfl

@[simp]
theorem apply_tenantId : (fields.apply item).tenantId = item.tenantId := rfl

@[simp]
theorem apply_identity : (fields.apply item).identity = item.identity := rfl

@[simp]
theorem apply_claimedBy : (fields.apply item).claimedBy = item.claimedBy := rfl

end Apply

end HeartbeatFields

/-- Statuses of an attempt: `running`, then the status its queue item ended with. -/
inductive AttemptStatus where
  | running
  | ended (status : RuntimeQueueStatus)
  deriving DecidableEq, Repr

/-- A row of `runtime_run_attempts`. -/
structure RunAttempt where
  id : Text
  queueId : Text
  runId : Text
  tenantId : Text
  attemptNumber : Nat
  status : AttemptStatus
  startedAt : Text
  completedAt : Option Text
  stopReason : Option Text
  profileId : Option Text
  profileSha256 : Option Text
  deriving DecidableEq

/-- The two kinds of attempt updates: the composed profile, and the end of the attempt. -/
inductive AttemptFields where
  | profile (runId profileId profileSha256 : Text)
  | completed (status : RuntimeQueueStatus) (completedAt : Text) (stopReason : Option Text)
  deriving DecidableEq

namespace AttemptFields

/-- `stored.update(fields)`. -/
def apply (fields : AttemptFields) (attempt : RunAttempt) : RunAttempt :=
  match fields with
  | .profile runId profileId profileSha256 =>
      { attempt with runId, profileId := some profileId, profileSha256 := some profileSha256 }
  | .completed status completedAt stopReason =>
      { attempt with status := .ended status, completedAt := some completedAt, stopReason }

end AttemptFields

/-- A row of `runtime_run_claims`. -/
structure RunClaim where
  id : Text
  queueId : Text
  workerId : Text
  tenantId : Text
  claimedAt : Text
  claimedUntil : Text
  heartbeatAt : Text
  releasedAt : Option Text
  releaseReason : Option Text
  deriving DecidableEq

namespace RunClaim

/-- Release a claim row. -/
def release (claim : RunClaim) (releasedAt releaseReason : Text) : RunClaim :=
  { claim with releasedAt := some releasedAt, releaseReason := some releaseReason }

end RunClaim

/-- A row of `runtime_dead_letters`. -/
structure DeadLetter where
  id : Text
  queueId : Text
  runId : Option Text
  attemptId : Option Text
  tenantId : Text
  errorType : Text
  errorMessage : Text
  createdAt : Text
  deriving DecidableEq

/-- Statuses of a quota reservation. -/
inductive ReservationStatus where
  | reserved
  | finalized
  | refunded
  deriving DecidableEq, Repr

/-- A row of `runtime_quota_reservations`. -/
structure QuotaReservation where
  id : Text
  queueId : Text
  runId : Text
  tenantId : Text
  quotaWindow : Text
  reservedTokens : Int
  reservedToolCalls : Int
  status : ReservationStatus
  createdAt : Text
  finalizedAt : Option Text
  deriving DecidableEq

/-- A row of `runtime_runs`. -/
structure RuntimeRun where
  id : Text
  taskId : Text
  profileId : Text
  profileVersion : Text
  status : RuntimeStatus
  startedAt : Text
  completedAt : Option Text
  tokenBudgetTotal : Option Int
  tokensUsedTotal : Int
  stopReason : Option Text
  profileArtifactUri : ArtifactPath
  profileSha256 : Text
  profileGeneration : Int
  parentProfileId : Option Text
  deriving DecidableEq

/-- The fields that complete a run; `tokensUsedTotal` is written by the flight recorder only. -/
structure RunFields where
  status : RuntimeStatus
  completedAt : Text
  stopReason : Option Text
  tokensUsedTotal : Option Int := none
  deriving DecidableEq

namespace RunFields

/-- `stored.update(fields)`. -/
def apply (fields : RunFields) (run : RuntimeRun) : RuntimeRun :=
  { run with
    status := fields.status
    completedAt := some fields.completedAt
    stopReason := fields.stopReason
    tokensUsedTotal := fields.tokensUsedTotal.getD run.tokensUsedTotal }

@[simp]
theorem apply_status (fields : RunFields) (run : RuntimeRun) :
    (fields.apply run).status = fields.status := rfl

end RunFields

/-- Kinds of a runtime step. -/
inductive RuntimeStepKind where
  | context
  | planner
  | executor
  | validator
  deriving DecidableEq, Repr

namespace RuntimeStepKind

/-- The kind as stored. -/
def text : RuntimeStepKind → Text
  | .context => "context"
  | .planner => "planner"
  | .executor => "executor"
  | .validator => "validator"

end RuntimeStepKind

/-- A row of `runtime_steps`. -/
structure RuntimeStep where
  id : Text
  runId : Text
  stepIndex : Nat
  kind : RuntimeStepKind
  status : RuntimeStatus
  startedAt : Text
  completedAt : Option Text
  stopReason : Option Text
  tokensUsed : Int
  idempotencyKey : Text
  deriving DecidableEq

/-- Types of a runtime event. -/
inductive RuntimeEventType where
  | taskIntakeNormalized
  | taskAnalyzed
  | candidatesDiscovered
  | candidatesScored
  | policiesEvaluated
  | graphValidated
  | profileEmitted
  | profileValidated
  | runtimeStarted
  | accessAttempted
  | validatorExecuted
  | runtimeCompleted
  | runtimeFailed
  | runtimeCancelled
  | tenantThrottled
  | quotaReserved
  | quotaExhausted
  | stepStarted
  | stepCompleted
  | toolInvocationStarted
  | toolInvocationCompleted
  | runtimeAfterToolHookEvaluated
  | budgetExhausted
  | checkpointCreated
  | recompositionRequested
  deriving DecidableEq, Repr

namespace RuntimeEventType

/-- The type as stored. -/
def text : RuntimeEventType → Text
  | .taskIntakeNormalized => "task_intake_normalized"
  | .taskAnalyzed => "task_analyzed"
  | .candidatesDiscovered => "candidates_discovered"
  | .candidatesScored => "candidates_scored"
  | .policiesEvaluated => "policies_evaluated"
  | .graphValidated => "graph_validated"
  | .profileEmitted => "profile_emitted"
  | .profileValidated => "profile_validated"
  | .runtimeStarted => "runtime_started"
  | .accessAttempted => "access_attempted"
  | .validatorExecuted => "validator_executed"
  | .runtimeCompleted => "runtime_completed"
  | .runtimeFailed => "runtime_failed"
  | .runtimeCancelled => "runtime_cancelled"
  | .tenantThrottled => "tenant_throttled"
  | .quotaReserved => "quota_reserved"
  | .quotaExhausted => "quota_exhausted"
  | .stepStarted => "step_started"
  | .stepCompleted => "step_completed"
  | .toolInvocationStarted => "tool_invocation_started"
  | .toolInvocationCompleted => "tool_invocation_completed"
  | .runtimeAfterToolHookEvaluated => "runtime_after_tool_hook_evaluated"
  | .budgetExhausted => "budget_exhausted"
  | .checkpointCreated => "checkpoint_created"
  | .recompositionRequested => "recomposition_requested"

end RuntimeEventType

/-- Roles that act in a run. -/
inductive RuntimeActorRole where
  | contextManager
  | planner
  | executor
  | validator
  | policyEngine
  | quotaManager
  | runtime
  | composer
  deriving DecidableEq, Repr

/-- Phases a checkpoint belongs to. -/
inductive RuntimePhase where
  | taskIntake
  | analysis
  | composition
  | context
  | planner
  | executor
  | validator
  | finalization
  deriving DecidableEq, Repr

namespace RuntimePhase

/-- The phase as stored. -/
def text : RuntimePhase → Text
  | .taskIntake => "task_intake"
  | .analysis => "analysis"
  | .composition => "composition"
  | .context => "context"
  | .planner => "planner"
  | .executor => "executor"
  | .validator => "validator"
  | .finalization => "finalization"

end RuntimePhase

/-- A row of `runtime_events`. -/
structure RuntimeEvent where
  id : Text
  runId : Text
  stepId : Option Text
  eventIndex : Nat
  eventType : RuntimeEventType
  actorRole : RuntimeActorRole
  plannedActionUri : Option ArtifactPath
  executionUri : Option ArtifactPath
  resultUri : Option ArtifactPath
  stopReason : Option Text
  idempotencyKey : Text
  createdAt : Text
  deriving DecidableEq

/-- A row of `runtime_checkpoints`. -/
structure RuntimeCheckpoint where
  id : Text
  runId : Text
  stepId : Option Text
  checkpointIndex : Nat
  phase : RuntimePhase
  stateUri : ArtifactPath
  createdAt : Text
  deriving DecidableEq

/-- A row of `tool_invocations`. -/
structure ToolInvocation where
  id : Text
  runId : Text
  stepId : Text
  toolName : Text
  status : RuntimeStatus
  inputUri : ArtifactPath
  outputUri : ArtifactPath
  startedAt : Text
  completedAt : Text
  deriving DecidableEq

/-- A row of `validation_results`. -/
structure ValidationResult where
  id : Text
  runId : Text
  stepId : Text
  validatorId : Text
  passed : Bool
  findingsUri : ArtifactPath
  createdAt : Text
  deriving DecidableEq

end SkillCentric
