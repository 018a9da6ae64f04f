import SkillCentric.Runtime.Operations
import SkillCentric.Runtime.TenantStatus

/-!
# The queue manager

`RuntimeQueueManager`: every method is a program of atomic store, artifact and clock operations.
The store hands out its own mappings, so a method that looks at a mapping twice reads the stored
row twice.
-/

namespace SkillCentric

/-- `RuntimeQueueConfig`, as far as the runtime reads it. -/
structure RuntimeQueueConfig where
  leaseSeconds : Nat := 300
  /-- `now + timedelta(seconds=delay)` with the backed-off delay of an item and attempt count. -/
  retryAt : Text → Nat → Datetime → Except PyError Datetime
  globalRunningLimit : Option Int := none
  tenantRunningLimits : Text → Option Int := fun _ => none
  tenantQueuedLimits : Text → Option Int := fun _ => none
  tenantTokenLimitsPerMinute : Text → Option Int := fun _ => none
  tenantToolCallLimitsPerMinute : Text → Option Int := fun _ => none
  allowedTenantIds : List Text := []
  disabledTenantIds : List Text := []
  environment : Text := "dev"
  queueName : Text := "default"

namespace RuntimeQueueConfig

/-- Microseconds past the last instant of year 9999. -/
def endOfTime : Datetime := 315537897600000000

/-- The retry time of the default settings: thirty seconds, doubled with every attempt. -/
def defaultRetryAt (_ : Text) (attempts : Nat) (now : Datetime) : Except PyError Datetime :=
  let time := now.plusSeconds (30 * 2 ^ (attempts - 1))
  if time < endOfTime then .ok time
  else .error ⟨.overflowError, "date value out of range", none⟩

end RuntimeQueueConfig

/-- The arguments of `enqueue`. -/
structure EnqueueRequest where
  task : JsonObject
  compositionContextResponse : Option JsonObject := none
  priority : Int := 0
  scheduledAt : Option Text := none
  maxAttempts : Int := 3
  idempotencyKey : Option Text := none
  environment : Text := "dev"
  queueName : Text := "default"
  tenantQueuedLimits : Text → Option Int := fun _ => none
  disabledTenantIds : List Text := []

/-- The arguments of `retry`. -/
structure RetryRequest where
  queueId : Text
  scheduledAt : Option Text := none
  idempotencyKey : Option Text := none
  maxAttempts : Option Int := none

/-- `RuntimeQueueError(message)`. -/
def queueError (message : Text) : PyError := ⟨.runtimeQueueError, message, none⟩

/-- `value or default` on an optional text. -/
def textOr (value : Option Text) (default : Text) : Text := (value.filter (· ≠ [])).getD default

/-- The idempotency key of an enqueue. -/
def effectiveKey (idempotencyKey : Option Text) (taskId : Text) : Text :=
  textOr idempotencyKey (taskId ++ (":initial" : Text))

/-- The queue identifier of an idempotency key. -/
def queueIdOf (key : Text) : Text := slugId key "queue"

/-- Path parts of the task payload of a queue item. -/
def taskPayloadParts (queueId : Text) : List Text := ["queue", queueId, "task-payload"]

/-- Path parts of the composition context of a queue item. -/
def compositionContextParts (queueId : Text) : List Text :=
  ["queue", queueId, "composition-context-response"]

/-- The queue item an enqueue inserts. -/
def EnqueueRequest.record (request : EnqueueRequest) (analyzed : AnalyzedTask) (now key : Text)
    (taskPayloadUri : ArtifactPath) (compositionContextUri : Option ArtifactPath) : QueueItem where
  id := queueIdOf key
  taskId := analyzed.taskId
  tenantId := analyzed.tenantId
  areaId := analyzed.areaId
  environment := request.environment
  queueName := request.queueName
  status := .queued
  priority := request.priority
  scheduledAt := textOr request.scheduledAt now
  attempts := 0
  maxAttempts := request.maxAttempts
  claimedBy := none
  claimedAt := none
  claimedUntil := none
  leaseExpiresAt := none
  heartbeatAt := none
  attemptId := none
  taskPayloadUri
  compositionContextUri
  runId := none
  lastError := none
  idempotencyKey := key
  createdAt := now
  updatedAt := now

namespace RuntimeQueueManager

/-- `_tenant_queued_count`. -/
def tenantQueuedCount (tenantId : Text) : Py Nat := do
  let recordset ← Py.call .asRuntimePlaneRecordset
  return recordset.runtimeQueueItems.countP fun item =>
    item.tenantId = tenantId ∧ item.status.claimable

/-- The backlog check of `enqueue`. -/
def checkQueuedLimit (limit : Option Int) (tenantId : Text) : Py Unit :=
  match limit with
  | none => return ()
  | some limit => do
      let queued ← tenantQueuedCount tenantId
      Py.raiseIf (limit ≤ (queued : Int)) (queueError "Tenant queued backlog limit exceeded.")

/-- The checks of `enqueue` that need no store. -/
def enqueueChecks (request : EnqueueRequest) : Except PyError AnalyzedTask := do
  let analyzed ← TaskAnalyzer.analyze (.obj request.task)
  if analyzed.tenantId = ("global" : Text) then
    throw (queueError "Runtime queue items require an explicit tenant_id.")
  if request.disabledTenantIds.contains analyzed.tenantId then
    throw (queueError "Disabled or archived tenants cannot enqueue runtime work.")
  if let some context := request.compositionContextResponse then
    if (Json.notNone (Json.field? "tenant_authority" context)).isSome then
      assertRuntimeTenantIsStartable (.obj request.task) (.obj context)
  return analyzed

/-- Write an optional payload. -/
def writeOptional (parts : List Text) (payload : Option JsonObject) : Py (Option ArtifactPath) :=
  match payload with
  | none => return none
  | some fields => do
      let path ← Py.call (.writeJson parts (.obj fields))
      return some path

/-- `enqueue`. -/
def enqueue (request : EnqueueRequest) : Py QueueItem := do
  let analyzed ← Py.lift (enqueueChecks request)
  checkQueuedLimit (request.tenantQueuedLimits analyzed.tenantId) analyzed.tenantId
  let now ← Py.timestamp
  let key := effectiveKey request.idempotencyKey analyzed.taskId
  let taskPayloadUri ← Py.call (.writeJson (taskPayloadParts (queueIdOf key)) (.obj request.task))
  let compositionContextUri ← writeOptional (compositionContextParts (queueIdOf key))
    request.compositionContextResponse
  Py.call (.insertRuntimeQueueItem
    (request.record analyzed now key taskPayloadUri compositionContextUri))

/-- The claim of a worker at a time. -/
def claimRequest (config : RuntimeQueueConfig) (workerId : Text) (claimedAt : Datetime) :
    ClaimRequest where
  workerId
  claimedAt := isoTimestamp claimedAt
  leaseExpiresAt := isoTimestamp (claimedAt.plusSeconds config.leaseSeconds)
  tenantRunningLimits := config.tenantRunningLimits
  globalRunningLimit := config.globalRunningLimit
  allowedTenantIds := config.allowedTenantIds
  disabledTenantIds := config.disabledTenantIds
  environment := some config.environment
  queueName := some config.queueName

/-- `claim_next_attempt`. -/
def claimNextAttempt (config : RuntimeQueueConfig) (workerId : Text) : Py (Option ClaimBundle) := do
  let claimedAt ← Py.call .now
  Py.call (.claimNextRuntimeQueueAttempt (claimRequest config workerId claimedAt))

/-- The fields of a heartbeat at a time. -/
def heartbeatFields (config : RuntimeQueueConfig) (now : Datetime) : HeartbeatFields where
  heartbeatAt := isoTimestamp now
  claimedUntil := isoTimestamp (now.plusSeconds config.leaseSeconds)
  leaseExpiresAt := isoTimestamp (now.plusSeconds config.leaseSeconds)
  updatedAt := isoTimestamp now

/-- `heartbeat`. -/
def heartbeat (config : RuntimeQueueConfig) (queueId : Text) : Py Unit := do
  let now ← Py.call .now
  let result ← Py.call (.heartbeatRuntimeQueueItem queueId (heartbeatFields config now))
  let _ ← Py.lift result

/-- `recover_stale_claims`. -/
def recoverStaleClaims : Py (List QueueItem) := do
  let now ← Py.timestamp
  Py.call (.recoverStaleRuntimeQueueItems now)

/-- `_update_status`; `fields` gives every field but the time. -/
def updateStatus (queueId : Text) (fields : Text → StatusFields) : Py Unit := do
  let updatedAt ← Py.timestamp
  let result ← Py.call (.updateRuntimeQueueItem queueId (fields updatedAt))
  let _ ← Py.lift result

/-- `mark_running`. -/
def markRunning (queueId runId attemptId : Text) : Py Unit :=
  updateStatus queueId fun updatedAt =>
    { status := .running, updatedAt, runId := some runId, attemptId := some attemptId }

/-- `mark_succeeded`. -/
def markSucceeded (queueId runId : Text) : Py Unit :=
  updateStatus queueId fun updatedAt =>
    { status := .succeeded, updatedAt, runId := some runId, lastError := some none }

/-- A queue item looked up by identifier. -/
def requireItem (queueId : Text) : Py Unit := do
  let found ← Py.call (.getRuntimeQueueItem queueId)
  Py.raiseIf found.isNone (queueError (("Runtime queue item not found: " : Text) ++ queueId))

/-- Look again at the mapping of a known queue item. -/
def storedItem (queueId : Text) : Py QueueItem := do
  let found ← Py.call (.getRuntimeQueueItem queueId)
  match found with
  | some item => return item
  | none => throw (InMemoryRuntimeStore.keyError queueId)

/-- The status of a run, when the run exists. -/
def runStatus (runId : Text) : Py (Option RuntimeStatus) := do
  let found ← Py.call (.getRuntimeRun runId)
  if found.isNone then return none
  else
    let run ← Py.call (.getRuntimeRun runId)
    return run.map (·.status)

/-- The run fields of a cancellation. -/
def cancelledRun (completedAt : Text) : RunFields :=
  { status := .cancelled, completedAt, stopReason := some "cancelled" }

/-- Cancel a run that has not ended. -/
def cancelRun (runId completedAt : Text) : Py Unit := do
  let status ← runStatus runId
  if status.any fun status => !status.terminal then
    let result ← Py.call (.updateRuntimeRun runId (cancelledRun completedAt))
    Py.lift result
  else
    return ()

/-- The run fields of a cancelled item: the given run, else the one the item names. -/
def cancelRunOf (runId : Option Text) (completedAt : Text) : Py Unit :=
  match runId with
  | none => return ()
  | some runId => cancelRun runId completedAt

/-- `mark_cancelled` on an item that is not cancelled yet. -/
def cancelItem (queueId : Text) (runId : Option Text) : Py Unit := do
  let item ← storedItem queueId
  Py.raiseIf (item.status.terminal && item.status ≠ .cancelled)
    (queueError "Terminal runtime queue items cannot be cancelled.")
  let completedAt ← Py.timestamp
  updateStatus queueId fun updatedAt =>
    { status := .cancelled, updatedAt, runId, clearClaim := true }
  Py.call (.releaseRuntimeQueueClaims queueId completedAt "cancelled")
  let item ← storedItem queueId
  cancelRunOf ((runId.filter (· ≠ [])).or item.runId) completedAt

/-- `mark_cancelled`. -/
def markCancelled (queueId : Text) (runId : Option Text) : Py Unit := do
  requireItem queueId
  let item ← storedItem queueId
  if item.status = .cancelled then return ()
  else cancelItem queueId runId

/-- `isinstance(payload, Mapping)`, else a queue error. -/
def requireObject (payload : Json) (message : Text) : Py JsonObject :=
  match payload with
  | .obj fields => return fields
  | _ => throw (queueError message)

/-- `load_task`. -/
def loadTask (item : QueueItem) : Py JsonObject := do
  let stored ← Py.call (.readJson item.taskPayloadUri)
  let payload ← Py.lift stored
  requireObject payload "Runtime queue task artifact must be a JSON object."

/-- `load_composition_context`. -/
def loadCompositionContext (item : QueueItem) : Py (Option JsonObject) :=
  match item.compositionContextUri with
  | none => return none
  | some uri => do
      let stored ← Py.call (.readJson uri)
      let payload ← Py.lift stored
      let context ← requireObject payload
        "Runtime queue composition context artifact must be a JSON object."
      return some context

/-- Statuses a manual retry starts from. -/
def retryable : RuntimeQueueStatus → Bool
  | .failed | .cancelled | .deadLettered => true
  | _ => false

/-- The idempotency key of a manual retry. -/
def retryKey (request : RetryRequest) (item : QueueItem) : Text :=
  textOr request.idempotencyKey
    (textOr (some item.idempotencyKey) request.queueId ++ (":manual-retry:" : Text) ++
      decimal (item.attempts + 1))

/-- The enqueue a manual retry makes. -/
def retryEnqueue (request : RetryRequest) (item : QueueItem) (task : JsonObject)
    (context : Option JsonObject) : EnqueueRequest where
  task
  compositionContextResponse := context
  priority := item.priority
  scheduledAt := request.scheduledAt
  maxAttempts := (request.maxAttempts.filter (· ≠ 0)).getD item.maxAttempts
  idempotencyKey := some (retryKey request item)
  environment := textOr (some item.environment) "dev"
  queueName := textOr (some item.queueName) "default"

/-- `retry`. -/
def retry (request : RetryRequest) : Py QueueItem := do
  requireItem request.queueId
  let item ← storedItem request.queueId
  Py.raiseIf (!retryable item.status) (queueError
    "Only failed, cancelled, or dead-lettered runtime queue items can be retried.")
  let item ← storedItem request.queueId
  let task ← loadTask item
  let context ← loadCompositionContext item
  enqueue (retryEnqueue request item task context)

/-- The status after a failed attempt. -/
def failureStatus (item : QueueItem) : RuntimeQueueStatus :=
  if (item.attempts : Int) < item.maxAttempts then .retryScheduled else .deadLettered

/-- The identifier of the dead letter of an attempt. -/
def deadLetterId (item : QueueItem) : Text :=
  slugId (item.id ++ '-' :: decimal item.attempts) "dlq"

/-- The dead letter of an attempt. -/
def deadLetter (item : QueueItem) (error : PyError) (runId : Option Text) (createdAt : Text) :
    DeadLetter where
  id := deadLetterId item
  queueId := item.id
  runId
  attemptId := item.attemptId
  tenantId := item.tenantId
  errorType := error.cls.name
  errorMessage := error.message
  createdAt

/-- The status fields of a failed attempt. -/
def failureFields (item : QueueItem) (error : PyError) (runId : Option Text)
    (scheduledAt updatedAt : Text) : StatusFields where
  status := failureStatus item
  updatedAt
  runId
  scheduledAt := some scheduledAt
  lastError := some (some (error.cls.name ++ (": " : Text) ++ error.message))
  clearClaim := true

/-- `mark_failed_or_retry`; `item` is the mapping the caller passes. -/
def markFailedOrRetry (config : RuntimeQueueConfig) (item : QueueItem) (error : PyError)
    (runId : Option Text) : Py Unit := do
  let now ← Py.call .now
  let scheduledAt ← Py.lift (config.retryAt item.id item.attempts now)
  updateStatus item.id (failureFields item error runId (isoTimestamp scheduledAt))
  if failureStatus item = .deadLettered then
    let createdAt ← Py.timestamp
    Py.call (.insertRuntimeDeadLetter (deadLetter item error runId createdAt))
  else
    return ()

end RuntimeQueueManager

end SkillCentric
