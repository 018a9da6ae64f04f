import SkillCentric.Library.Dict
import SkillCentric.Runtime.Records

/-!
# The in-memory runtime store

`InMemoryRuntimeStore`, one definition per store operation.  Each operation is one atomic step:
the methods that iterate or read before they write hold the store's lock, the others are single
dictionary accesses.
-/

namespace SkillCentric

/-- The tables of the in-memory store. -/
structure InMemoryRuntimeStore where
  runtimeRuns : Dict Text RuntimeRun
  runtimeQueueItems : Dict Text QueueItem
  runtimeRunAttempts : Dict Text RunAttempt
  runtimeRunClaims : Dict Text RunClaim
  runtimeDeadLetters : Dict Text DeadLetter
  runtimeQuotaReservations : Dict Text QuotaReservation
  runtimeSteps : Dict Text RuntimeStep
  runtimeEvents : List RuntimeEvent
  runtimeCheckpoints : List RuntimeCheckpoint
  toolInvocations : List ToolInvocation
  validationResults : List ValidationResult
  eventIndices : Dict Text Nat
  checkpointIndices : Dict Text Nat

/-- A claim order on queue items: priority, schedule, creation, identifier.  Timestamps are
compared through `stamp`. -/
def ClaimsBefore {α : Type} [LinearOrder α] (stamp : Text → α) (left right : QueueItem) : Prop :=
  right.priority < left.priority ∨ left.priority = right.priority ∧
    (stamp left.scheduledAt < stamp right.scheduledAt ∨
      stamp left.scheduledAt = stamp right.scheduledAt ∧
        (stamp left.createdAt < stamp right.createdAt ∨
          stamp left.createdAt = stamp right.createdAt ∧ left.id ≤ right.id))

instance {α : Type} [LinearOrder α] (stamp : Text → α) : DecidableRel (ClaimsBefore stamp) :=
  fun left right => by
    unfold ClaimsBefore
    infer_instance

/-- The arguments of a claim. -/
structure ClaimRequest where
  workerId : Text
  claimedAt : Text
  leaseExpiresAt : Text
  tenantRunningLimits : Text → Option Int := fun _ => none
  globalRunningLimit : Option Int := none
  allowedTenantIds : List Text := []
  disabledTenantIds : List Text := []
  environment : Option Text := none
  queueName : Option Text := none

namespace ClaimRequest

/-- The item filters other than status and schedule. -/
def admits (request : ClaimRequest) (item : QueueItem) : Bool :=
  (request.allowedTenantIds.isEmpty || request.allowedTenantIds.contains item.tenantId) &&
    !request.disabledTenantIds.contains item.tenantId &&
    (request.environment.isNone || request.environment = some item.environment) &&
    (request.queueName.isNone || request.queueName = some item.queueName)

end ClaimRequest

/-- What a successful claim returns: snapshots of the item, the attempt and the claim row. -/
structure ClaimBundle where
  queueItem : QueueItem
  attempt : RunAttempt
  claim : RunClaim
  deriving DecidableEq

/-- The run identifier of an attempt. -/
def attemptRunId (item : QueueItem) (attempts : Nat) : Text :=
  slugId (item.taskId ++ ("-attempt-" : Text) ++ decimal attempts) "run"

/-- The attempt identifier of an attempt. -/
def attemptIdOf (item : QueueItem) (attempts : Nat) : Text :=
  slugId (item.id ++ ("-attempt-" : Text) ++ decimal attempts) "attempt"

/-- The claim identifier of an attempt by one worker. -/
def claimIdOf (item : QueueItem) (workerId : Text) (attempts : Nat) : Text :=
  slugId (item.id ++ '-' :: workerId ++ '-' :: decimal attempts) "claim"

namespace QueueItem

/-- The item after a claim. -/
def claimed (item : QueueItem) (request : ClaimRequest) : QueueItem :=
  let attempts := item.attempts + 1
  { item with
    status := .claiming
    attempts
    claimedBy := some request.workerId
    claimedAt := some request.claimedAt
    leaseExpiresAt := some request.leaseExpiresAt
    claimedUntil := some request.leaseExpiresAt
    heartbeatAt := some request.claimedAt
    attemptId := some (attemptIdOf item attempts)
    runId := some (attemptRunId item attempts)
    updatedAt := request.claimedAt }

/-- The rows a claim creates. -/
def bundle (item : QueueItem) (request : ClaimRequest) : ClaimBundle :=
  let attempts := item.attempts + 1
  { queueItem := item.claimed request
    attempt :=
      { id := attemptIdOf item attempts
        queueId := item.id
        runId := attemptRunId item attempts
        tenantId := item.tenantId
        attemptNumber := attempts
        status := .running
        startedAt := request.claimedAt
        completedAt := none
        stopReason := none
        profileId := none
        profileSha256 := none }
    claim :=
      { id := claimIdOf item request.workerId attempts
        queueId := item.id
        workerId := request.workerId
        tenantId := item.tenantId
        claimedAt := request.claimedAt
        claimedUntil := request.leaseExpiresAt
        heartbeatAt := request.claimedAt
        releasedAt := none
        releaseReason := none } }

/-- The lease end that recovery looks at: `claimed_until or lease_expires_at`. -/
def leaseEnd (item : QueueItem) : Option Text :=
  (item.claimedUntil.filter (· ≠ [])).or item.leaseExpiresAt

/-- An executing item whose lease ended by `now`. -/
def stale (item : QueueItem) (now : Text) : Bool :=
  item.status.executing && item.leaseEnd.any (· ≤ now)

/-- The item after a stale recovery. -/
def recovered (item : QueueItem) (now : Text) : QueueItem :=
  { item.clearClaim with
    status := .retryScheduled
    updatedAt := now
    lastError := some "Stale runtime queue claim recovered." }

section Fields

variable (item : QueueItem) (request : ClaimRequest) (now : Text)

@[simp]
theorem claimed_id : (item.claimed request).id = item.id := rfl

@[simp]
theorem claimed_status : (item.claimed request).status = .claiming := rfl

@[simp]
theorem claimed_attempts : (item.claimed request).attempts = item.attempts + 1 := rfl

@[simp]
theorem claimed_maxAttempts : (item.claimed request).maxAttempts = item.maxAttempts := rfl

@[simp]
theorem claimed_tenantId : (item.claimed request).tenantId = item.tenantId := rfl

@[simp]
theorem claimed_identity : (item.claimed request).identity = item.identity := rfl

@[simp]
theorem claimed_claimedBy : (item.claimed request).claimedBy = some request.workerId := rfl

@[simp]
theorem bundle_queueItem : (item.bundle request).queueItem = item.claimed request := by
  simp only [bundle]

@[simp]
theorem bundle_attemptId :
    (item.bundle request).attempt.id = attemptIdOf item (item.attempts + 1) := by
  simp only [bundle]

@[simp]
theorem bundle_runId :
    (item.bundle request).attempt.runId = attemptRunId item (item.attempts + 1) := by
  simp only [bundle]

@[simp]
theorem recovered_id : (item.recovered now).id = item.id := rfl

@[simp]
theorem recovered_status : (item.recovered now).status = .retryScheduled := rfl

@[simp]
theorem recovered_attempts : (item.recovered now).attempts = item.attempts := rfl

@[simp]
theorem recovered_maxAttempts : (item.recovered now).maxAttempts = item.maxAttempts := rfl

@[simp]
theorem recovered_tenantId : (item.recovered now).tenantId = item.tenantId := rfl

@[simp]
theorem recovered_identity : (item.recovered now).identity = item.identity := rfl

@[simp]
theorem recovered_claimedBy : (item.recovered now).claimedBy = none := rfl

end Fields

end QueueItem

namespace InMemoryRuntimeStore

/-- The store without rows. -/
def empty : InMemoryRuntimeStore where
  runtimeRuns := .empty
  runtimeQueueItems := .empty
  runtimeRunAttempts := .empty
  runtimeRunClaims := .empty
  runtimeDeadLetters := .empty
  runtimeQuotaReservations := .empty
  runtimeSteps := .empty
  runtimeEvents := []
  runtimeCheckpoints := []
  toolInvocations := []
  validationResults := []
  eventIndices := .empty
  checkpointIndices := .empty

variable (store : InMemoryRuntimeStore)

/-- `KeyError(key)`. -/
def keyError (key : Text) : PyError := ⟨.keyError, Json.quoteText key, none⟩

/-- Insert a queue item unless its idempotency key is known; the stored item is returned. -/
def insertRuntimeQueueItem (record : QueueItem) : QueueItem × InMemoryRuntimeStore :=
  match store.runtimeQueueItems.values.find? (·.idempotencyKey = record.idempotencyKey) with
  | some existing => (existing, store)
  | none =>
      (record, { store with runtimeQueueItems := store.runtimeQueueItems.set record.id record })

/-- Update the status fields of a queue item. -/
def updateRuntimeQueueItem (queueId : Text) (fields : StatusFields) :
    Except PyError QueueItem × InMemoryRuntimeStore :=
  match store.runtimeQueueItems.get? queueId with
  | none => (.error (keyError queueId), store)
  | some item =>
      (.ok (fields.apply item),
        { store with runtimeQueueItems := store.runtimeQueueItems.modify queueId fields.apply })

/-- The first unreleased claim row of a queue item, with its key. -/
def activeClaimForQueue (queueId : Text) : Option (Text × RunClaim) :=
  store.runtimeRunClaims.entries.find? fun entry =>
    entry.2.queueId = queueId ∧ entry.2.releasedAt = none

/-- Refresh the lease of a queue item and of its active claim row. -/
def heartbeatRuntimeQueueItem (queueId : Text) (fields : HeartbeatFields) :
    Except PyError QueueItem × InMemoryRuntimeStore :=
  match store.runtimeQueueItems.get? queueId with
  | none => (.error (keyError queueId), store)
  | some item =>
      let claims :=
        match store.activeClaimForQueue queueId with
        | none => store.runtimeRunClaims
        | some (claimId, _) =>
            store.runtimeRunClaims.modify claimId fun claim =>
              { claim with heartbeatAt := fields.heartbeatAt, claimedUntil := fields.claimedUntil }
      (.ok (fields.apply item),
        { store with
          runtimeQueueItems := store.runtimeQueueItems.modify queueId fields.apply
          runtimeRunClaims := claims })

/-- Executing items of a tenant. -/
def tenantRunningCount (tenantId : Text) : Nat :=
  store.runtimeQueueItems.values.countP fun item =>
    item.tenantId = tenantId ∧ item.status.executing

/-- Executing items. -/
def globalRunningCount : Nat :=
  store.runtimeQueueItems.values.countP fun item => item.status.executing

/-- Items a claim may take, in claim order. -/
def candidates (request : ClaimRequest) : List QueueItem :=
  (store.runtimeQueueItems.values.filter fun item =>
    item.status.claimable && item.scheduledAt ≤ request.claimedAt &&
      request.admits item).insertionSort
      (ClaimsBefore id)

/-- The global limit leaves no room. -/
def globallySaturated (request : ClaimRequest) : Bool :=
  request.globalRunningLimit.any fun limit => limit ≤ (store.globalRunningCount : Int)

/-- The limit of the item's tenant leaves no room. -/
def tenantSaturated (request : ClaimRequest) (item : QueueItem) : Bool :=
  (request.tenantRunningLimits item.tenantId).any fun limit =>
    limit ≤ (store.tenantRunningCount item.tenantId : Int)

/-- The item the next claim takes. -/
def selected (request : ClaimRequest) : Option QueueItem :=
  if store.globallySaturated request then none
  else (store.candidates request).find? fun item => !store.tenantSaturated request item

/-- Write the rows of a claim of one item. -/
def recordClaim (item : QueueItem) (request : ClaimRequest) : InMemoryRuntimeStore :=
  let bundle := item.bundle request
  { store with
    runtimeQueueItems := store.runtimeQueueItems.modify item.id (·.claimed request)
    runtimeRunAttempts := store.runtimeRunAttempts.set bundle.attempt.id bundle.attempt
    runtimeRunClaims := store.runtimeRunClaims.set bundle.claim.id bundle.claim }

/-- Claim the next queue item for an attempt. -/
def claimNextRuntimeQueueAttempt (request : ClaimRequest) :
    Option ClaimBundle × InMemoryRuntimeStore :=
  match store.selected request with
  | none => (none, store)
  | some item => (some (item.bundle request), store.recordClaim item request)

/-- Release the first active claim row of one queue item. -/
def releaseActiveClaim (now : Text) (claims : Dict Text RunClaim) (queueId : Text) :
    Dict Text RunClaim :=
  match claims.entries.find? fun entry =>
    entry.2.queueId = queueId ∧ entry.2.releasedAt = none with
  | none => claims
  | some (claimId, _) => claims.modify claimId fun claim => claim.release now "stale_recovered"

/-- Return every stale item to `retry_scheduled`. -/
def recoverStaleRuntimeQueueItems (now : Text) : List QueueItem × InMemoryRuntimeStore :=
  let stale := store.runtimeQueueItems.values.filter (·.stale now)
  (stale.map (·.recovered now),
    { store with
      runtimeQueueItems := store.runtimeQueueItems.mapValues fun _ item =>
        if item.stale now then item.recovered now else item
      runtimeRunClaims :=
        (stale.map (·.id)).foldl (releaseActiveClaim now) store.runtimeRunClaims })

/-- Update a row of `runtime_run_attempts`. -/
def updateRuntimeRunAttempt (attemptId : Text) (fields : AttemptFields) :
    Except PyError Unit × InMemoryRuntimeStore :=
  match store.runtimeRunAttempts.get? attemptId with
  | none => (.error (keyError attemptId), store)
  | some _ =>
      (.ok (), { store with
        runtimeRunAttempts := store.runtimeRunAttempts.modify attemptId fields.apply })

/-- Release a row of `runtime_run_claims`. -/
def updateRuntimeRunClaim (claimId releasedAt releaseReason : Text) :
    Except PyError Unit × InMemoryRuntimeStore :=
  match store.runtimeRunClaims.get? claimId with
  | none => (.error (keyError claimId), store)
  | some _ =>
      (.ok (), { store with
        runtimeRunClaims :=
          store.runtimeRunClaims.modify claimId (·.release releasedAt releaseReason) })

/-- Release every active claim row of a queue item. -/
def releaseRuntimeQueueClaims (queueId releasedAt releaseReason : Text) : InMemoryRuntimeStore :=
  { store with
    runtimeRunClaims := store.runtimeRunClaims.mapValues fun _ claim =>
      if claim.queueId = queueId ∧ claim.releasedAt = none then
        claim.release releasedAt releaseReason
      else claim }

/-- Update a row of `runtime_quota_reservations`. -/
def updateRuntimeQuotaReservation (reservationId : Text) (status : ReservationStatus)
    (finalizedAt : Text) : Except PyError Unit × InMemoryRuntimeStore :=
  match store.runtimeQuotaReservations.get? reservationId with
  | none => (.error (keyError reservationId), store)
  | some _ =>
      (.ok (), { store with
        runtimeQuotaReservations := store.runtimeQuotaReservations.modify reservationId
          fun reservation => { reservation with status, finalizedAt := some finalizedAt } })

/-- Update a row of `runtime_runs`. -/
def updateRuntimeRun (runId : Text) (fields : RunFields) :
    Except PyError Unit × InMemoryRuntimeStore :=
  match store.runtimeRuns.get? runId with
  | none => (.error (keyError runId), store)
  | some _ =>
      (.ok (), { store with runtimeRuns := store.runtimeRuns.modify runId fields.apply })

/-- Insert a step unless the run has one with the same idempotency key. -/
def insertRuntimeStep (record : RuntimeStep) : RuntimeStep × InMemoryRuntimeStore :=
  match store.runtimeSteps.values.find? fun step =>
    step.runId = record.runId ∧ step.idempotencyKey = record.idempotencyKey with
  | some existing => (existing, store)
  | none => (record, { store with runtimeSteps := store.runtimeSteps.set record.id record })

/-- Complete a step. -/
def updateRuntimeStep (stepId : Text) (status : RuntimeStatus) (completedAt : Text)
    (stopReason : Option Text) (tokensUsed : Int) : Except PyError Unit × InMemoryRuntimeStore :=
  match store.runtimeSteps.get? stepId with
  | none => (.error (keyError stepId), store)
  | some _ =>
      (.ok (), { store with
        runtimeSteps := store.runtimeSteps.modify stepId fun step =>
          { step with status, completedAt := some completedAt, stopReason, tokensUsed } })

/-- The next index of a counter, one past the indices in use when the counter is new. -/
def nextIndex (counters : Dict Text Nat) (runId : Text) (used : List Nat) : Nat :=
  (counters.get? runId).getD (used.foldl (fun next index => max next (index + 1)) 0)

/-- Allocate the next event index of a run. -/
def allocateRuntimeEventIndex (runId : Text) : Nat × InMemoryRuntimeStore :=
  let index := nextIndex store.eventIndices runId
    ((store.runtimeEvents.filter (·.runId = runId)).map (·.eventIndex))
  (index, { store with eventIndices := store.eventIndices.set runId (index + 1) })

/-- Append an event unless the run has one with the same idempotency key. -/
def insertRuntimeEvent (record : RuntimeEvent) : RuntimeEvent × InMemoryRuntimeStore :=
  match store.runtimeEvents.find? fun event =>
    event.runId = record.runId ∧ event.idempotencyKey = record.idempotencyKey with
  | some existing => (existing, store)
  | none => (record, { store with runtimeEvents := store.runtimeEvents ++ [record] })

/-- Allocate the next checkpoint index of a run. -/
def allocateRuntimeCheckpointIndex (runId : Text) : Nat × InMemoryRuntimeStore :=
  let index := nextIndex store.checkpointIndices runId
    ((store.runtimeCheckpoints.filter (·.runId = runId)).map (·.checkpointIndex))
  (index, { store with checkpointIndices := store.checkpointIndices.set runId (index + 1) })

/-- Append a checkpoint unless the run has one with the same index. -/
def insertRuntimeCheckpoint (record : RuntimeCheckpoint) :
    RuntimeCheckpoint × InMemoryRuntimeStore :=
  match store.runtimeCheckpoints.find? fun checkpoint =>
    checkpoint.runId = record.runId ∧ checkpoint.checkpointIndex = record.checkpointIndex with
  | some existing => (existing, store)
  | none => (record, { store with runtimeCheckpoints := store.runtimeCheckpoints ++ [record] })

end InMemoryRuntimeStore

end SkillCentric
