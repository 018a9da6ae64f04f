import SkillCentric.Runtime.Loop
import SkillCentric.Runtime.Quotas

/-!
# The queue worker

`RuntimeQueueWorker.process_one`: claim an item, start its run, reserve quota, run the loop, and
write the outcome back.  `processClaim` is everything after the claim.
-/

namespace SkillCentric

open RuntimeQueueManager

/-- `RuntimeQueueProcessResult`. -/
structure RuntimeQueueProcessResult where
  queueId : Text
  status : RuntimeQueueStatus
  runId : Text
  stopReason : Option Text
  attemptId : Text
  deriving DecidableEq

/-- What one call of `process_one` works with. -/
structure RuntimeQueueWorker where
  workerId : Text
  config : RuntimeQueueConfig
  components : Components

namespace RuntimeQueueWorker

/-- The error classes `process_one` catches. -/
def caught (error : PyError) : Bool :=
  match error.cls with
  | .compositionError | .runtimeLoopError | .runtimeQueueError | .runtimeQuotaError
  | .runtimeTenantStatusError => true
  | _ => false

variable (worker : RuntimeQueueWorker) (bundle : ClaimBundle)

/-- The quota limits of the worker's configuration. -/
def quotaConfig : RuntimeQuotaConfig where
  tenantTokenLimitsPerMinute := worker.config.tenantTokenLimitsPerMinute
  tenantToolCallLimitsPerMinute := worker.config.tenantToolCallLimitsPerMinute

/-- The quota a started run reserves. -/
def reserveRequest (start : RuntimeStartResult) : ReserveRequest where
  queueId := bundle.queueItem.id
  runId := start.runId
  tenantId := bundle.queueItem.tenantId
  maxTokens := start.profile.maxTokens
  maxToolCalls := start.profile.maxToolCalls

/-- The profile of the started run, written to the attempt row. -/
def recordProfile (start : RuntimeStartResult) : Py Unit := do
  let result ← Py.call (.updateRuntimeRunAttempt bundle.attempt.id
    (.profile start.runId start.profile.id start.profileSha256))
  Py.lift result

/-- The body of the `try` statement up to the quota reservation. -/
def startClaim : Py (RuntimeStartResult × QuotaReservation) := do
  let task ← loadTask bundle.queueItem
  let context ← loadCompositionContext bundle.queueItem
  let start ← RuntimeEntryPoint.start worker.components task context
    (some bundle.attempt.runId) {}
  markRunning bundle.queueItem.id start.runId bundle.attempt.id
  recordProfile bundle start
  let reservation ← RuntimeQuotaManager.reserve worker.components.redactSensitiveData
    worker.quotaConfig (reserveRequest bundle start)
  return (start, reservation)

/-- The body of the `try` statement after the quota reservation. -/
def runClaim (start : RuntimeStartResult) : Py RuntimeLoopResult := do
  heartbeat worker.config bundle.queueItem.id
  MinimalRuntimeLoop.run ⟨worker.components, some bundle.queueItem.id⟩ start

/-- Complete the attempt row with the item's status. -/
def closeAttempt (stopReason : Option Text) : Py Unit := do
  let item ← storedItem bundle.queueItem.id
  let completedAt ← Py.timestamp
  let result ← Py.call (.updateRuntimeRunAttempt bundle.attempt.id
    (.completed item.status completedAt stopReason))
  Py.lift result

/-- Release the claim row with the item's status. -/
def closeClaim : Py Unit := do
  let releasedAt ← Py.timestamp
  let item ← storedItem bundle.queueItem.id
  let result ← Py.call (.updateRuntimeRunClaim bundle.claim.id releasedAt item.status.text)
  Py.lift result

/-- The returned result. -/
def report (runId : Text) (stopReason : Option Text) : Py RuntimeQueueProcessResult := do
  let item ← storedItem bundle.queueItem.id
  return ⟨bundle.queueItem.id, item.status, runId, stopReason, bundle.attempt.id⟩

/-- The run fields of a failed attempt. -/
def failedRun (error : PyError) (completedAt : Text) : RunFields :=
  { status := .failed, completedAt, stopReason := error.stopReasonOr "runtime_error" }

/-- Fail the run of the attempt unless it has ended. -/
def failOpenRun (error : PyError) : Py Unit := do
  let status ← runStatus bundle.attempt.runId
  if status.any fun status => !status.terminal then
    let completedAt ← Py.timestamp
    let result ← Py.call (.updateRuntimeRun bundle.attempt.runId (failedRun error completedAt))
    Py.lift result
  else
    return ()

/-- Refund the reservation, when there is one. -/
def refundReservation (reservation : Option QuotaReservation) : Py Unit :=
  match reservation with
  | none => return ()
  | some reservation => RuntimeQuotaManager.refund reservation.id

/-- The `except` clause for a caught error. -/
def handleFailure (reservation : Option QuotaReservation) (error : PyError) :
    Py RuntimeQueueProcessResult := do
  failOpenRun bundle error
  markFailedOrRetry worker.config bundle.queueItem error (some bundle.attempt.runId)
  closeAttempt bundle (error.stopReasonOr "runtime_error")
  closeClaim bundle
  refundReservation reservation
  report bundle bundle.attempt.runId (error.stopReasonOr "runtime_error")

/-- The `except` clause; other errors leave `process_one`. -/
def handleError (reservation : Option QuotaReservation) (error : PyError) :
    Py RuntimeQueueProcessResult :=
  if caught error then handleFailure worker bundle reservation error else throw error

/-- The end of a cancelled run. -/
def finishCancelled (reservation : QuotaReservation) (result : RuntimeLoopResult) :
    Py RuntimeQueueProcessResult := do
  markCancelled bundle.queueItem.id (some result.runId)
  closeAttempt bundle (some result.stopReason)
  closeClaim bundle
  refundReservation (some reservation)
  report bundle result.runId (some result.stopReason)

/-- The end of a run that succeeded. -/
def finishSucceeded (reservation : QuotaReservation) (result : RuntimeLoopResult) :
    Py RuntimeQueueProcessResult := do
  markSucceeded bundle.queueItem.id result.runId
  RuntimeQuotaManager.finalize reservation.id
  closeAttempt bundle (some result.stopReason)
  closeClaim bundle
  report bundle result.runId (some result.stopReason)

/-- `process_one` after the quota reservation. -/
def processReserved (start : RuntimeStartResult) (reservation : QuotaReservation) :
    Py RuntimeQueueProcessResult := do
  let outcome ← (runClaim worker bundle start).attempt
  match outcome with
  | .error error => handleError worker bundle (some reservation) error
  | .ok result =>
      if result.cancelled then finishCancelled bundle reservation result
      else finishSucceeded bundle reservation result

/-- `process_one` after the claim. -/
def processClaim : Py RuntimeQueueProcessResult := do
  let outcome ← (startClaim worker bundle).attempt
  match outcome with
  | .error error => handleError worker bundle none error
  | .ok (start, reservation) => processReserved worker bundle start reservation

/-- `process_one`. -/
def processOne : Py (Option RuntimeQueueProcessResult) := do
  let claimed ← claimNextAttempt worker.config worker.workerId
  match claimed with
  | none => return none
  | some bundle => do
      let result ← processClaim worker bundle
      return some result

end RuntimeQueueWorker

end SkillCentric
