import SkillCentric.Runtime.Worker

/-!
# Programs run alone

What the closing programs of a worker do to the store when nothing runs beside them: each one
returns, and changes one table.
-/

namespace SkillCentric

open Program RuntimeQueueManager InMemoryRuntimeStore

namespace Plane

/-- Replace the queue items. -/
def setItems (plane : Plane) (items : Dict Text QueueItem) : Plane :=
  plane.withStore { plane.store with runtimeQueueItems := items }

/-- Replace the attempt rows. -/
def setAttempts (plane : Plane) (attempts : Dict Text RunAttempt) : Plane :=
  plane.withStore { plane.store with runtimeRunAttempts := attempts }

/-- Replace the claim rows. -/
def setClaims (plane : Plane) (claims : Dict Text RunClaim) : Plane :=
  plane.withStore { plane.store with runtimeRunClaims := claims }

/-- Replace the runs. -/
def setRuns (plane : Plane) (runs : Dict Text RuntimeRun) : Plane :=
  plane.withStore { plane.store with runtimeRuns := runs }

/-- Replace the quota reservations. -/
def setReservations (plane : Plane) (reservations : Dict Text QuotaReservation) : Plane :=
  plane.withStore { plane.store with runtimeQuotaReservations := reservations }

/-- Replace the dead letters. -/
def setDeadLetters (plane : Plane) (letters : Dict Text DeadLetter) : Plane :=
  plane.withStore { plane.store with runtimeDeadLetters := letters }

/-- Quota reservations of the store. -/
abbrev reservations (plane : Plane) : Dict Text QuotaReservation :=
  plane.store.runtimeQuotaReservations

end Plane

section Run

variable (plane : Plane) {queueId runId : Text} {item : QueueItem}

theorem run_timestamp : Py.timestamp.run exec plane = (.ok (isoTimestamp plane.clock), plane) := rfl

section Claim

variable {config : RuntimeQueueConfig} {workerId : Text}

private theorem run_claim :
    (claimNextAttempt config workerId).run exec plane =
      (.ok (plane.store.claimNextRuntimeQueueAttempt (claimRequest config workerId plane.clock)).1,
        plane.withStore (plane.store.claimNextRuntimeQueueAttempt
          (claimRequest config workerId plane.clock)).2) := rfl

theorem run_claimNextAttempt_of_none
    (taken : plane.store.selected (claimRequest config workerId plane.clock) = none) :
    (claimNextAttempt config workerId).run exec plane = (.ok none, plane) := by
  rw [run_claim, claimNextRuntimeQueueAttempt, taken]
  rfl

theorem run_claimNextAttempt_of_some
    (taken : plane.store.selected (claimRequest config workerId plane.clock) = some item) :
    (claimNextAttempt config workerId).run exec plane =
      (.ok (some (item.bundle (claimRequest config workerId plane.clock))),
        plane.withStore
          (plane.store.recordClaim item (claimRequest config workerId plane.clock))) := by
  rw [run_claim, claimNextRuntimeQueueAttempt, taken]

theorem run_claimNextAttempt {bundle : ClaimBundle} {claimed : Plane}
    (claims : (claimNextAttempt config workerId).run exec plane = (.ok (some bundle), claimed)) :
    ∃ item, plane.store.selected (claimRequest config workerId plane.clock) = some item ∧
      bundle = item.bundle (claimRequest config workerId plane.clock) ∧
      claimed = plane.withStore
        (plane.store.recordClaim item (claimRequest config workerId plane.clock)) := by
  cases taken : plane.store.selected (claimRequest config workerId plane.clock) with
  | none =>
      rw [run_claimNextAttempt_of_none plane taken] at claims
      cases claims
  | some item =>
      rw [run_claimNextAttempt_of_some plane taken, Prod.mk.injEq, Except.ok.injEq] at claims
      exact ⟨item, rfl, (Option.some.inj claims.1).symm, claims.2.symm⟩

end Claim

theorem run_storedItem (found : plane.items.get? queueId = some item) :
    (storedItem queueId).run exec plane = (.ok item, plane) := by
  have reply : exec (.getRuntimeQueueItem queueId) plane = (some item, plane) :=
    congrArg (·, plane) found
  simp only [storedItem, Py.call, run_bind, run_op, reply]
  rfl

theorem run_runStatus :
    (runStatus runId).run exec plane = (.ok ((plane.runs.get? runId).map (·.status)), plane) := by
  have reply : exec (.getRuntimeRun runId) plane = (plane.runs.get? runId, plane) := rfl
  simp only [runStatus, Py.call, run_bind, run_op, reply]
  cases found : plane.runs.get? runId with
  | none => rfl
  | some run =>
      simp only [Option.isNone_some, Bool.false_eq_true, if_false, run_bind, run_op, reply, found]
      rfl

theorem run_updateStatus (found : plane.items.get? queueId = some item)
    (fields : Text → StatusFields) :
    (updateStatus queueId fields).run exec plane = (.ok (), plane.setItems
      (plane.items.modify queueId (fields (isoTimestamp plane.clock)).apply)) := by
  have reply : ∀ fields : StatusFields, exec (.updateRuntimeQueueItem queueId fields) plane =
      (.ok (fields.apply item), plane.setItems (plane.items.modify queueId fields.apply)) := by
    intro fields
    simp only [exec, updateRuntimeQueueItem, found]
    rfl
  simp only [updateStatus, Py.call, Py.lift, run_bind, run_timestamp, run_op, reply]
  rfl

theorem run_updateRun {run : RuntimeRun} (found : plane.runs.get? runId = some run)
    (fields : RunFields) :
    exec (.updateRuntimeRun runId fields) plane =
      (.ok (), plane.setRuns (plane.runs.modify runId fields.apply)) := by
  simp only [exec, updateRuntimeRun, found]
  rfl

/-- The runs after an open run is ended. -/
def endedRuns (runs : Dict Text RuntimeRun) (runId : Text) (fields : RunFields) :
    Dict Text RuntimeRun :=
  if ((runs.get? runId).map (·.status)).any fun status => !status.terminal then
    runs.modify runId fields.apply
  else runs

theorem endedRuns_terminal {runs : Dict Text RuntimeRun} {fields : RunFields}
    (terminal : fields.status.terminal) {run : RuntimeRun}
    (found : (endedRuns runs runId fields).get? runId = some run) : run.status.terminal := by
  unfold endedRuns at found
  split at found
  · rw [Dict.get?_modify_self, Option.map_eq_some_iff] at found
    obtain ⟨before, -, rfl⟩ := found
    exact terminal
  · rename_i ended
    simpa [found] using ended

theorem run_requireItem (found : plane.items.get? queueId = some item) :
    (requireItem queueId).run exec plane = (.ok (), plane) := by
  have reply : exec (.getRuntimeQueueItem queueId) plane = (some item, plane) :=
    congrArg (·, plane) found
  simp only [requireItem, Py.call, run_bind, run_op, reply]
  rfl

theorem run_cancelRun {completedAt : Text} :
    (RuntimeQueueManager.cancelRun runId completedAt).run exec plane =
      (.ok (), plane.setRuns (endedRuns plane.runs runId (cancelledRun completedAt))) := by
  simp only [RuntimeQueueManager.cancelRun, run_bind, run_runStatus, endedRuns]
  split
  · rename_i unended
    cases found : plane.runs.get? runId with
    | none => simp [found] at unended
    | some run =>
        simp only [run_bind, Py.call, run_op, run_updateRun plane found]
        rfl
  · rfl

/-- The claim rows after every active row of an item is released. -/
def releasedClaims (claims : Dict Text RunClaim) (queueId releasedAt releaseReason : Text) :
    Dict Text RunClaim :=
  claims.mapValues fun _ claim =>
    if claim.queueId = queueId ∧ claim.releasedAt = none then claim.release releasedAt releaseReason
    else claim

/-- The status fields of a cancellation. -/
def cancelledFields (updatedAt runId : Text) : StatusFields :=
  { status := .cancelled, updatedAt, runId := some runId, clearClaim := true }

theorem run_markCancelled (found : plane.items.get? queueId = some item)
    (executing : item.status.executing = true) (named : runId ≠ []) :
    (markCancelled queueId (some runId)).run exec plane =
      (.ok (), ((plane.setItems (plane.items.modify queueId
        (cancelledFields (isoTimestamp plane.clock) runId).apply)).setClaims
          (releasedClaims plane.claims queueId (isoTimestamp plane.clock) "cancelled")).setRuns
            (endedRuns plane.runs runId (cancelledRun (isoTimestamp plane.clock)))) := by
  have uncancelled : item.status ≠ .cancelled := by
    intro status
    rw [status] at executing
    cases executing
  have unended : item.status.terminal = false := by
    cases status : item.status with
    | claiming => rfl
    | running => rfl
    | _ => rw [status] at executing; cases executing
  simp only [markCancelled, run_bind, run_requireItem plane found, run_storedItem plane found,
    uncancelled, if_false, cancelItem, Py.raiseIf, unended, Bool.false_and, Bool.false_eq_true,
    run_timestamp, run_updateStatus plane found, run_pure]
  change run exec (do
    let item ← storedItem queueId
    cancelRunOf ((Option.filter (fun runId => decide (runId ≠ [])) (some runId)).or item.runId)
      (isoTimestamp plane.clock)) ((plane.setItems _).setClaims _) = _
  have stored := (Dict.get?_modify_self plane.items queueId _).trans (congrArg (Option.map
    (cancelledFields (isoTimestamp plane.clock) runId).apply) found)
  rw [run_bind, run_storedItem _ stored]
  simp only [Option.filter, named, ne_eq, not_false_eq_true, decide_true, if_true, Option.some_or,
    cancelRunOf, run_cancelRun]
  rfl

end Run

namespace RuntimeQueueWorker

variable (plane : Plane) {bundle : ClaimBundle} {error : PyError} {item : QueueItem}

theorem run_failOpenRun :
    (failOpenRun bundle error).run exec plane = (.ok (), plane.setRuns
      (endedRuns plane.runs bundle.attempt.runId
        (failedRun error (isoTimestamp plane.clock)))) := by
  simp only [failOpenRun, run_bind, run_runStatus, endedRuns]
  split
  · rename_i unended
    cases found : plane.runs.get? bundle.attempt.runId with
    | none => simp [found] at unended
    | some run =>
        simp only [run_bind, run_timestamp, Py.call, run_op, run_updateRun plane found]
        rfl
  · rfl

/-- The dead letters after a failed attempt. -/
def lettersAfter (plane : Plane) (item : QueueItem) (error : PyError) (runId : Option Text) :
    Dict Text DeadLetter :=
  if failureStatus item = .deadLettered then
    plane.store.runtimeDeadLetters.set (deadLetterId item)
      (deadLetter item error runId (isoTimestamp plane.clock))
  else plane.store.runtimeDeadLetters

theorem run_markFailedOrRetry (error : PyError) (runId : Option Text)
    {config : RuntimeQueueConfig} {failed : QueueItem} {retryAt : Datetime}
    (found : plane.items.get? failed.id = some item)
    (time : config.retryAt failed.id failed.attempts plane.clock = .ok retryAt) :
    (markFailedOrRetry config failed error runId).run exec plane =
      (.ok (), (plane.setItems (plane.items.modify failed.id
        (failureFields failed error runId (isoTimestamp retryAt)
          (isoTimestamp plane.clock)).apply)).setDeadLetters
          (lettersAfter plane failed error runId)) := by
  have clock : exec .now plane = (plane.clock, plane) := rfl
  simp only [markFailedOrRetry, Py.call, Py.lift, run_bind, run_op, clock, time, run_ofExcept,
    run_updateStatus plane found, lettersAfter]
  split <;> rfl

theorem run_markFailedOrRetry_of_error (error : PyError) (runId : Option Text)
    {config : RuntimeQueueConfig} {failed : QueueItem} {raised : PyError}
    (time : config.retryAt failed.id failed.attempts plane.clock = .error raised) :
    (markFailedOrRetry config failed error runId).run exec plane = (.error raised, plane) := by
  have clock : exec .now plane = (plane.clock, plane) := rfl
  simp only [markFailedOrRetry, Py.call, Py.lift, run_bind, run_op, clock, time, run_ofExcept]

theorem run_closeAttempt {attempt : RunAttempt} {stopReason : Option Text}
    (found : plane.items.get? bundle.queueItem.id = some item)
    (attempted : plane.attempts.get? bundle.attempt.id = some attempt) :
    (closeAttempt bundle stopReason).run exec plane =
      (.ok (), plane.setAttempts (plane.attempts.modify bundle.attempt.id
        (AttemptFields.completed item.status (isoTimestamp plane.clock) stopReason).apply)) := by
  have reply : ∀ fields : AttemptFields,
      exec (.updateRuntimeRunAttempt bundle.attempt.id fields) plane =
        (.ok (), plane.setAttempts (plane.attempts.modify bundle.attempt.id fields.apply)) := by
    intro fields
    simp only [exec, updateRuntimeRunAttempt, attempted]
    rfl
  simp only [closeAttempt, Py.call, Py.lift, run_bind, run_storedItem plane found,
    run_timestamp, run_op,
    reply]
  rfl

theorem run_closeClaim {claim : RunClaim}
    (found : plane.items.get? bundle.queueItem.id = some item)
    (claimed : plane.claims.get? bundle.claim.id = some claim) :
    (closeClaim bundle).run exec plane =
      (.ok (), plane.setClaims (plane.claims.modify bundle.claim.id
        (·.release (isoTimestamp plane.clock) item.status.text))) := by
  have reply : ∀ releasedAt releaseReason : Text,
      exec (.updateRuntimeRunClaim bundle.claim.id releasedAt releaseReason) plane =
        (.ok (), plane.setClaims (plane.claims.modify bundle.claim.id
          (·.release releasedAt releaseReason))) := by
    intro releasedAt releaseReason
    simp only [exec, updateRuntimeRunClaim, claimed]
    rfl
  simp only [closeClaim, Py.call, Py.lift, run_bind, run_storedItem plane found,
    run_timestamp, run_op,
    reply]
  rfl

theorem run_report {runId : Text} {stopReason : Option Text}
    (found : plane.items.get? bundle.queueItem.id = some item) :
    (report bundle runId stopReason).run exec plane =
      (.ok ⟨bundle.queueItem.id, item.status, runId, stopReason, bundle.attempt.id⟩, plane) := by
  simp only [report, run_bind, run_storedItem plane found]
  rfl

end RuntimeQueueWorker

/-- The reservation after its end. -/
def QuotaReservation.settled (status : ReservationStatus) (finalizedAt : Text)
    (reservation : QuotaReservation) : QuotaReservation :=
  { reservation with status, finalizedAt := some finalizedAt }

theorem RuntimeQuotaManager.run_settle (plane : Plane) {status : ReservationStatus}
    {reservationId : Text} {reservation : QuotaReservation}
    (found : plane.reservations.get? reservationId = some reservation) :
    (settle status reservationId).run exec plane =
      (.ok (), plane.setReservations (plane.reservations.modify reservationId
        (·.settled status (isoTimestamp plane.clock)))) := by
  have reply : ∀ finalizedAt : Text,
      exec (.updateRuntimeQuotaReservation reservationId status finalizedAt) plane =
        (.ok (), plane.setReservations (plane.reservations.modify reservationId
          (·.settled status finalizedAt))) := by
    intro finalizedAt
    simp only [exec, updateRuntimeQuotaReservation, found]
    rfl
  simp only [settle, Py.call, Py.lift, run_bind, run_timestamp, run_op, reply]
  rfl

end SkillCentric
