import SkillCentric.Properties.EnqueueIdempotency
import SkillCentric.Runtime.Frames

/-!
# Manual retries

A manual retry enqueues the stored task under a key made of the key of its source and the number of
attempts of its source.  The number never changes once the source has ended, so a second retry finds
the item of the first.
-/

namespace SkillCentric.ManualRetry

open SkillCentric RuntimeQueueManager EnqueueIdempotency

def payloads (plane : Plane) (item : QueueItem) :
    Except PyError (JsonObject × Option JsonObject) := do
  let task ← ((loadTask item).run exec plane).1
  let context ← ((loadCompositionContext item).run exec plane).1
  return (task, context)

/-- The stored payloads pass the checks of an enqueue.  Either no item has the retry key, the
payloads are of the task and the tenant of the item, and the key has another identifier than the
item; or an item of that task and tenant is queued under the key and was never claimed. -/
def Replayable (plane : Plane) (request : RetryRequest) (item : QueueItem) : Prop :=
  match payloads plane item with
  | .error _ => False
  | .ok (task, context) =>
      match enqueueChecks (retryEnqueue request item task context) with
      | .error _ => False
      | .ok analyzed =>
          match plane.items.values.find? (·.idempotencyKey = retryKey request item) with
          | none => analyzed.taskId = item.taskId ∧ analyzed.tenantId = item.tenantId ∧
              queueIdOf (retryKey request item) ≠ item.id
          | some existing => existing.status = .queued ∧ existing.attempts = 0 ∧
              existing.taskId = item.taskId ∧ existing.tenantId = item.tenantId

/-- A new item of the same task and tenant is queued, and the source is as it was. -/
def Fresh (plane : Plane) (item : QueueItem) : Except PyError QueueItem × Plane → Prop
  | (.error _, _) => False
  | (.ok retried, after) =>
      (retried.id ≠ item.id ∧ after.items.get? retried.id = some retried ∧
        retried.status = .queued ∧ retried.attempts = 0 ∧
        retried.taskId = item.taskId ∧ retried.tenantId = item.tenantId) ∧
      after.items.get? item.id = some item ∧ after.attempts = plane.attempts ∧
      after.runs = plane.runs

section Run

variable {plane : Plane} {request : RetryRequest} {item : QueueItem}

theorem run_loadTask (plane : Plane) (item : QueueItem) :
    (loadTask item).run exec plane = (((loadTask item).run exec plane).1, plane) := by
  have kept : ((loadTask item).run exec plane).2 = plane := by
    simp only [loadTask, Py.call, Py.lift, Program.run_bind, Program.run_op,
      Program.run_ofExcept, exec]
    cases plane.artifacts.readJson item.taskPayloadUri with
    | error error => rfl
    | ok payload => cases payload <;> rfl
  exact Prod.ext rfl kept

theorem run_loadCompositionContext (plane : Plane) (item : QueueItem) :
    (loadCompositionContext item).run exec plane =
      (((loadCompositionContext item).run exec plane).1, plane) := by
  have kept : ((loadCompositionContext item).run exec plane).2 = plane := by
    unfold loadCompositionContext
    cases item.compositionContextUri with
    | none => rfl
    | some uri =>
        simp only [Py.call, Py.lift, Program.run_bind, Program.run_op, Program.run_ofExcept, exec]
        cases plane.artifacts.readJson uri with
        | error error => rfl
        | ok payload => cases payload <;> rfl
  exact Prod.ext rfl kept

theorem run_retry (found : plane.items.get? request.queueId = some item)
    (ended : retryable item.status = true) :
    (retry request).run exec plane = match payloads plane item with
      | .error error => (.error error, plane)
      | .ok (task, context) =>
        (enqueue (retryEnqueue request item task context)).run exec plane := by
  simp only [retry, Program.run_bind, run_requireItem plane found,
    run_storedItem plane found, ended,
    Py.raiseIf, Bool.not_true, Bool.false_eq_true, if_false, Program.run_pure]
  rw [run_loadTask, payloads]
  cases ((loadTask item).run exec plane).1 with
  | error error => rfl
  | ok task =>
      simp only
      rw [run_loadCompositionContext]
      cases ((loadCompositionContext item).run exec plane).1 with
      | error error => rfl
      | ok context => rfl

theorem insertRuntimeQueueItem_known {store : InMemoryRuntimeStore} {record existing : QueueItem}
    (known : store.runtimeQueueItems.values.find? (·.idempotencyKey = record.idempotencyKey) =
      some existing) : store.insertRuntimeQueueItem record = (existing, store) := by
  rw [InMemoryRuntimeStore.insertRuntimeQueueItem, known]

theorem insertRuntimeQueueItem_new {store : InMemoryRuntimeStore} {record : QueueItem}
    (known : store.runtimeQueueItems.values.find? (·.idempotencyKey = record.idempotencyKey) =
      none) :
    store.insertRuntimeQueueItem record = (record, { store with
      runtimeQueueItems := store.runtimeQueueItems.set record.id record }) := by
  rw [InMemoryRuntimeStore.insertRuntimeQueueItem, known]

variable (plane) in
theorem run_enqueue_unlimited {request : EnqueueRequest} {analyzed : AnalyzedTask}
    (checks : enqueueChecks request = .ok analyzed)
    (unlimited : request.tenantQueuedLimits analyzed.tenantId = none) :
    ∃ taskUri contextUri artifacts, (enqueue request).run exec plane =
      let key := effectiveKey request.idempotencyKey analyzed.taskId
      let inserted := plane.store.insertRuntimeQueueItem
        (request.record analyzed (isoTimestamp plane.clock) key taskUri contextUri)
      (.ok inserted.1, { plane with store := inserted.2, artifacts }) := by
  simp only [enqueue, checks, Py.lift, Program.run_bind, Program.run_ofExcept, checkQueuedLimit,
    unlimited, Program.run_pure, run_timestamp, Py.call, Program.run_op, exec]
  cases request.compositionContextResponse with
  | none => exact ⟨_, _, _, rfl⟩
  | some context => exact ⟨_, _, _, rfl⟩

theorem run_enqueue_error {request : EnqueueRequest} {error : PyError}
    (fails : enqueueChecks request = .error error) :
    (enqueue request).run exec plane = (.error error, plane) := by
  simp only [enqueue, fails, Py.lift, Program.run_bind, Program.run_ofExcept]

theorem retryKey_ne (implicit : request.idempotencyKey = none) :
    retryKey request item ≠ item.idempotencyKey ∧ retryKey request item ≠ [] := by
  have key_eq : retryKey request item = textOr (some item.idempotencyKey) request.queueId ++
      (":manual-retry:" : Text) ++ decimal (item.attempts + 1) := by
    rw [retryKey, implicit]
    rfl
  have longer : (":manual-retry:" : Text).length ≤ (retryKey request item).length := by
    rw [key_eq, List.length_append, List.length_append]
    omega
  have alive : retryKey request item ≠ [] := by
    intro empty
    rw [empty] at longer
    exact absurd longer (by decide)
  refine ⟨fun same => ?_, alive⟩
  by_cases empty : item.idempotencyKey = []
  · exact alive (same.trans empty)
  · have kept : textOr (some item.idempotencyKey) request.queueId = item.idempotencyKey := by
      simp [textOr, Option.filter, empty]
    rw [kept] at key_eq
    have lengths := congrArg List.length (key_eq.symm.trans same)
    rw [List.length_append, List.length_append] at lengths
    have positive : 0 < (":manual-retry:" : Text).length := by decide
    omega

theorem fresh_found {existing : QueueItem} {artifacts : JsonArtifactStore}
    (other : existing.id ≠ item.id) (kept : plane.items.get? existing.id = some existing)
    (at_id : plane.items.get? item.id = some item) :
    Fresh plane item (.ok existing, { plane with artifacts }) ↔
      existing.status = .queued ∧ existing.attempts = 0 ∧
        existing.taskId = item.taskId ∧ existing.tenantId = item.tenantId := by
  constructor
  · rintro ⟨⟨-, -, status, attempts, task, tenant⟩, -⟩
    exact ⟨status, attempts, task, tenant⟩
  · rintro ⟨status, attempts, task, tenant⟩
    exact ⟨⟨other, kept, status, attempts, task, tenant⟩, at_id, rfl, rfl⟩

theorem record_id (request : EnqueueRequest) (analyzed : AnalyzedTask) (now key : Text)
    (taskUri : ArtifactPath) (contextUri : Option ArtifactPath) :
    (request.record analyzed now key taskUri contextUri).id = queueIdOf key := rfl

theorem fresh_inserted {record : QueueItem} {artifacts : JsonArtifactStore}
    (queued : record.status = .queued) (unclaimed : record.attempts = 0)
    (at_id : plane.items.get? item.id = some item) :
    Fresh plane item (.ok record, { plane with
        store := { plane.store with
          runtimeQueueItems := plane.store.runtimeQueueItems.set record.id record }
        artifacts }) ↔
      record.taskId = item.taskId ∧ record.tenantId = item.tenantId ∧ record.id ≠ item.id := by
  constructor
  · rintro ⟨⟨differs, -, -, -, task, tenant⟩, -⟩
    exact ⟨task, tenant, differs⟩
  · rintro ⟨task, tenant, differs⟩
    refine ⟨⟨differs, Dict.get?_set_self _ _ _, queued, unclaimed, task, tenant⟩, ?_, rfl, rfl⟩
    exact (Dict.get?_set_ne _ _ (Ne.symm differs)).trans at_id

end Run

/-- A manual retry without an explicit key is fresh exactly when its source can be replayed and its
key is new, or names an item that waits for its first claim. -/
theorem manual_retry_fresh {plane : Plane} (reached : plane.Reachable) {request : RetryRequest}
    (implicit : request.idempotencyKey = none) {item : QueueItem}
    (found : plane.items.get? request.queueId = some item)
    (ended : item.status = .failed ∨ item.status = .cancelled ∨ item.status = .deadLettered) :
    Fresh plane item ((retry request).run exec plane) ↔ Replayable plane request item := by
  have keyed := reached.keyed
  have named : item.id = request.queueId := keyed _ _ found
  have at_id : plane.items.get? item.id = some item := by
    rw [named]
    exact found
  have retries : retryable item.status = true := by
    rcases ended with status | status | status <;> rw [status] <;> rfl
  obtain ⟨differs, alive⟩ : retryKey request item ≠ item.idempotencyKey ∧
      retryKey request item ≠ [] :=
    retryKey_ne implicit
  rw [run_retry found retries, Replayable]
  cases payloads plane item with
  | error error => exact Iff.rfl
  | ok loaded =>
      obtain ⟨task, context⟩ := loaded
      simp only
      cases checks : enqueueChecks (retryEnqueue request item task context) with
      | error error =>
          rw [run_enqueue_error checks]
          exact Iff.rfl
      | ok analyzed =>
          obtain ⟨taskUri, contextUri, artifacts, ran⟩ :=
            run_enqueue_unlimited plane checks rfl
          have key_eq : effectiveKey (retryEnqueue request item task context).idempotencyKey
              analyzed.taskId = retryKey request item := by
            simp [effectiveKey, retryEnqueue, textOr, Option.filter, alive]
          rw [ran, key_eq]
          simp only
          cases known : plane.store.runtimeQueueItems.values.find?
              (·.idempotencyKey = retryKey request item) with
          | some existing =>
              have member := List.mem_of_find?_eq_some known
              obtain ⟨queueId, stored⟩ := (Dict.mem_values_iff _ _).mp member
              have existing_named : existing.id = queueId := keyed queueId existing stored
              have keyed_so : existing.idempotencyKey = retryKey request item := by
                simpa using List.find?_some known
              have other : existing.id ≠ item.id := by
                intro same
                rw [← existing_named, same, named, found] at stored
                cases stored
                exact differs keyed_so.symm
              have kept : plane.items.get? existing.id = some existing := by
                rw [existing_named]
                exact stored
              rw [insertRuntimeQueueItem_known known]
              exact fresh_found other kept at_id
          | none =>
              rw [insertRuntimeQueueItem_new known]
              refine (fresh_inserted rfl rfl at_id).trans ?_
              rw [record_id]
              exact Iff.rfl

instance (plane : Plane) (request : RetryRequest) (item : QueueItem) :
    Decidable (Replayable plane request item) := by
  unfold Replayable
  repeat' split
  all_goals infer_instance

/-- A plane with one cancelled item. -/
def cancelledPlane : Plane :=
  let enqueued := ((enqueue { task := Sample.task "task-a" "tenant-a" }).run exec .empty).2
  ((markCancelled (queueIdOf "task-a:initial") none).run exec enqueued).2

/-- The retry of the item. -/
def sampleRetry : RetryRequest := { queueId := queueIdOf "task-a:initial" }

/-- The first retry was cancelled too. -/
def twiceCancelledPlane : Plane :=
  let retried := ((retry sampleRetry).run exec cancelledPlane).2
  ((markCancelled (queueIdOf "task-a:initial:manual-retry:1") none).run exec retried).2

theorem cancelledPlane_reachable : cancelledPlane.Reachable :=
  ((Plane.Reachable.empty 0 .empty).run _).run _

/-- The cancelled item. -/
def cancelledItem : QueueItem :=
  (cancelledPlane.items.get? (queueIdOf "task-a:initial")).getD
    (EnqueueRequest.record { task := [] } ⟨[], [], []⟩ [] [] [] none)

private theorem cancelledItem_found :
    cancelledPlane.items.get? sampleRetry.queueId = some cancelledItem :=
  (Option.getD_of_ne_none (by decide) _).symm

/-- The first retry is fresh. -/
theorem first_retry_fresh :
    Fresh cancelledPlane cancelledItem ((retry sampleRetry).run exec cancelledPlane) :=
  (manual_retry_fresh cancelledPlane_reachable rfl cancelledItem_found (by decide)).mpr
    (by decide)

/-- The second retry returns the cancelled item of the first. -/
theorem second_retry_stale :
    twiceCancelledPlane.Reachable ∧
      twiceCancelledPlane.items.get? sampleRetry.queueId = some cancelledItem ∧
      cancelledItem.status = .cancelled ∧
      ¬Fresh twiceCancelledPlane cancelledItem
        ((retry sampleRetry).run exec twiceCancelledPlane) := by
  refine ⟨(cancelledPlane_reachable.run _).run _, by decide, by decide,
    fun fresh => ?_⟩
  have stale : ((retry sampleRetry).run exec twiceCancelledPlane).1.map (·.status) =
      .ok .cancelled := by decide
  rcases ran : (retry sampleRetry).run exec twiceCancelledPlane with ⟨outcome, after⟩
  rw [ran] at fresh stale
  cases outcome with
  | error error => exact fresh
  | ok retried =>
      have cancelled : retried.status = .cancelled := Except.ok.inj stale
      rw [fresh.1.2.2.1] at cancelled
      cases cancelled

end SkillCentric.ManualRetry
