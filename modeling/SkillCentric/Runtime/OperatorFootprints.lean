import SkillCentric.Runtime.Footprints
import SkillCentric.Runtime.System

/-!
# Footprints of operator calls

Which operations the calls of an operator perform on items and runs.
-/

namespace SkillCentric

open Program RuntimeQueueManager

section Rules

variable {α : Type} {p : Op → Prop}

theorem performs_records {program : Py α} {runId : Text} (records : program.Records runId)
    (quiet : ∀ op : Op, op.quiet = true → p op) : program.Performs p :=
  records.mono (fun op footprint => quiet op footprint.quiet) fun _ _ => trivial

end Rules

namespace RuntimeQueueManager

variable {p : Op → Prop} (quiet : ∀ op : Op, op.quiet = true → p op)
include quiet

theorem performs_storedItem (queueId : Text) : (storedItem queueId).Performs p :=
  performs_records (storedItem_records : (storedItem queueId).Records []) quiet

theorem performs_requireItem (queueId : Text) : (requireItem queueId).Performs p :=
  performs_records (requireItem_records : (requireItem queueId).Records []) quiet

theorem enqueue_performs_checked (request : EnqueueRequest)
    (insert : ∀ analyzed, enqueueChecks request = .ok analyzed →
      ∀ now taskPayloadUri compositionContextUri, p (.insertRuntimeQueueItem
        (request.record analyzed now (effectiveKey request.idempotencyKey analyzed.taskId)
          taskPayloadUri compositionContextUri))) :
    (enqueue request).Performs p := by
  refine yields_bind (yields_ofExcept fun _ checked => checked) fun analyzed checked => ?_
  refine performs_bind ?_ fun _ => ?_
  · unfold checkQueuedLimit
    split
    · exact performs_pure
    · refine performs_bind ?_ fun _ => performs_raiseIf
      exact performs_bind (performs_call (quiet _ rfl)) fun _ => performs_pure
  refine performs_bind (performs_timestamp (quiet _ rfl)) fun now => ?_
  refine performs_bind (performs_call (quiet _ rfl)) fun taskPayloadUri => ?_
  refine performs_bind ?_ fun compositionContextUri => ?_
  · unfold writeOptional
    split
    · exact performs_pure
    · exact performs_bind (performs_call (quiet _ rfl)) fun _ => performs_pure
  exact performs_call (insert analyzed checked now taskPayloadUri compositionContextUri)

theorem enqueue_performs (request : EnqueueRequest)
    (insert : ∀ analyzed now key taskPayloadUri compositionContextUri,
      p (.insertRuntimeQueueItem
        (request.record analyzed now key taskPayloadUri compositionContextUri))) :
    (enqueue request).Performs p :=
  enqueue_performs_checked quiet request fun analyzed _ now => insert analyzed now _

theorem markCancelled_performs (queueId : Text) (runId : Option Text)
    (cancelItem : ∀ fields : StatusFields, fields.status = .cancelled →
      fields.clearClaim = true → p (.updateRuntimeQueueItem queueId fields))
    (release : ∀ releasedAt reason, p (.releaseRuntimeQueueClaims queueId releasedAt reason))
    (cancelRun : ∀ runId (fields : RunFields), fields.status = .cancelled →
      p (.updateRuntimeRun runId fields)) :
    (markCancelled queueId runId).Performs p := by
  refine performs_bind (performs_requireItem quiet queueId) fun _ => ?_
  refine performs_bind (performs_storedItem quiet queueId) fun item => ?_
  split
  · exact performs_pure
  refine performs_bind (performs_storedItem quiet queueId) fun item => ?_
  refine performs_bind performs_raiseIf fun _ => ?_
  refine performs_bind (performs_timestamp (quiet _ rfl)) fun completedAt => ?_
  refine performs_bind ?_ fun _ => ?_
  · refine performs_bind (performs_timestamp (quiet _ rfl)) fun updatedAt => ?_
    refine performs_bind (performs_call (cancelItem _ rfl rfl)) fun _ => ?_
    exact performs_bind performs_lift fun _ => performs_pure
  refine performs_bind (performs_call (release completedAt _)) fun _ => ?_
  refine performs_bind (performs_storedItem quiet queueId) fun item => ?_
  unfold cancelRunOf
  split
  · exact performs_pure
  · rename_i target _
    refine performs_bind (performs_records
      (runStatus_traces.records : (runStatus target).Records []) quiet) fun status => ?_
    split
    · exact performs_bind (performs_call (cancelRun _ _ rfl)) fun _ => performs_lift
    · exact performs_pure

theorem retry_performs (request : RetryRequest)
    (insert : ∀ (request : EnqueueRequest) analyzed now key taskPayloadUri compositionContextUri,
      p (.insertRuntimeQueueItem
        (request.record analyzed now key taskPayloadUri compositionContextUri))) :
    (retry request).Performs p := by
  refine performs_bind (performs_requireItem quiet _) fun _ => ?_
  refine performs_bind (performs_storedItem quiet _) fun _ => ?_
  refine performs_bind performs_raiseIf fun _ => ?_
  refine performs_bind (performs_storedItem quiet _) fun item => ?_
  refine performs_bind (performs_records
    (loadTask_records : (loadTask item).Records []) quiet) fun task => ?_
  refine performs_bind (performs_records (loadCompositionContext_records :
    (loadCompositionContext item).Records []) quiet) fun context => ?_
  exact enqueue_performs quiet _ (insert _)

end RuntimeQueueManager

namespace OperatorCall

/-- The operations of a call. -/
def Performs (call : OperatorCall) : Op → Prop
  | .insertRuntimeQueueItem record =>
      record.status = .queued ∧ record.attempts = 0 ∧ record.claimedBy = none ∧
        record.id = queueIdOf record.idempotencyKey
  | .updateRuntimeQueueItem queueId fields =>
      fields.status = .cancelled ∧ fields.clearClaim = true ∧
        ∃ runId, call = .cancel queueId runId
  | .updateRuntimeRun _ fields =>
      fields.status = .cancelled ∧ ∃ queueId runId, call = .cancel queueId runId
  | .heartbeatRuntimeQueueItem _ _ | .recoverStaleRuntimeQueueItems _
  | .releaseRuntimeQueueClaims _ _ _ => True
  | op => op.quiet = true

theorem performs_of_quiet (call : OperatorCall) (op : Op) (quiet : op.quiet = true) :
    call.Performs op := by
  cases op <;> first | exact quiet | exact trivial | cases quiet

theorem program_performs (call : OperatorCall) : call.program.Performs call.Performs := by
  have quiet := call.performs_of_quiet
  cases call with
  | enqueue request =>
      exact performs_bind (enqueue_performs quiet request fun _ _ _ _ _ => ⟨rfl, rfl, rfl, rfl⟩)
        fun _ => performs_pure
  | cancel queueId runId =>
      exact markCancelled_performs quiet queueId runId
        (fun _ status cleared => ⟨status, cleared, runId, rfl⟩) (fun _ _ => trivial)
        fun _ _ status => ⟨status, queueId, runId, rfl⟩
  | retry request =>
      exact performs_bind (retry_performs quiet request fun _ _ _ _ _ _ => ⟨rfl, rfl, rfl, rfl⟩)
        fun _ => performs_pure
  | heartbeat config queueId =>
      refine performs_bind (performs_call (quiet _ rfl)) fun now => ?_
      refine performs_bind (performs_call trivial) fun _ => ?_
      exact performs_bind performs_lift fun _ => performs_pure
  | recover =>
      refine performs_bind ?_ fun _ => performs_pure
      exact performs_bind (performs_timestamp (quiet _ rfl)) fun _ => performs_call trivial

end OperatorCall

end SkillCentric
