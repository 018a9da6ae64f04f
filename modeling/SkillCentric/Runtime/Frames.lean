import SkillCentric.Runtime.Operations

/-!
# Frame facts of the operations

Which tables an operation can change, and that it leaves the others alone.
-/

namespace SkillCentric

open InMemoryRuntimeStore

namespace Op

/-- Operations that can change a queue item. -/
def touchesItems : Op → Bool
  | .insertRuntimeQueueItem _ | .updateRuntimeQueueItem _ _ | .heartbeatRuntimeQueueItem _ _
  | .claimNextRuntimeQueueAttempt _ | .recoverStaleRuntimeQueueItems _ => true
  | _ => false

/-- Operations that can change a run. -/
def touchesRuns : Op → Bool
  | .insertRuntimeRun _ | .updateRuntimeRun _ _ => true
  | _ => false

/-- Operations that can change an attempt row. -/
def touchesAttempts : Op → Bool
  | .claimNextRuntimeQueueAttempt _ | .updateRuntimeRunAttempt _ _ => true
  | _ => false

/-- Operations that can change a claim row. -/
def touchesClaims : Op → Bool
  | .heartbeatRuntimeQueueItem _ _ | .claimNextRuntimeQueueAttempt _
  | .recoverStaleRuntimeQueueItems _ | .updateRuntimeRunClaim _ _ _
  | .releaseRuntimeQueueClaims _ _ _ => true
  | _ => false

/-- Operations that can change a quota reservation. -/
def touchesReservations : Op → Bool
  | .insertRuntimeQuotaReservation _ | .updateRuntimeQuotaReservation _ _ _ => true
  | _ => false

/-- Operations that can change a dead letter. -/
def touchesDeadLetters : Op → Bool
  | .insertRuntimeDeadLetter _ => true
  | _ => false

/-- Operations that can change the row of a step. -/
def touchesSteps : Op → Bool
  | .insertRuntimeStep _ | .updateRuntimeStep _ _ _ _ _ => true
  | _ => false

/-- Operations that can change the event log. -/
def touchesEvents : Op → Bool
  | .allocateRuntimeEventIndex _ | .insertRuntimeEvent _ => true
  | _ => false

/-- Operations that can change the checkpoint log. -/
def touchesCheckpoints : Op → Bool
  | .allocateRuntimeCheckpointIndex _ | .insertRuntimeCheckpoint _ => true
  | _ => false

/-- Operations that file the rows of tools and validators. -/
def touchesReports : Op → Bool
  | .insertToolInvocation _ | .insertValidationResult _ => true
  | _ => false

/-- Operations that leave queue items, runs, attempts, claims, reservations and dead letters
alone. -/
def quiet (op : Op) : Bool :=
  !(op.touchesItems || op.touchesRuns || op.touchesAttempts || op.touchesClaims ||
    op.touchesReservations || op.touchesDeadLetters)

/-- What an operation leaves alone. -/
structure Frame (op : Op) (before after : Plane) : Prop where
  items : op.touchesItems = false → after.items = before.items
  runs : op.touchesRuns = false → after.runs = before.runs
  attempts : op.touchesAttempts = false → after.attempts = before.attempts
  claims : op.touchesClaims = false → after.claims = before.claims
  reservations : op.touchesReservations = false →
    after.store.runtimeQuotaReservations = before.store.runtimeQuotaReservations
  deadLetters : op.touchesDeadLetters = false →
    after.store.runtimeDeadLetters = before.store.runtimeDeadLetters
  steps : op.touchesSteps = false → after.store.runtimeSteps = before.store.runtimeSteps
  events : op.touchesEvents = false →
    after.store.runtimeEvents = before.store.runtimeEvents ∧
      after.store.eventIndices = before.store.eventIndices
  checkpoints : op.touchesCheckpoints = false →
    after.store.runtimeCheckpoints = before.store.runtimeCheckpoints ∧
      after.store.checkpointIndices = before.store.checkpointIndices
  reports : op.touchesReports = false →
    after.store.toolInvocations = before.store.toolInvocations ∧
      after.store.validationResults = before.store.validationResults

end Op

section Frames

variable {op : Op} (plane : Plane)

private theorem exec_frame (op : Op) : op.Frame plane (exec op plane).2 := by
  cases op <;>
    simp only [exec, Plane.withStore, insertRuntimeQueueItem, updateRuntimeQueueItem,
      heartbeatRuntimeQueueItem, claimNextRuntimeQueueAttempt, recordClaim,
      recoverStaleRuntimeQueueItems, updateRuntimeRunAttempt, updateRuntimeRunClaim,
      releaseRuntimeQueueClaims, updateRuntimeQuotaReservation, updateRuntimeRun,
      insertRuntimeStep, updateRuntimeStep, allocateRuntimeEventIndex, insertRuntimeEvent,
      allocateRuntimeCheckpointIndex, insertRuntimeCheckpoint] <;>
    (try split) <;> constructor <;>
    first | exact fun _ => rfl | exact fun _ => ⟨rfl, rfl⟩ | (intro untouched; cases untouched)

theorem exec_items (untouched : op.touchesItems = false) :
    (exec op plane).2.items = plane.items := (exec_frame plane op).items untouched

theorem exec_runs (untouched : op.touchesRuns = false) :
    (exec op plane).2.runs = plane.runs := (exec_frame plane op).runs untouched

theorem exec_attempts (untouched : op.touchesAttempts = false) :
    (exec op plane).2.attempts = plane.attempts := (exec_frame plane op).attempts untouched

theorem exec_claims (untouched : op.touchesClaims = false) :
    (exec op plane).2.claims = plane.claims := (exec_frame plane op).claims untouched

theorem exec_reservations (untouched : op.touchesReservations = false) :
    (exec op plane).2.store.runtimeQuotaReservations = plane.store.runtimeQuotaReservations :=
  (exec_frame plane op).reservations untouched

theorem exec_deadLetters (untouched : op.touchesDeadLetters = false) :
    (exec op plane).2.store.runtimeDeadLetters = plane.store.runtimeDeadLetters :=
  (exec_frame plane op).deadLetters untouched

theorem exec_steps (untouched : op.touchesSteps = false) :
    (exec op plane).2.store.runtimeSteps = plane.store.runtimeSteps :=
  (exec_frame plane op).steps untouched

theorem exec_events (untouched : op.touchesEvents = false) :
    (exec op plane).2.store.runtimeEvents = plane.store.runtimeEvents ∧
      (exec op plane).2.store.eventIndices = plane.store.eventIndices :=
  (exec_frame plane op).events untouched

theorem exec_checkpoints (untouched : op.touchesCheckpoints = false) :
    (exec op plane).2.store.runtimeCheckpoints = plane.store.runtimeCheckpoints ∧
      (exec op plane).2.store.checkpointIndices = plane.store.checkpointIndices :=
  (exec_frame plane op).checkpoints untouched

theorem exec_reports (untouched : op.touchesReports = false) :
    (exec op plane).2.store.toolInvocations = plane.store.toolInvocations ∧
      (exec op plane).2.store.validationResults = plane.store.validationResults :=
  (exec_frame plane op).reports untouched

theorem exec_artifacts {op : Op} (unwritten : ∀ parts payload, op ≠ .writeJson parts payload) :
    (exec op plane).2.artifacts = plane.artifacts := by
  cases op with
  | writeJson parts payload => exact (unwritten parts payload rfl).elim
  | _ => rfl

theorem exec_clock (op : Op) : (exec op plane).2.clock = plane.clock := by
  cases op <;> rfl

end Frames

/-- Every queue item is stored under its own identifier. -/
def Plane.Keyed (plane : Plane) : Prop :=
  ∀ queueId item, plane.items.get? queueId = some item → item.id = queueId

namespace InMemoryRuntimeStore

theorem selected_spec {store : InMemoryRuntimeStore} {request : ClaimRequest} {item : QueueItem}
    (taken : store.selected request = some item) :
    item ∈ store.runtimeQueueItems.values ∧ item.status.claimable ∧
      item.scheduledAt ≤ request.claimedAt ∧ request.admits item ∧
      store.globallySaturated request = false ∧ store.tenantSaturated request item = false := by
  unfold selected at taken
  split at taken
  · cases taken
  · rename_i room
    have tenant_room := List.find?_some taken
    have member := List.mem_of_find?_eq_some taken
    unfold candidates at member
    rw [List.mem_insertionSort, List.mem_filter] at member
    simp only [Bool.and_eq_true, decide_eq_true_eq] at member
    refine ⟨member.1, member.2.1.1, member.2.1.2, member.2.2, by simpa using room, ?_⟩
    simpa using tenant_room

end InMemoryRuntimeStore

theorem Plane.Keyed.selected {plane : Plane} (keyed : plane.Keyed) {request : ClaimRequest}
    {item : QueueItem} (taken : plane.store.selected request = some item) :
    plane.items.get? item.id = some item := by
  obtain ⟨queueId, found⟩ := (Dict.mem_values_iff _ _).mp (selected_spec taken).1
  rw [keyed queueId item found]
  exact found

theorem Plane.Keyed.claimed_item {plane : Plane} (keyed : plane.Keyed) {request : ClaimRequest}
    {item : QueueItem} (taken : plane.store.selected request = some item) :
    (SkillCentric.exec (.claimNextRuntimeQueueAttempt request) plane).2.items.get? item.id =
      some (item.claimed request) := by
  simp only [SkillCentric.exec, claimNextRuntimeQueueAttempt, taken,
    recordClaim, Plane.withStore, Plane.items]
  rw [Dict.get?_modify_self]
  exact congrArg _ (keyed.selected taken)

section Inversion

variable {op : Op} {plane : Plane}

/-- What one operation can do to the queue item under an identifier. -/
inductive ItemChange (plane : Plane) (queueId : Text) : Op → Option QueueItem → Prop
  | same {op : Op} : ItemChange plane queueId op (plane.items.get? queueId)
  | inserted {record : QueueItem} (id_eq : record.id = queueId)
      (unknown : ∀ item ∈ plane.items.values, item.idempotencyKey ≠ record.idempotencyKey) :
      ItemChange plane queueId (.insertRuntimeQueueItem record) (some record)
  | updated {fields : StatusFields} {item : QueueItem}
      (found : plane.items.get? queueId = some item) :
      ItemChange plane queueId (.updateRuntimeQueueItem queueId fields) (some (fields.apply item))
  | refreshed {fields : HeartbeatFields} {item : QueueItem}
      (found : plane.items.get? queueId = some item) :
      ItemChange plane queueId (.heartbeatRuntimeQueueItem queueId fields)
        (some (fields.apply item))
  | claimed {request : ClaimRequest} {taken item : QueueItem}
      (selected : plane.store.selected request = some taken) (id_eq : taken.id = queueId)
      (found : plane.items.get? queueId = some item) :
      ItemChange plane queueId (.claimNextRuntimeQueueAttempt request) (some (item.claimed request))
  | recovered {now : Text} {item : QueueItem} (found : plane.items.get? queueId = some item)
      (stale : item.stale now) :
      ItemChange plane queueId (.recoverStaleRuntimeQueueItems now) (some (item.recovered now))

theorem exec_item (plane : Plane) (op : Op) (queueId : Text) :
    ItemChange plane queueId op ((exec op plane).2.items.get? queueId) := by
  by_cases touched : op.touchesItems
  · cases op with
    | insertRuntimeQueueItem record =>
        simp only [exec, Plane.items, Plane.withStore, insertRuntimeQueueItem]
        split
        · exact .same
        · rename_i unknown
          rw [Dict.get?_set]
          split
          · rename_i id_eq
            refine .inserted id_eq.symm fun item member key_eq => ?_
            have differs := List.find?_eq_none.mp unknown item member
            simp [key_eq] at differs
          · exact .same
    | updateRuntimeQueueItem target fields =>
        simp only [exec, Plane.items, Plane.withStore, updateRuntimeQueueItem]
        split
        · exact .same
        · rename_i item found
          rw [Dict.get?_modify]
          split
          · rename_i id_eq
            subst id_eq
            rw [found]
            exact .updated found
          · exact .same
    | heartbeatRuntimeQueueItem target fields =>
        simp only [exec, Plane.items, Plane.withStore,
          heartbeatRuntimeQueueItem]
        split
        · exact .same
        · rename_i item found
          rw [Dict.get?_modify]
          split
          · rename_i id_eq
            subst id_eq
            rw [found]
            exact .refreshed found
          · exact .same
    | claimNextRuntimeQueueAttempt request =>
        simp only [exec, Plane.items, Plane.withStore,
          claimNextRuntimeQueueAttempt]
        split
        · exact .same
        · rename_i taken selected
          simp only [recordClaim]
          rw [Dict.get?_modify]
          split
          · rename_i id_eq
            change ItemChange plane queueId _ ((plane.items.get? queueId).map _)
            cases found : plane.items.get? queueId with
            | none => simpa [found] using (ItemChange.same : ItemChange plane queueId _ _)
            | some item => exact .claimed selected id_eq.symm found
          · exact .same
    | recoverStaleRuntimeQueueItems now =>
        simp only [exec, Plane.items, Plane.withStore,
          recoverStaleRuntimeQueueItems]
        rw [Dict.get?_mapValues]
        cases found : plane.store.runtimeQueueItems.get? queueId with
        | none => simpa [found] using (ItemChange.same : ItemChange plane queueId _ _)
        | some item =>
            by_cases stale : item.stale now
            · simpa [stale] using ItemChange.recovered found stale
            · have same :
                  ItemChange plane queueId (.recoverStaleRuntimeQueueItems now) (some item) :=
                found ▸ ItemChange.same
              simpa [stale] using same
    | _ => simp [Op.touchesItems] at touched
  · rw [exec_items plane (by simpa using touched)]
    exact .same

theorem exec_update_item {queueId : Text} {fields : StatusFields} {item : QueueItem}
    (found : plane.items.get? queueId = some item) :
    (exec (.updateRuntimeQueueItem queueId fields) plane).2.items.get? queueId =
      some (fields.apply item) := by
  simp only [exec, updateRuntimeQueueItem, found, Plane.withStore, Plane.items]
  rw [Dict.get?_modify_self]
  exact congrArg _ found

theorem Plane.Keyed.exec (keyed : plane.Keyed) (op : Op) : (exec op plane).2.Keyed := by
  intro queueId item found
  have change := exec_item plane op queueId
  rw [found] at change
  generalize after_eq : some item = after at change
  cases change with
  | same => exact keyed queueId item after_eq.symm
  | inserted id_eq _ =>
      cases after_eq
      exact id_eq
  | updated before =>
      cases after_eq
      simpa using keyed queueId _ before
  | refreshed before =>
      cases after_eq
      simpa using keyed queueId _ before
  | claimed _ _ before =>
      cases after_eq
      simpa using keyed queueId _ before
  | recovered before _ =>
      cases after_eq
      simpa using keyed queueId _ before

theorem Plane.Keyed.run {α : Type} (keyed : plane.Keyed) (program : Py α) :
    (program.run SkillCentric.exec plane).2.Keyed := by
  induction program generalizing plane with
  | done outcome => exact keyed
  | call op next ih => exact ih _ (keyed.exec op)

/-- The planes that operations and time lead to from an empty store. -/
inductive Plane.Reachable : Plane → Prop
  | empty (clock : Datetime) (artifacts : JsonArtifactStore) :
      Reachable ⟨clock, .empty, artifacts⟩
  | exec (op : Op) {plane : Plane} (reached : Reachable plane) :
      Reachable (SkillCentric.exec op plane).2
  | tick (clock : Datetime) {plane : Plane} (reached : Reachable plane) :
      Reachable { plane with clock }

theorem Plane.Reachable.keyed (reached : plane.Reachable) : plane.Keyed := by
  induction reached with
  | empty clock artifacts =>
      intro queueId item found
      cases found
  | exec op reached keyed => exact keyed.exec op
  | tick clock reached keyed => exact keyed

theorem Plane.Reachable.run {α : Type} (reached : plane.Reachable) (program : Py α) :
    (program.run SkillCentric.exec plane).2.Reachable := by
  induction program generalizing plane with
  | done outcome => exact reached
  | call op next ih => exact ih _ (reached.exec op)

/-- What one operation can do to the run under an identifier. -/
inductive RunChange (plane : Plane) (runId : Text) : Op → Option RuntimeRun → Prop
  | same {op : Op} : RunChange plane runId op (plane.runs.get? runId)
  | inserted {record : RuntimeRun} (id_eq : record.id = runId) :
      RunChange plane runId (.insertRuntimeRun record) (some record)
  | updated {fields : RunFields} {run : RuntimeRun} (found : plane.runs.get? runId = some run) :
      RunChange plane runId (.updateRuntimeRun runId fields) (some (fields.apply run))

theorem exec_run (plane : Plane) (op : Op) (runId : Text) :
    RunChange plane runId op ((exec op plane).2.runs.get? runId) := by
  by_cases touched : op.touchesRuns
  · cases op with
    | insertRuntimeRun record =>
        simp only [exec, Plane.runs, Plane.withStore]
        rw [Dict.get?_set]
        split
        · rename_i id_eq
          exact .inserted id_eq.symm
        · exact .same
    | updateRuntimeRun target fields =>
        simp only [exec, Plane.runs, Plane.withStore, updateRuntimeRun]
        split
        · exact .same
        · rename_i run found
          rw [Dict.get?_modify]
          split
          · rename_i id_eq
            subst id_eq
            rw [found]
            exact .updated found
          · exact .same
    | _ => simp [Op.touchesRuns] at touched
  · rw [exec_runs plane (by simpa using touched)]
    exact .same

theorem exec_insertRuntimeRun_of_absent {record run : RuntimeRun} {runId : Text}
    (absent : plane.runs.get? runId = none)
    (found : (exec (.insertRuntimeRun record) plane).2.runs.get? runId = some run) :
    run = record := by
  have change := exec_run plane (.insertRuntimeRun record) runId
  rw [found] at change
  generalize after_eq : some run = after at change
  cases change with
  | same => cases after_eq.trans absent
  | inserted _ => exact Option.some.inj after_eq

theorem exec_updateRuntimeRun_of_absent {fields : RunFields} {runId : Text}
    (absent : plane.runs.get? runId = none) :
    (exec (.updateRuntimeRun runId fields) plane).2.runs.get? runId = none := by
  have change := exec_run plane (.updateRuntimeRun runId fields) runId
  generalize (exec (.updateRuntimeRun runId fields) plane).2.runs.get? runId = after at change
  cases change with
  | same => exact absent
  | updated before => cases absent.symm.trans before

/-- What one operation can do to the attempt row under an identifier. -/
inductive AttemptChange (plane : Plane) (attemptId : Text) : Op → Option RunAttempt → Prop
  | same {op : Op} : AttemptChange plane attemptId op (plane.attempts.get? attemptId)
  | claimed {request : ClaimRequest} {taken : QueueItem}
      (selected : plane.store.selected request = some taken)
      (id_eq : (taken.bundle request).attempt.id = attemptId) :
      AttemptChange plane attemptId (.claimNextRuntimeQueueAttempt request)
        (some (taken.bundle request).attempt)
  | updated {fields : AttemptFields} {row : RunAttempt}
      (found : plane.attempts.get? attemptId = some row) :
      AttemptChange plane attemptId (.updateRuntimeRunAttempt attemptId fields)
        (some (fields.apply row))

theorem exec_attempt (plane : Plane) (op : Op) (attemptId : Text) :
    AttemptChange plane attemptId op ((exec op plane).2.attempts.get? attemptId) := by
  by_cases touched : op.touchesAttempts
  · cases op with
    | claimNextRuntimeQueueAttempt request =>
        simp only [exec, Plane.attempts, Plane.withStore,
          claimNextRuntimeQueueAttempt]
        split
        · exact .same
        · rename_i taken selected
          simp only [recordClaim]
          rw [Dict.get?_set]
          split
          · rename_i id_eq
            exact .claimed selected id_eq.symm
          · exact .same
    | updateRuntimeRunAttempt target fields =>
        simp only [exec, Plane.attempts, Plane.withStore,
          updateRuntimeRunAttempt]
        split
        · exact .same
        · rename_i row found
          rw [Dict.get?_modify]
          split
          · rename_i id_eq
            subst id_eq
            rw [found]
            exact .updated found
          · exact .same
    | _ => simp [Op.touchesAttempts] at touched
  · rw [exec_attempts plane (by simpa using touched)]
    exact .same

end Inversion

end SkillCentric
