import SkillCentric.Runtime.Sequential
import SkillCentric.Runtime.WorkerPhases

/-!
# Failure cleanup

One `process_one` with nothing beside it.  Five error classes are caught: the claim is then closed
completely.  Any other error leaves the item executing with its claim, and a success closes
everything but the claim fields of the item.
-/

namespace SkillCentric

open Contract Program RuntimeQueueManager RuntimeQueueWorker FlightRecorder

namespace FailureCleanup

/-- The body of the `try` statement. -/
def tryBody (worker : RuntimeQueueWorker) (bundle : ClaimBundle) : Py RuntimeLoopResult := do
  let (start, _) ← startClaim worker bundle
  runClaim worker bundle start

/-- What task loading, entry point, quota reservation or runtime loop raise,
or the loop's result. -/
def outcome (worker : RuntimeQueueWorker) (bundle : ClaimBundle) (plane : Plane) :
    Except PyError RuntimeLoopResult :=
  ((tryBody worker bundle).run exec plane).1

/-- An error is of a caught class, and the time of the next retry can be represented. -/
def Handled (worker : RuntimeQueueWorker) (bundle : ClaimBundle) (plane : Plane) : Prop :=
  ∀ error, outcome worker bundle plane = .error error →
    caught error = true ∧ (worker.config.retryAt bundle.queueItem.id bundle.queueItem.attempts
      plane.clock).isOk = true

/-- The loop returns with success. -/
def Succeeds (worker : RuntimeQueueWorker) (bundle : ClaimBundle) (plane : Plane) : Prop :=
  ∃ result, outcome worker bundle plane = .ok result ∧ result.cancelled = false

instance (worker : RuntimeQueueWorker) (bundle : ClaimBundle) (plane : Plane) :
    Decidable (Handled worker bundle plane) :=
  match ended : outcome worker bundle plane with
  | .error error => decidable_of_iff (caught error = true ∧ (worker.config.retryAt
      bundle.queueItem.id bundle.queueItem.attempts plane.clock).isOk = true)
      (by simp [Handled, ended])
  | .ok _ => .isTrue (by simp [Handled, ended])

instance (worker : RuntimeQueueWorker) (bundle : ClaimBundle) (plane : Plane) :
    Decidable (Succeeds worker bundle plane) :=
  match ended : outcome worker bundle plane with
  | .error _ => .isFalse (by simp [Succeeds, ended])
  | .ok result => decidable_of_iff (result.cancelled = false) (by simp [Succeeds, ended])

/-- The item shows no claim. -/
structure Unclaimed (item : QueueItem) : Prop where
  claimedBy : item.claimedBy = none
  claimedAt : item.claimedAt = none
  claimedUntil : item.claimedUntil = none
  leaseExpiresAt : item.leaseExpiresAt = none
  heartbeatAt : item.heartbeatAt = none

/-- What a claim leaves behind, the claim fields of the item apart. -/
structure Settled (claimed : Plane) (bundle : ClaimBundle) (plane : Plane) : Prop where
  item : ∃ item, plane.items.get? bundle.queueItem.id = some item ∧ item.status.executing = false
  claim : ∃ claim, plane.claims.get? bundle.claim.id = some claim ∧ claim.releasedAt.isSome
  attempt : ∃ attempt, plane.attempts.get? bundle.attempt.id = some attempt ∧
    attempt.completedAt.isSome
  run : ∀ run, plane.runs.get? bundle.attempt.runId = some run → run.status.terminal
  reservation : ∀ id reservation, plane.reservations.get? id = some reservation →
    reservation.status = .refunded ∨ claimed.reservations.get? id = some reservation ∨
      ∃ item, plane.items.get? bundle.queueItem.id = some item ∧ item.status = .succeeded

/-- What a claim leaves behind. -/
def Clean (claimed : Plane) (bundle : ClaimBundle) (plane : Plane) : Prop :=
  Settled claimed bundle plane ∧
    ∃ item, plane.items.get? bundle.queueItem.id = some item ∧ Unclaimed item

/-- While the body runs: the item executes under the claim, and the rows of the claim are there. -/
structure Working (claimed : Plane) (bundle : ClaimBundle) (plane : Plane) : Prop where
  item : ∃ item, plane.items.get? bundle.queueItem.id = some item ∧
    item.status.executing = true ∧ item.claimedBy = bundle.queueItem.claimedBy ∧
    item.attempts = bundle.queueItem.attempts ∧ item.maxAttempts = bundle.queueItem.maxAttempts
  others : ∀ other, other ≠ bundle.queueItem.id → plane.items.get? other = claimed.items.get? other
  attempt : ∃ attempt, plane.attempts.get? bundle.attempt.id = some attempt
  claim : ∃ claim, plane.claims.get? bundle.claim.id = some claim
  clock : plane.clock = claimed.clock

/-- Operations that touch no item, attempt, claim or reservation. -/
def Aside (op : Op) : Prop :=
  op.touchesItems = false ∧ op.touchesAttempts = false ∧ op.touchesClaims = false ∧
    op.touchesReservations = false

theorem aside_of_records {runId : Text} {op : Op} (records : op.RecordsFor runId) : Aside op := by
  have quiet := records.quiet
  simp only [Op.quiet, Bool.not_eq_true', Bool.or_eq_false_iff] at quiet
  exact ⟨quiet.1.1.1.1.1, quiet.1.1.1.2, quiet.1.1.2, quiet.1.2⟩

section Body

variable {α : Type} {claimed : Plane} {bundle : ClaimBundle} {plane : Plane}
  {worker : RuntimeQueueWorker} {start : RuntimeStartResult}

variable {program : Py α}

theorem yields_of_records {runId : Text} (records : program.Records runId) :
    program.Yields exec Aside fun _ => True :=
  records.mono (fun _ => aside_of_records) fun _ => id

theorem start_yields (named : bundle.attempt.runId ≠ []) {task : JsonObject}
    {context : Option JsonObject} {generation : ProfileGeneration} :
    (RuntimeEntryPoint.start worker.components task context (some bundle.attempt.runId)
      generation).Yields exec Aside fun start => start.runId = bundle.attempt.runId := by
  refine yields_seq (yields_ofExcept fun _ _ => trivial) fun prepared => ?_
  refine yields_seq (yields_op ⟨rfl, rfl, rfl, rfl⟩ fun _ => trivial) fun uri => ?_
  have started : (startRun (RuntimeEntryPoint.runStart (some bundle.attempt.runId)
      generation prepared uri
      (worker.components.profileSha256 prepared.profile.toJson))).Yields exec Aside
      fun run => run.id = bundle.attempt.runId := by
    refine yields_seq (yields_of_records (records_timestamp : Py.timestamp.Records [])) fun _ => ?_
    refine yields_seq (yields_op ⟨rfl, rfl, rfl, rfl⟩ fun _ => trivial) fun _ => ?_
    exact yields_pure (WorkerPhases.runIdentifier_runStart named)
  refine yields_bind started fun run identifier => ?_
  refine yields_seq (yields_of_records RuntimeEntryPoint.recordStart_records) fun _ => ?_
  exact yields_pure identifier

theorem run_yields {loop : MinimalRuntimeLoop} :
    (loop.run start).Yields exec Aside fun result => result.runId = start.runId := by
  refine MinimalRuntimeLoop.run_runs.mono (fun op runs => ?_) fun _ => id
  rcases runs with records | ⟨fields, rfl⟩
  · exact aside_of_records records
  · exact ⟨rfl, rfl, rfl, rfl⟩

theorem Working.aside (working : Working claimed bundle plane) {op : Op} (aside : Aside op) :
    Working claimed bundle (exec op plane).2 := by
  obtain ⟨items, attempts, claims, -⟩ := aside
  constructor
  · rw [exec_items plane items]
    exact working.item
  · rw [exec_items plane items]
    exact working.others
  · rw [exec_attempts plane attempts]
    exact working.attempt
  · rw [exec_claims plane claims]
    exact working.claim
  · rw [exec_clock]
    exact working.clock

theorem Working.markRunning (working : Working claimed bundle plane) {fields : StatusFields}
    (status : fields.status = .running) (kept : fields.clearClaim = false) :
    Working claimed bundle (exec (.updateRuntimeQueueItem bundle.queueItem.id fields) plane).2 := by
  obtain ⟨item, found, -, claimedBy, attempts, maxAttempts⟩ := working.item
  constructor
  · refine ⟨fields.apply item, exec_update_item found, ?_, ?_, ?_, ?_⟩
    · rw [StatusFields.apply_status, status]
      rfl
    · rw [StatusFields.apply_claimedBy, kept]
      exact claimedBy
    · rw [StatusFields.apply_attempts, attempts]
    · rw [StatusFields.apply_maxAttempts, maxAttempts]
  · intro other differ
    rw [← working.others other differ]
    have change := exec_item plane (.updateRuntimeQueueItem bundle.queueItem.id fields) other
    generalize (exec _ plane).2.items.get? other = after at change
    cases change with
    | same => rfl
    | updated _ => exact (differ rfl).elim
  · rw [exec_attempts plane rfl]
    exact working.attempt
  · rw [exec_claims plane rfl]
    exact working.claim
  · rw [exec_clock]
    exact working.clock

theorem exec_heartbeat_claims {queueId : Text} {fields : HeartbeatFields} {claimId : Text}
    (found : ∃ claim, plane.claims.get? claimId = some claim) :
    ∃ claim, (exec (.heartbeatRuntimeQueueItem queueId fields) plane).2.claims.get? claimId =
      some claim := by
  obtain ⟨claim, found⟩ := found
  simp only [exec, InMemoryRuntimeStore.heartbeatRuntimeQueueItem, Plane.claims, Plane.withStore]
  split
  · exact ⟨claim, found⟩
  · split
    · exact ⟨claim, found⟩
    · rw [Dict.get?_modify]
      split
      · exact ⟨_, congrArg _ found⟩
      · exact ⟨claim, found⟩

theorem Working.heartbeat (working : Working claimed bundle plane) {fields : HeartbeatFields} :
    Working claimed bundle
      (exec (.heartbeatRuntimeQueueItem bundle.queueItem.id fields) plane).2 := by
  obtain ⟨item, found, executing, claimedBy, attempts, maxAttempts⟩ := working.item
  constructor
  · have change := exec_item plane (.heartbeatRuntimeQueueItem bundle.queueItem.id fields)
      bundle.queueItem.id
    generalize (exec _ plane).2.items.get? bundle.queueItem.id = after at change
    cases change with
    | same => exact ⟨item, found, executing, claimedBy, attempts, maxAttempts⟩
    | refreshed before =>
        rw [found] at before
        cases before
        exact ⟨_, rfl, executing, claimedBy, attempts, maxAttempts⟩
  · intro other differ
    rw [← working.others other differ]
    have change := exec_item plane (.heartbeatRuntimeQueueItem bundle.queueItem.id fields) other
    generalize (exec _ plane).2.items.get? other = after at change
    cases change with
    | same => rfl
    | refreshed _ => exact (differ rfl).elim
  · rw [exec_attempts plane rfl]
    exact working.attempt
  · exact exec_heartbeat_claims working.claim
  · rw [exec_clock]
    exact working.clock

theorem Working.recordProfile (working : Working claimed bundle plane) {fields : AttemptFields} :
    Working claimed bundle (exec (.updateRuntimeRunAttempt bundle.attempt.id fields) plane).2 := by
  constructor
  · rw [exec_items plane rfl]
    exact working.item
  · rw [exec_items plane rfl]
    exact working.others
  · obtain ⟨attempt, found⟩ := working.attempt
    have change := exec_attempt plane (.updateRuntimeRunAttempt bundle.attempt.id fields)
      bundle.attempt.id
    generalize (exec _ plane).2.attempts.get? bundle.attempt.id = after at change
    cases change with
    | same => exact ⟨attempt, found⟩
    | updated _ => exact ⟨_, rfl⟩
  · rw [exec_claims plane rfl]
    exact working.claim
  · rw [exec_clock]
    exact working.clock

/-- The claimed rows are at work and the reservations as given. -/
def Steady (claimed : Plane) (bundle : ClaimBundle) (reservations : Dict Text QuotaReservation)
    (plane : Plane) : Prop :=
  Working claimed bundle plane ∧ plane.reservations = reservations

variable {reservations : Dict Text QuotaReservation} {redact : Json → Json}

theorem yields_triple {returned : α → Prop} (yields : program.Yields exec Aside returned) :
    (alone Op Plane).Triple exec (Steady claimed bundle reservations) program
      (fun value plane => returned value ∧ Steady claimed bundle reservations plane)
      (fun _ => Steady claimed bundle reservations) := by
  refine triple_of_yields yields (stable_alone _) fun op _ plane aside steady _ => ?_
  refine ⟨trivial, steady.1.aside aside, ?_⟩
  rw [Plane.reservations, exec_reservations plane aside.2.2.2]
  exact steady.2

theorem records_triple {runId : Text} (records : program.Records runId) :
    (alone Op Plane).Triple exec (Steady claimed bundle reservations) program
      (fun _ => Steady claimed bundle reservations)
      (fun _ => Steady claimed bundle reservations) :=
  (yields_triple (yields_of_records records)).conseq (fun _ => id) (fun _ _ post => post.2)
    fun _ _ => id

theorem call_triple {op : Op} (untouched : op.touchesReservations = false)
    (keeps : ∀ plane, Working claimed bundle plane → Working claimed bundle (exec op plane).2)
    {raised : PyError → Plane → Prop} :
    (alone Op Plane).Triple exec (Steady claimed bundle reservations) (Py.call op)
      (fun _ => Steady claimed bundle reservations) raised := by
  refine triple_op (stable_alone _) fun _ plane steady _ => ?_
  refine ⟨trivial, keeps plane steady.1, ?_⟩
  rw [Plane.reservations, exec_reservations plane untouched]
  exact steady.2

theorem markRunning_triple {runId attemptId : Text} :
    (alone Op Plane).Triple exec (Steady claimed bundle reservations)
      (RuntimeQueueManager.markRunning bundle.queueItem.id runId attemptId)
      (fun _ => Steady claimed bundle reservations)
      (fun _ => Steady claimed bundle reservations) := by
  refine triple_bind (records_triple (records_timestamp : Py.timestamp.Records [])) fun _ => ?_
  refine triple_bind (call_triple rfl fun _ working => working.markRunning rfl rfl) fun _ => ?_
  refine triple_bind WorkerPhases.lift_triple fun _ => ?_
  exact triple_pure fun _ => id

theorem heartbeat_triple {config : RuntimeQueueConfig} :
    (alone Op Plane).Triple exec (Steady claimed bundle reservations)
      (RuntimeQueueManager.heartbeat config bundle.queueItem.id)
      (fun _ => Steady claimed bundle reservations)
      (fun _ => Steady claimed bundle reservations) := by
  refine triple_bind (call_triple rfl fun _ working => working.aside ⟨rfl, rfl, rfl, rfl⟩)
    fun now => ?_
  refine triple_bind (call_triple rfl fun _ working => working.heartbeat) fun _ => ?_
  refine triple_bind WorkerPhases.lift_triple fun _ => ?_
  exact triple_pure fun _ => id

theorem recordEvent_triple {event : EventRequest} (unstopped : event.stopReason = none) :
    (alone Op Plane).Triple exec (Steady claimed bundle reservations)
      (recordEvent redact event)
      (fun _ => Steady claimed bundle reservations) (fun _ _ => False) := by
  have step : ∀ {op : Op}, Aside op → (alone Op Plane).Triple exec
      (Steady claimed bundle reservations) (Py.call op)
      (fun _ => Steady claimed bundle reservations) (fun _ _ => False) :=
    fun aside => call_triple aside.2.2.2 fun _ working => working.aside aside
  have written : ∀ parts payload, (alone Op Plane).Triple exec
      (Steady claimed bundle reservations) (writeEventPayload redact parts payload)
      (fun _ => Steady claimed bundle reservations) (fun _ _ => False) := by
    intro parts payload
    cases payload with
    | none => exact triple_pure fun _ => id
    | some payload =>
        exact triple_bind (step ⟨rfl, rfl, rfl, rfl⟩) fun _ => triple_pure fun _ => id
  unfold recordEvent
  rw [unstopped]
  refine triple_bind (triple_ofExcept (fun _ _ _ => id) fun _ _ raised => by cases raised)
    fun _ => ?_
  refine triple_bind (step ⟨rfl, rfl, rfl, rfl⟩) fun index => ?_
  refine triple_bind (written _ _) fun _ => ?_
  refine triple_bind (written _ _) fun _ => ?_
  refine triple_bind (written _ _) fun _ => ?_
  refine triple_bind ?_ fun _ => step ⟨rfl, rfl, rfl, rfl⟩
  exact triple_bind (step ⟨rfl, rfl, rfl, rfl⟩) fun _ => triple_pure fun _ => id

theorem reserve_triple {config : RuntimeQuotaConfig} {request : ReserveRequest} :
    (alone Op Plane).Triple exec (Steady claimed bundle reservations)
      (RuntimeQuotaManager.reserve redact config request)
      (fun reservation => Steady claimed bundle (reservations.set reservation.id reservation))
      (fun _ => Steady claimed bundle reservations) := by
  refine triple_bind (records_triple
    (RuntimeQuotaManager.quotaWindow_records : RuntimeQuotaManager.quotaWindow.Records []))
    fun window => ?_
  refine triple_bind (records_triple RuntimeQuotaManager.assertWithinLimit_records) fun _ => ?_
  refine triple_bind (records_triple RuntimeQuotaManager.assertWithinLimit_records) fun _ => ?_
  refine triple_bind (records_triple (records_timestamp : Py.timestamp.Records []))
    fun createdAt => ?_
  have inserted : ∀ reservation : QuotaReservation,
      (alone Op Plane).Triple exec (Steady claimed bundle reservations)
        (Py.call (.insertRuntimeQuotaReservation reservation))
        (fun _ => Steady claimed bundle (reservations.set reservation.id reservation))
        (fun _ => Steady claimed bundle reservations) := by
    intro reservation
    refine triple_op (stable_alone _) fun _ plane steady _ => ?_
    refine ⟨trivial, ?_, ?_⟩
    · exact { steady.1 with }
    · rw [← steady.2]
      rfl
  refine triple_bind (inserted _) fun _ => ?_
  refine triple_bind ((recordEvent_triple rfl).raising fun _ _ => False.elim) fun _ => ?_
  exact triple_pure fun _ => id

theorem startClaim_triple (worker : RuntimeQueueWorker) (named : bundle.attempt.runId ≠ []) :
    (alone Op Plane).Triple exec (Steady claimed bundle reservations) (startClaim worker bundle)
      (fun result plane => result.1.runId = bundle.attempt.runId ∧
        Steady claimed bundle (reservations.set result.2.id result.2) plane)
      (fun _ => Steady claimed bundle reservations) := by
  refine triple_bind (records_triple (loadTask_records : (loadTask bundle.queueItem).Records []))
    fun task => ?_
  refine triple_bind (records_triple (loadCompositionContext_records :
    (loadCompositionContext bundle.queueItem).Records [])) fun context => ?_
  refine triple_bind (yields_triple (start_yields named)) fun start => ?_
  refine triple_of_fact fun identifier => ?_
  refine triple_bind markRunning_triple fun _ => ?_
  have recorded : (alone Op Plane).Triple exec (Steady claimed bundle reservations)
      (RuntimeQueueWorker.recordProfile bundle start)
      (fun _ => Steady claimed bundle reservations)
      (fun _ => Steady claimed bundle reservations) :=
    triple_bind (call_triple rfl fun _ working => working.recordProfile) fun _ =>
      WorkerPhases.lift_triple
  refine triple_bind recorded fun _ => ?_
  refine triple_bind reserve_triple fun reservation => ?_
  exact triple_pure fun _ steady => ⟨identifier, steady⟩

theorem runClaim_triple (worker : RuntimeQueueWorker) (start : RuntimeStartResult) :
    (alone Op Plane).Triple exec (Steady claimed bundle reservations)
      (runClaim worker bundle start)
      (fun result plane => result.runId = start.runId ∧ Steady claimed bundle reservations plane)
      (fun _ => Steady claimed bundle reservations) :=
  triple_bind heartbeat_triple fun _ => yields_triple run_yields

/-- The run, if there is one, has ended. -/
def RunEnded (runId : Text) (plane : Plane) : Prop :=
  ∀ run, plane.runs.get? runId = some run → run.status.terminal

theorem exec_updateRun_ends (plane : Plane) (runId : Text) {fields : RunFields}
    (terminal : fields.status.terminal) :
    RunEnded runId (exec (.updateRuntimeRun runId fields) plane).2 := by
  intro run stored
  cases found : plane.runs.get? runId with
  | none =>
      simp only [exec, InMemoryRuntimeStore.updateRuntimeRun, found, Plane.runs, Plane.withStore]
        at stored
      cases stored
  | some before =>
      rw [run_updateRun plane found] at stored
      have applied : some (fields.apply before) = some run := by
        rw [← stored]
        exact ((Dict.get?_modify_self _ _ _).trans (congrArg _ found)).symm
      rw [← Option.some.inj applied]
      exact terminal

theorem endRun_ends {event : EventRequest} {status : RuntimeStatus} (terminal : status.terminal)
    {runId stopReason : Text} {tokens : Int} {value : α} :
    (alone Op Plane).Triple exec (fun _ => True)
      (do
        let _ ← recordEvent redact event
        completeRun runId status stopReason tokens
        return value : Py α)
      (fun _ => RunEnded runId) (fun _ _ => True) := by
  refine triple_bind (triple_alone_trivial _ _) fun _ => ?_
  have completed : (alone Op Plane).Triple exec (fun _ => True)
      (completeRun runId status stopReason tokens)
      (fun _ => RunEnded runId) (fun _ _ => True) := by
    refine triple_bind (triple_alone_trivial _ _) fun _ => ?_
    refine triple_bind (triple_alone_trivial _ _) fun completedAt => ?_
    have written : (alone Op Plane).Triple exec (fun _ => True)
        (Py.call (.updateRuntimeRun runId
          { status, completedAt, stopReason := some stopReason, tokensUsedTotal := some tokens }))
        (fun _ => RunEnded runId) (fun _ _ => True) := by
      exact triple_op (stable_alone _) fun _ plane _ _ =>
        ⟨trivial, exec_updateRun_ends plane runId terminal⟩
    exact triple_bind written fun _ => WorkerPhases.lift_triple.raising fun _ _ _ => trivial
  refine triple_bind completed fun _ => ?_
  exact triple_pure fun _ => id

theorem run_ends {loop : MinimalRuntimeLoop} :
    (alone Op Plane).Triple exec (fun _ => True) (loop.run start)
      (fun _ => RunEnded start.runId) (fun _ _ => True) := by
  refine triple_bind (triple_alone_trivial _ _) fun _ => ?_
  refine triple_bind (triple_alone_trivial _ _) fun outcome => ?_
  cases outcome with
  | ok result => exact endRun_ends rfl
  | error error =>
      dsimp only
      split
      · exact endRun_ends rfl
      · split
        · exact triple_bind (triple_alone_trivial _ _) fun _ => triple_throw fun _ _ => trivial
        · exact triple_throw fun _ _ => trivial

theorem runClaim_ends (worker : RuntimeQueueWorker) (bundle : ClaimBundle)
    (start : RuntimeStartResult) :
    (alone Op Plane).Triple exec (fun _ => True) (runClaim worker bundle start)
      (fun _ => RunEnded start.runId) (fun _ _ => True) :=
  triple_bind (triple_alone_trivial _ _) fun _ => run_ends

end Body

section Ends

variable {claimed plane after : Plane} {bundle : ClaimBundle} {worker : RuntimeQueueWorker}
  {item : QueueItem} {reservation : Option QuotaReservation} {stopReason : Option Text}
  {runId : Text} {error : PyError}

def reservedWith (reservations : Dict Text QuotaReservation) :
    Option QuotaReservation → Dict Text QuotaReservation
  | none => reservations
  | some reservation => reservations.set reservation.id reservation

def refunded (reservations : Dict Text QuotaReservation) (now : Text) :
    Option QuotaReservation → Dict Text QuotaReservation
  | none => reservations
  | some reservation => reservations.modify reservation.id (·.settled .refunded now)

theorem run_refundReservation {reservations : Dict Text QuotaReservation}
    (made : plane.reservations = reservedWith reservations reservation) :
    (refundReservation reservation).run exec plane = (.ok (), plane.setReservations
      (refunded plane.reservations (isoTimestamp plane.clock) reservation)) := by
  cases reservation with
  | none => rfl
  | some reservation =>
      have found : plane.reservations.get? reservation.id = some reservation := by
        rw [made]
        exact Dict.get?_set_self _ _ _
      exact RuntimeQuotaManager.run_settle plane found

theorem refunded_reservedWith {reservations : Dict Text QuotaReservation} {now id : Text}
    {left : QuotaReservation}
    (found : (refunded (reservedWith reservations reservation) now reservation).get? id =
      some left) :
    left.status = .refunded ∨ reservations.get? id = some left := by
  cases reservation with
  | none => exact .inr found
  | some made =>
      rw [refunded, reservedWith, Dict.get?_modify] at found
      split at found
      · rw [Option.map_eq_some_iff] at found
        obtain ⟨before, -, rfl⟩ := found
        exact .inl rfl
      · rename_i differ
        rw [Dict.get?_set_ne _ _ differ] at found
        exact .inr found

/-- The rows of a claim after its end is written to them. -/
structure Closed (before : Plane) (bundle : ClaimBundle) (after : Plane) : Prop where
  items : after.items = before.items
  runs : after.runs = before.runs
  attempt : ∃ attempt, after.attempts.get? bundle.attempt.id = some attempt ∧
    attempt.completedAt.isSome
  claim : ∃ claim, after.claims.get? bundle.claim.id = some claim ∧ claim.releasedAt.isSome

theorem run_closeRows (stopReason : Option Text)
    (found : plane.items.get? bundle.queueItem.id = some item)
    (attempted : ∃ attempt, plane.attempts.get? bundle.attempt.id = some attempt)
    (rowed : ∃ claim, plane.claims.get? bundle.claim.id = some claim) :
    ∃ middle after, (closeAttempt bundle stopReason).run exec plane = (.ok (), middle) ∧
      (closeClaim bundle).run exec middle = (.ok (), after) ∧ Closed plane bundle after ∧
      after.reservations = plane.reservations ∧ after.clock = plane.clock := by
  obtain ⟨attempt, attempted⟩ := attempted
  obtain ⟨claim, rowed⟩ := rowed
  refine ⟨_, _, run_closeAttempt plane found attempted, run_closeClaim _ found rowed, ?_, rfl, rfl⟩
  constructor
  · rfl
  · rfl
  · refine ⟨_, (Dict.get?_modify_self _ _ _).trans (congrArg _ attempted), ?_⟩
    rfl
  · refine ⟨_, (Dict.get?_modify_self _ _ _).trans (congrArg _ rowed), ?_⟩
    rfl

theorem run_close (stopReason : Option Text) (runId : Text)
    {reservations : Dict Text QuotaReservation}
    (found : plane.items.get? bundle.queueItem.id = some item)
    (attempted : ∃ attempt, plane.attempts.get? bundle.attempt.id = some attempt)
    (rowed : ∃ claim, plane.claims.get? bundle.claim.id = some claim)
    (made : plane.reservations = reservedWith reservations reservation) :
    ∃ result after, (do
        closeAttempt bundle stopReason
        closeClaim bundle
        refundReservation reservation
        report bundle runId stopReason : Py RuntimeQueueProcessResult).run exec plane =
          (.ok result, after) ∧ Closed plane bundle after ∧
      ∀ id left, after.reservations.get? id = some left →
        left.status = .refunded ∨ reservations.get? id = some left := by
  obtain ⟨middle, after, ran, ran_claim, closed, same, -⟩ :=
    run_closeRows stopReason found attempted rowed
  have still : after.reservations = reservedWith reservations reservation := same.trans made
  have reported : after.items.get? bundle.queueItem.id = some item := by
    rw [closed.items]
    exact found
  refine ⟨⟨bundle.queueItem.id, item.status, runId, stopReason, bundle.attempt.id⟩,
    after.setReservations (refunded after.reservations (isoTimestamp after.clock) reservation), ?_,
    ⟨closed.items, closed.runs, closed.attempt, closed.claim⟩, ?_⟩
  · simp only [run_bind, ran, ran_claim, run_refundReservation still]
    exact run_report _ reported
  · intro id left stored
    have refunds : (refunded (reservedWith reservations reservation) (isoTimestamp after.clock)
        reservation).get? id = some left := by
      rw [← still]
      exact stored
    exact refunded_reservedWith refunds

theorem unclaimed_apply {fields : StatusFields} (cleared : fields.clearClaim = true) :
    Unclaimed (fields.apply item) := by
  constructor <;> simp [StatusFields.apply, cleared, QueueItem.clearClaim]

theorem clean_of_closed (closed : Closed plane bundle after)
    (found : plane.items.get? bundle.queueItem.id = some item)
    (idle : item.status.executing = false) (unclaimed : Unclaimed item)
    (ended : ∀ run, plane.runs.get? bundle.attempt.runId = some run → run.status.terminal)
    (refunds : ∀ id left, after.reservations.get? id = some left →
      left.status = .refunded ∨ claimed.reservations.get? id = some left) :
    Clean claimed bundle after := by
  have stored : after.items.get? bundle.queueItem.id = some item := by
    rw [closed.items]
    exact found
  refine ⟨⟨⟨item, stored, idle⟩, closed.claim, closed.attempt, ?_, ?_⟩, item, stored, unclaimed⟩
  · rw [closed.runs]
    exact ended
  · intro id left kept
    rcases refunds id left kept with refunded | old
    · exact .inl refunded
    · exact .inr (.inl old)

/-- Every other item is as it was. -/
def OthersKept (claimed : Plane) (bundle : ClaimBundle) (after : Plane) : Prop :=
  ∀ other, other ≠ bundle.queueItem.id → after.items.get? other = claimed.items.get? other

theorem othersKept_of_modify (working : Working claimed bundle plane) {f : QueueItem → QueueItem}
    (items : after.items = plane.items.modify bundle.queueItem.id f) :
    OthersKept claimed bundle after := by
  intro other differ
  rw [items, ← working.others other differ]
  exact Dict.get?_modify_ne _ _ differ

/-- The item has the status of a failure and its attempts. -/
def Failed (bundle : ClaimBundle) (after : Plane) : Prop :=
  ∃ item, after.items.get? bundle.queueItem.id = some item ∧
    item.status = failureStatus bundle.queueItem ∧ item.attempts = bundle.queueItem.attempts ∧
    item.maxAttempts = bundle.queueItem.maxAttempts

theorem failureStatus_not_executing : (failureStatus item).executing = false := by
  unfold failureStatus
  split <;> rfl

theorem run_handleFailure
    (steady : Steady claimed bundle (reservedWith claimed.reservations reservation) plane)
    {retryAt : Datetime}
    (time : worker.config.retryAt bundle.queueItem.id bundle.queueItem.attempts claimed.clock =
      .ok retryAt) :
    ∃ result after, (handleFailure worker bundle reservation error).run exec plane =
      (.ok result, after) ∧ Clean claimed bundle after ∧ OthersKept claimed bundle after ∧
      Failed bundle after := by
  obtain ⟨working, made⟩ := steady
  obtain ⟨item, found, -, -, attempts, maxAttempts⟩ := working.item
  rw [← working.clock] at time
  let unrun := plane.setRuns (endedRuns plane.runs bundle.attempt.runId
    (failedRun error (isoTimestamp plane.clock)))
  have marked := run_markFailedOrRetry unrun error (some bundle.attempt.runId) found time
  generalize fields_eq : failureFields bundle.queueItem error (some bundle.attempt.runId)
    (isoTimestamp retryAt) (isoTimestamp unrun.clock) = fields at marked
  have cleared : fields.clearClaim = true := by rw [← fields_eq]; rfl
  have status : fields.status = failureStatus bundle.queueItem := by rw [← fields_eq]; rfl
  let failed :=
    (unrun.setItems (unrun.items.modify bundle.queueItem.id fields.apply)).setDeadLetters
    (lettersAfter unrun bundle.queueItem error (some bundle.attempt.runId))
  have stored : failed.items.get? bundle.queueItem.id = some (fields.apply item) :=
    (Dict.get?_modify_self _ _ _).trans (congrArg _ found)
  have idle : (fields.apply item).status.executing = false := by
    rw [StatusFields.apply_status, status]
    exact failureStatus_not_executing
  obtain ⟨result, after, closing, closed, refunds⟩ :=
    run_close (error.stopReasonOr "runtime_error") bundle.attempt.runId stored working.attempt
      working.claim made
  refine ⟨result, after, ?_, ?_, ?_, ?_⟩
  · rw [handleFailure, run_bind, run_failOpenRun]
    dsimp only
    rw [run_bind, marked]
    exact closing
  · exact clean_of_closed closed stored idle (unclaimed_apply cleared)
      (fun run stored_run => endedRuns_terminal rfl stored_run) refunds
  · exact othersKept_of_modify working closed.items
  · refine ⟨fields.apply item, by rw [closed.items]; exact stored, ?_, ?_, ?_⟩
    · rw [StatusFields.apply_status, status]
    · rw [StatusFields.apply_attempts, attempts]
    · rw [StatusFields.apply_maxAttempts, maxAttempts]

theorem run_handleFailure_of_error
    (steady : Steady claimed bundle (reservedWith claimed.reservations reservation) plane)
    {raised : PyError}
    (time : worker.config.retryAt bundle.queueItem.id bundle.queueItem.attempts claimed.clock =
      .error raised) :
    ((handleFailure worker bundle reservation error).run exec plane).2.items = plane.items := by
  rw [← steady.1.clock] at time
  have marked := run_markFailedOrRetry_of_error (plane.setRuns (endedRuns plane.runs
    bundle.attempt.runId (failedRun error (isoTimestamp plane.clock)))) error
    (some bundle.attempt.runId) time
  simp only [handleFailure, run_bind, run_failOpenRun]
  rw [marked]
  rfl

theorem run_finishCancelled {made : QuotaReservation} {result : RuntimeLoopResult}
    (steady : Steady claimed bundle (reservedWith claimed.reservations (some made)) plane)
    (owner : result.runId = bundle.attempt.runId) (named : bundle.attempt.runId ≠ []) :
    ∃ report after, (finishCancelled bundle made result).run exec plane = (.ok report, after) ∧
      Clean claimed bundle after ∧ OthersKept claimed bundle after := by
  obtain ⟨working, reserved⟩ := steady
  obtain ⟨item, found, executing, -⟩ := working.item
  have marked := run_markCancelled plane found executing named
  generalize fields_eq : cancelledFields (isoTimestamp plane.clock) bundle.attempt.runId = fields
    at marked
  have cleared : fields.clearClaim = true := by rw [← fields_eq]; rfl
  have status : fields.status = .cancelled := by rw [← fields_eq]; rfl
  let cancelled := ((plane.setItems (plane.items.modify bundle.queueItem.id fields.apply)).setClaims
    (releasedClaims plane.claims bundle.queueItem.id (isoTimestamp plane.clock)
      "cancelled")).setRuns
      (endedRuns plane.runs bundle.attempt.runId (cancelledRun (isoTimestamp plane.clock)))
  have stored : cancelled.items.get? bundle.queueItem.id = some (fields.apply item) :=
    (Dict.get?_modify_self _ _ _).trans (congrArg _ found)
  have rowed : ∃ claim, cancelled.claims.get? bundle.claim.id = some claim := by
    obtain ⟨claim, rowed⟩ := working.claim
    exact ⟨_, (Dict.get?_mapValues _ _ _).trans (congrArg _ rowed)⟩
  obtain ⟨report, after, closing, closed, refunds⟩ :=
    run_close (some result.stopReason) bundle.attempt.runId stored working.attempt rowed reserved
  refine ⟨report, after, ?_, ?_, othersKept_of_modify working closed.items⟩
  · unfold finishCancelled
    rw [owner, run_bind, marked]
    exact closing
  · refine clean_of_closed closed stored ?_ (unclaimed_apply cleared)
      (fun run stored_run => endedRuns_terminal rfl stored_run) refunds
    rw [StatusFields.apply_status, status]
    rfl

theorem run_finishSucceeded {made : QuotaReservation} {result : RuntimeLoopResult}
    (steady : Steady claimed bundle (reservedWith claimed.reservations (some made)) plane) :
    ∃ report after, (finishSucceeded bundle made result).run exec plane = (.ok report, after) ∧
      after.runs = plane.runs ∧ Closed after bundle after ∧ OthersKept claimed bundle after ∧
      ∃ item, after.items.get? bundle.queueItem.id = some item ∧ item.status = .succeeded ∧
        item.claimedBy = bundle.queueItem.claimedBy := by
  obtain ⟨working, reserved⟩ := steady
  obtain ⟨item, found, -, claimedBy, -⟩ := working.item
  let fields (updatedAt : Text) : StatusFields :=
    { status := .succeeded, updatedAt, runId := some result.runId, lastError := some none }
  have marked : (markSucceeded bundle.queueItem.id result.runId).run exec plane = _ :=
    run_updateStatus plane found fields
  let succeeded := plane.setItems
    (plane.items.modify bundle.queueItem.id (fields (isoTimestamp plane.clock)).apply)
  have reserved_row : succeeded.reservations.get? made.id = some made := by
    change plane.reservations.get? made.id = some made
    rw [reserved]
    exact Dict.get?_set_self _ _ _
  have finalized : (RuntimeQuotaManager.finalize made.id).run exec succeeded = _ :=
    RuntimeQuotaManager.run_settle succeeded reserved_row
  let settled := succeeded.setReservations (succeeded.reservations.modify made.id
    (·.settled .finalized (isoTimestamp succeeded.clock)))
  have stored : settled.items.get? bundle.queueItem.id =
      some ((fields (isoTimestamp plane.clock)).apply item) :=
    (Dict.get?_modify_self _ _ _).trans (congrArg _ found)
  obtain ⟨middle, after, ran, ran_claim, closed, -, -⟩ :=
    run_closeRows (some result.stopReason) stored working.attempt working.claim
  have reported : after.items.get? bundle.queueItem.id =
      some ((fields (isoTimestamp plane.clock)).apply item) := by
    rw [closed.items]
    exact stored
  refine ⟨⟨bundle.queueItem.id, .succeeded, result.runId, some result.stopReason,
    bundle.attempt.id⟩, after, ?_, closed.runs, ⟨rfl, rfl, closed.attempt, closed.claim⟩,
    othersKept_of_modify working closed.items, _, reported, ?_, ?_⟩
  · unfold finishSucceeded
    rw [run_bind, marked]
    dsimp only
    rw [run_bind, finalized]
    dsimp only
    rw [run_bind, ran]
    dsimp only
    rw [run_bind, ran_claim]
    dsimp only
    rw [run_report after reported, StatusFields.apply_status]
  · rw [StatusFields.apply_status]
  · rw [StatusFields.apply_claimedBy]
    exact claimedBy

theorem not_settled_of_executing (found : plane.items.get? bundle.queueItem.id = some item)
    (executing : item.status.executing = true) : ¬Settled claimed bundle plane := by
  intro settled
  obtain ⟨other, found_other, idle⟩ := settled.item
  rw [found] at found_other
  cases found_other
  rw [executing] at idle
  cases idle

theorem run_handleError
    (steady : Steady claimed bundle (reservedWith claimed.reservations reservation) plane) :
    if caught error = true ∧ (worker.config.retryAt bundle.queueItem.id bundle.queueItem.attempts
        claimed.clock).isOk = true then
      ∃ result after, (handleError worker bundle reservation error).run exec plane =
        (.ok result, after) ∧ Clean claimed bundle after ∧ OthersKept claimed bundle after ∧
        Failed bundle after
    else
      ¬Settled claimed bundle ((handleError worker bundle reservation error).run exec plane).2 := by
  obtain ⟨item, found, executing, -⟩ := steady.1.item
  unfold handleError
  by_cases catches : caught error = true
  · rw [if_pos catches]
    cases time : worker.config.retryAt bundle.queueItem.id bundle.queueItem.attempts
        claimed.clock with
    | ok retryAt =>
        rw [if_pos ⟨catches, rfl⟩]
        exact run_handleFailure steady time
    | error raised =>
        rw [if_neg (by simp [Except.isOk, Except.toBool])]
        refine not_settled_of_executing ?_ executing
        rw [run_handleFailure_of_error steady time]
        exact found
  · rw [if_neg catches, if_neg fun handled => catches handled.1]
    exact not_settled_of_executing found executing

end Ends

section Claim

variable {claimed plane : Plane} {bundle : ClaimBundle} {worker : RuntimeQueueWorker}

theorem settled_of_succeeded {after : Plane} {item : QueueItem} (closed : Closed after bundle after)
    (ended : RunEnded bundle.attempt.runId after)
    (found : after.items.get? bundle.queueItem.id = some item)
    (succeeded : item.status = .succeeded) :
    Settled claimed bundle after where
  item := ⟨item, found, by rw [succeeded]; rfl⟩
  claim := closed.claim
  attempt := closed.attempt
  run := ended
  reservation _ _ _ := .inr (.inr ⟨item, found, succeeded⟩)

theorem run_processClaim (worker : RuntimeQueueWorker) (working : Working claimed bundle claimed)
    (named : bundle.attempt.runId ≠ []) (held : bundle.queueItem.claimedBy ≠ none) :
    match outcome worker bundle claimed with
    | .error error =>
        if caught error = true ∧ (worker.config.retryAt bundle.queueItem.id
            bundle.queueItem.attempts claimed.clock).isOk = true then
          ∃ result after, (processClaim worker bundle).run exec claimed = (.ok result, after) ∧
            Clean claimed bundle after ∧ OthersKept claimed bundle after ∧ Failed bundle after
        else ¬Settled claimed bundle ((processClaim worker bundle).run exec claimed).2
    | .ok result =>
        ∃ report after, (processClaim worker bundle).run exec claimed = (.ok report, after) ∧
          Settled claimed bundle after ∧ OthersKept claimed bundle after ∧
          (Clean claimed bundle after ↔ result.cancelled = true) := by
  have started := (startClaim_triple worker named).run_alone
    (⟨working, rfl⟩ : Steady claimed bundle claimed.reservations claimed)
  unfold outcome tryBody processClaim
  simp only [run_bind, run_attempt]
  generalize ran : (startClaim worker bundle).run exec claimed = start_run at started
  obtain ⟨start_outcome, started_plane⟩ := start_run
  cases start_outcome with
  | error error => exact run_handleError started
  | ok value =>
      obtain ⟨start, reservation⟩ := value
      obtain ⟨owner, steady⟩ := started
      have looped := (runClaim_triple worker start).run_alone steady
      have ends := ((runClaim_ends worker bundle start).conseq
        (fun _ _ => trivial) (fun _ _ => id) fun _ _ => id).run_alone steady
      simp only [processReserved, run_bind, run_attempt]
      generalize ran_claim : (runClaim worker bundle start).run exec started_plane = loop_run
        at looped ends
      obtain ⟨loop_outcome, looped_plane⟩ := loop_run
      cases loop_outcome with
      | error error =>
          exact run_handleError (looped : Steady claimed bundle
            (reservedWith claimed.reservations (some reservation)) looped_plane)
      | ok result =>
          obtain ⟨result_owner, steady⟩ := looped
          rw [owner] at result_owner ends
          dsimp only
          cases cancelled : result.cancelled with
          | true =>
              rw [if_pos rfl]
              obtain ⟨report, after, finished, clean, others⟩ :=
                run_finishCancelled steady result_owner named
              exact ⟨report, after, finished, clean.1, others, by simp [clean]⟩
          | false =>
              rw [if_neg (by simp)]
              obtain ⟨report, after, finished, runs, closed, others, item, found, succeeded,
                claimedBy⟩ := run_finishSucceeded steady
              have ended : RunEnded bundle.attempt.runId after := by
                unfold RunEnded
                rw [runs]
                exact ends
              refine ⟨report, after, finished, settled_of_succeeded closed ended found succeeded,
                others, ?_⟩
              simp only [Bool.false_eq_true, iff_false]
              rintro ⟨-, other, found_other, unclaimed⟩
              rw [found] at found_other
              cases found_other
              rw [← claimedBy] at held
              exact held unclaimed.claimedBy

theorem claimed_working (keyed : plane.Keyed)
    (claims : (claimNextAttempt worker.config worker.workerId).run exec plane =
      (.ok (some bundle), claimed)) :
    Working claimed bundle claimed ∧ bundle.attempt.runId ≠ [] ∧
      bundle.queueItem.claimedBy ≠ none ∧ claimed.clock = plane.clock ∧
      ∃ item, plane.items.get? bundle.queueItem.id = some item ∧ item.status.claimable ∧
        bundle.queueItem.attempts = item.attempts + 1 ∧
        bundle.queueItem.maxAttempts = item.maxAttempts ∧
        ∀ other,
          other ≠ bundle.queueItem.id → claimed.items.get? other = plane.items.get? other := by
  obtain ⟨item, taken, rfl, rfl⟩ := run_claimNextAttempt plane claims
  have named := item.bundle_named (claimRequest worker.config worker.workerId plane.clock)
  have found := keyed.selected taken
  have claimable := (InMemoryRuntimeStore.selected_spec taken).2.1
  generalize request_eq : claimRequest worker.config worker.workerId plane.clock = request at *
  have bundled := item.bundle_queueItem request
  have id_eq : (item.bundle request).queueItem.id = item.id := by rw [bundled, QueueItem.claimed_id]
  have stored : (plane.withStore (plane.store.recordClaim item request)).items.get?
      (item.bundle request).queueItem.id = some (item.claimed request) := by
    rw [id_eq]
    exact (Dict.get?_modify_self _ _ _).trans (congrArg _ found)
  have others : ∀ other, other ≠ (item.bundle request).queueItem.id →
      (plane.withStore (plane.store.recordClaim item request)).items.get? other =
        plane.items.get? other := by
    intro other differ
    rw [id_eq] at differ
    exact Dict.get?_modify_ne _ _ differ
  refine ⟨⟨?_, fun _ _ => rfl, ⟨_, Dict.get?_set_self _ _ _⟩, ⟨_, Dict.get?_set_self _ _ _⟩, rfl⟩,
    named, ?_, rfl, item, ?_, claimable, ?_, ?_, others⟩
  · refine ⟨item.claimed request, stored, rfl, ?_, ?_, ?_⟩ <;> rw [bundled]
  · rw [bundled, QueueItem.claimed_claimedBy]
    simp
  · rw [id_eq]
    exact found
  · rw [bundled, QueueItem.claimed_attempts]
  · rw [bundled, QueueItem.claimed_maxAttempts]

theorem settled_iff (keyed : plane.Keyed)
    (claims : (claimNextAttempt worker.config worker.workerId).run exec plane =
      (.ok (some bundle), claimed)) :
    (Settled claimed bundle ((processClaim worker bundle).run exec claimed).2 ↔
      Handled worker bundle claimed) ∧
    (Clean claimed bundle ((processClaim worker bundle).run exec claimed).2 ↔
      Handled worker bundle claimed ∧ ¬Succeeds worker bundle claimed) := by
  obtain ⟨working, named, held, -⟩ := claimed_working keyed claims
  have ends := run_processClaim worker working named held
  unfold Handled Succeeds
  cases ended : outcome worker bundle claimed with
  | error error =>
      rw [ended] at ends
      simp only [Except.error.injEq, forall_eq', reduceCtorEq, false_and, exists_false,
        not_false_eq_true, and_true]
      dsimp only at ends
      split at ends
      · rename_i handled
        obtain ⟨result, after, ran, clean, -⟩ := ends
        rw [ran]
        exact ⟨⟨fun _ => handled, fun _ => clean.1⟩, ⟨fun _ => handled, fun _ => clean⟩⟩
      · rename_i unhandled
        exact ⟨⟨fun settled => (ends settled).elim, fun handled => (unhandled handled).elim⟩,
          ⟨fun clean => (ends clean.1).elim, fun handled => (unhandled handled).elim⟩⟩
  | ok result =>
      rw [ended] at ends
      obtain ⟨report, after, ran, settled, -, clean_iff⟩ := ends
      rw [ran]
      simp only [reduceCtorEq, false_implies, implies_true, iff_true, true_and, Except.ok.injEq,
        exists_eq_left', Bool.not_eq_false]
      exact ⟨settled, clean_iff⟩

theorem returns_of_handled (working : Working claimed bundle claimed)
    (named : bundle.attempt.runId ≠ []) (held : bundle.queueItem.claimedBy ≠ none)
    (handled : Handled worker bundle claimed) :
    ∃ result after, (processClaim worker bundle).run exec claimed = (.ok result, after) ∧
      OthersKept claimed bundle after ∧
      ∀ error, outcome worker bundle claimed = .error error → Failed bundle after := by
  have ends := run_processClaim worker working named held
  cases ended : outcome worker bundle claimed with
  | error error =>
      rw [ended] at ends
      dsimp only at ends
      rw [if_pos (handled error ended)] at ends
      obtain ⟨result, after, ran, -, others, failed⟩ := ends
      exact ⟨result, after, ran, others, fun _ _ => failed⟩
  | ok result =>
      rw [ended] at ends
      obtain ⟨report, after, ran, -, others, -⟩ := ends
      exact ⟨report, after, ran, others, fun _ raised => by cases raised⟩

end Claim

/-- A worker's next `process_one`, some time after the last. -/
structure Round where
  micros : Nat
  worker : RuntimeQueueWorker

def Round.begins (round : Round) (plane : Plane) : Plane :=
  { plane with clock := plane.clock + round.micros }

/-- The plane after a round. -/
def step (plane : Plane) (round : Round) : Plane :=
  ((processOne round.worker).run exec (round.begins plane)).2

/-- The claim of a round and the plane after it. -/
def Round.claim (round : Round) (plane : Plane) : Option (ClaimBundle × Plane) :=
  match (claimNextAttempt round.worker.config round.worker.workerId).run exec
    (round.begins plane) with
  | (.ok (some bundle), claimed) => some (bundle, claimed)
  | _ => none

/-- The number of rounds that claim an item. -/
def claimsOf (queueId : Text) (plane : Plane) : List Round → Nat
  | [] => 0
  | round :: rest =>
      (if (round.claim plane).any (·.1.queueItem.id = queueId) then 1 else 0) +
        claimsOf queueId (step plane round) rest

/-- Errors of the round are handled, and the processing of the item fails. -/
def FailsHandled (queueId : Text) (plane : Plane) (round : Round) : Prop :=
  ∀ entry ∈ round.claim plane, Handled round.worker entry.1 entry.2 ∧
    (entry.1.queueItem.id = queueId →
      ∃ error, outcome round.worker entry.1 entry.2 = .error error)

/-- The worker goes on after the round. -/
def Returns (plane : Plane) (round : Round) : Prop :=
  ∃ result, ((processOne round.worker).run exec (round.begins plane)).1 = .ok result

/-- The item was attempted so often, and is dead-lettered once that is often enough. -/
structure Attempted (queueId : Text) (maxAttempts : Int) (attempts : Nat)
    (plane : Plane) : Prop where
  keyed : plane.Keyed
  item : ∃ item, plane.items.get? queueId = some item ∧ item.attempts = attempts ∧
    item.maxAttempts = maxAttempts ∧
    (if (attempts : Int) < maxAttempts then item.status.claimable = true
      else item.status = .deadLettered)

section Rounds

variable {queueId : Text} {maxAttempts : Int} {attempts : Nat} {plane : Plane} {round : Round}

theorem round_claim {bundle : ClaimBundle} {claimed : Plane}
    (claims : round.claim plane = some (bundle, claimed)) :
    (claimNextAttempt round.worker.config round.worker.workerId).run exec (round.begins plane) =
      (.ok (some bundle), claimed) := by
  unfold Round.claim at claims
  split at claims
  · rename_i equal
    cases claims
    exact equal
  · cases claims

theorem run_processOne {bundle : ClaimBundle} {claimed : Plane}
    (claims : round.claim plane = some (bundle, claimed)) {result : RuntimeQueueProcessResult}
    {after : Plane} (processes : (processClaim round.worker bundle).run exec claimed =
      (.ok result, after)) :
    (processOne round.worker).run exec (round.begins plane) = (.ok (some result), after) := by
  rw [processOne, run_bind, round_claim claims]
  dsimp only
  rw [run_bind, processes]
  rfl

theorem step_of_unclaimed (unclaimed : round.claim plane = none) :
    step plane round = round.begins plane ∧ Returns plane round := by
  have empty : (claimNextAttempt round.worker.config round.worker.workerId).run exec
      (round.begins plane) = (.ok none, round.begins plane) := by
    cases taken : (round.begins plane).store.selected (claimRequest round.worker.config
        round.worker.workerId (round.begins plane).clock) with
    | none => exact run_claimNextAttempt_of_none _ taken
    | some item =>
        unfold Round.claim at unclaimed
        rw [run_claimNextAttempt_of_some _ taken] at unclaimed
        cases unclaimed
  have ran : (processOne round.worker).run exec (round.begins plane) =
      (.ok none, round.begins plane) := by
    rw [processOne, run_bind, empty]
    rfl
  exact ⟨congrArg Prod.snd ran, none, congrArg Prod.fst ran⟩

theorem Attempted.step (attempted : Attempted queueId maxAttempts attempts plane)
    (fails : FailsHandled queueId plane round) :
    Attempted queueId maxAttempts
      (attempts + if (round.claim plane).any (·.1.queueItem.id = queueId) then 1 else 0)
      (step plane round) ∧ Returns plane round := by
  have begun : (round.begins plane).Keyed := attempted.keyed
  have keyed_after : (FailureCleanup.step plane round).Keyed := begun.run (processOne round.worker)
  cases claims : round.claim plane with
  | none =>
      obtain ⟨same, returns⟩ := step_of_unclaimed claims
      rw [same]
      exact ⟨⟨attempted.keyed, attempted.item⟩, returns⟩
  | some entry =>
      obtain ⟨bundle, claimed⟩ := entry
      obtain ⟨handled, failing⟩ := fails _ claims
      obtain ⟨working, named, held, -, item, found, claimable, attempts_eq, max_eq, others⟩ :=
        claimed_working begun (round_claim claims)
      obtain ⟨result, after, ran, kept, failed⟩ := returns_of_handled working named held handled
      have processed := run_processOne claims ran
      have after_eq : FailureCleanup.step plane round = after := congrArg Prod.snd processed
      refine ⟨⟨keyed_after, ?_⟩, some result, congrArg Prod.fst processed⟩
      rw [after_eq]
      obtain ⟨waiting, found_waiting, waiting_attempts, waiting_max, waiting_status⟩ :=
        attempted.item
      by_cases same : bundle.queueItem.id = queueId
      · obtain ⟨error, raised⟩ := failing same
        obtain ⟨stored, found_stored, status, stored_attempts, stored_max⟩ := failed error raised
        change plane.items.get? bundle.queueItem.id = some item at found
        rw [same, found_waiting] at found
        cases found
        refine ⟨stored, same ▸ found_stored, ?_, ?_, ?_⟩
        · rw [stored_attempts, attempts_eq, waiting_attempts]
          simp [same]
        · rw [stored_max, max_eq, waiting_max]
        · simp only [same, decide_true, Option.any_some, if_true]
          rw [status, failureStatus, attempts_eq, max_eq, waiting_attempts, waiting_max]
          split
          · rfl
          · rfl
      · have item_eq : after.items.get? queueId = some waiting := by
          rw [kept queueId (Ne.symm same), others queueId (Ne.symm same)]
          exact found_waiting
        refine ⟨waiting, item_eq, ?_, waiting_max, ?_⟩
        · simpa [same] using waiting_attempts
        · simpa [same] using waiting_status

theorem Attempted.run {rounds : List Round}
    (attempted : Attempted queueId maxAttempts attempts plane)
    (fails : Steps FailureCleanup.step (FailsHandled queueId) plane rounds) :
    Attempted queueId maxAttempts (attempts + claimsOf queueId plane rounds)
      (rounds.foldl FailureCleanup.step plane) ∧
        Steps FailureCleanup.step Returns plane rounds := by
  induction rounds generalizing plane attempts with
  | nil => exact ⟨attempted, trivial⟩
  | cons round rest ih =>
      obtain ⟨next, returns⟩ := attempted.step fails.1
      obtain ⟨last, later⟩ := ih next fails.2
      refine ⟨?_, returns, later⟩
      rw [claimsOf, ← Nat.add_assoc]
      exact last

end Rounds

/-- A claim is settled exactly when what its processing raises, if anything, is caught and can be
scheduled again; it is clean exactly when it did not succeed either.  While this is so, a task that
always fails is dead-lettered after its last attempt and the workers go on. -/
theorem failure_cleanup (plane : Plane) (reached : plane.Reachable) :
    (∀ worker bundle claimed, (claimNextAttempt worker.config worker.workerId).run exec plane =
        (.ok (some bundle), claimed) →
      (Settled claimed bundle ((processClaim worker bundle).run exec claimed).2 ↔
        Handled worker bundle claimed) ∧
      (Clean claimed bundle ((processClaim worker bundle).run exec claimed).2 ↔
        Handled worker bundle claimed ∧ ¬Succeeds worker bundle claimed)) ∧
    ∀ queueId item, plane.items.get? queueId = some item → item.status.claimable = true →
      item.attempts = 0 → 1 ≤ item.maxAttempts →
      ∀ rounds, Steps step (FailsHandled queueId) plane rounds →
        Attempted queueId item.maxAttempts (claimsOf queueId plane rounds)
          (rounds.foldl step plane) ∧ Steps step Returns plane rounds := by
  constructor
  · intro worker bundle claimed claims
    exact settled_iff reached.keyed claims
  · intro queueId item found claimable unattempted allowed rounds fails
    have init : Attempted queueId item.maxAttempts 0 plane := by
      refine ⟨reached.keyed, item, found, unattempted, rfl, ?_⟩
      rw [if_pos (by omega)]
      exact claimable
    simpa using init.run fails

/-- The plane after an enqueue. -/
def enqueued (call : OperatorCall) : Plane :=
  (call.program.run exec ⟨Sample.clock, .empty, .empty⟩).2

theorem enqueued_reachable (call : OperatorCall) : (enqueued call).Reachable :=
  (Plane.Reachable.empty Sample.clock .empty).run call.program

/-- A round of a worker with the default settings. -/
def round : Round := ⟨0, Sample.worker "worker-a"⟩

/-- A refused start is cleaned up. -/
theorem failure_cleanup_refused :
    ∃ entry ∈ round.claim (enqueued (Sample.enqueueUnauthorized "task-a" "tenant-a")),
      Clean entry.2 entry.1 ((processClaim round.worker entry.1).run exec entry.2).2 := by
  have failing : (round.claim (enqueued (Sample.enqueueUnauthorized "task-a" "tenant-a"))).any
      (fun entry => Handled round.worker entry.1 entry.2 ∧
        ¬Succeeds round.worker entry.1 entry.2) = true := by
    decide
  rw [Option.any_eq_true] at failing
  obtain ⟨entry, claims, fails⟩ := failing
  have begun := round_claim claims
  refine ⟨entry, claims, ?_⟩
  exact ((failure_cleanup _ (enqueued_reachable _)).1 _ _ _ begun).2.mpr (of_decide_eq_true fails)

/-- A task without composition context, for a worker without a control plane. -/
def contextless : Plane := enqueued (.enqueue { task := Sample.task "task-a" "tenant-a" })

/-- The error of the entry point is not caught, and the item stays claimed. -/
theorem contextless_not_clean :
    ∃ entry ∈ round.claim contextless,
      ¬Clean entry.2 entry.1 ((processClaim round.worker entry.1).run exec entry.2).2 := by
  have stays : (round.claim contextless).any (fun entry =>
      (((processClaim round.worker entry.1).run exec entry.2).2.items.get?
        entry.1.queueItem.id).any (·.status.executing)) = true := by
    decide
  rw [Option.any_eq_true] at stays
  obtain ⟨entry, claims, stored⟩ := stays
  rw [Option.any_eq_true] at stored
  obtain ⟨item, found, executing⟩ := stored
  exact ⟨entry, claims, fun clean => not_settled_of_executing found executing clean.1⟩

end FailureCleanup

end SkillCentric
