import SkillCentric.Runtime.Footprints
import SkillCentric.Runtime.System

/-!
# The phases of a worker

What a proof about `process_one` has to supply: assertions for the phases a claim goes through, and
for each operation that is not a mere record, that it leads from one phase to the next.  From these
the whole program meets its contract.
-/

namespace SkillCentric

open Program Contract RuntimeQueueManager FlightRecorder

/-- The phases of a claim. -/
inductive Phase where
  /-- The run is not inserted yet. -/
  | fresh
  /-- The run is inserted. -/
  | started
  /-- The item is marked running. -/
  | running
  /-- The item's outcome is written. -/
  | released
  /-- The attempt row is completed. -/
  | closed
  deriving DecidableEq

/-- The status writes that end a claim, with the phase they are made in. -/
inductive Releases : Phase → StatusFields → Prop
  | succeeded {fields : StatusFields} (status : fields.status = .succeeded)
      (kept : fields.clearClaim = false) : Releases .running fields
  | cancelled {fields : StatusFields} (status : fields.status = .cancelled)
      (cleared : fields.clearClaim = true) : Releases .running fields
  | failed {phase : Phase} {fields : StatusFields}
      (pending : phase = .fresh ∨ phase = .started ∨ phase = .running)
      (status : fields.status = .retryScheduled ∨ fields.status = .deadLettered)
      (cleared : fields.clearClaim = true) : Releases phase fields

/-- Assertions for the phases of one claim, and what its operations do to them. -/
structure WorkerPhases (contract : Contract Op Plane) (bundle : ClaimBundle) where
  /-- What holds in a phase. -/
  holds : Phase → Plane → Prop
  /-- What holds while the run of the claim may still be completed. -/
  runOpen : Plane → Prop
  stable : ∀ phase, contract.Stable (holds phase)
  stable_open : contract.Stable runOpen
  relax : ∀ phase plane, phase ≠ .closed → holds phase plane → holds .released plane
  observe : ∀ plane run, plane.runs.get? bundle.attempt.runId = some run →
    run.status.terminal = false → runOpen plane
  /-- Operations that leave items, runs and attempts alone matter in no phase. -/
  aside : ∀ op past plane, op.touchesItems = false → op.touchesRuns = false →
    op.touchesAttempts = false → contract.allowed past op plane → contract.guar op plane ∧
      ∀ phase, holds phase plane → holds phase (exec op plane).2
  /-- Only operations on runs matter to an open run. -/
  open_aside : ∀ op plane, op.touchesRuns = false → runOpen plane → runOpen (exec op plane).2
  insertRun : ∀ record past plane, record.id = bundle.attempt.runId → record.status = .running →
    holds .fresh plane → contract.allowed past (.insertRuntimeRun record) plane →
    contract.guar (.insertRuntimeRun record) plane ∧
      holds .started (exec (.insertRuntimeRun record) plane).2 ∧
      runOpen (exec (.insertRuntimeRun record) plane).2
  updateRun : ∀ phase fields past plane, fields.status.terminal → holds phase plane →
    runOpen plane → contract.allowed past (.updateRuntimeRun bundle.attempt.runId fields) plane →
    contract.guar (.updateRuntimeRun bundle.attempt.runId fields) plane ∧
      holds phase (exec (.updateRuntimeRun bundle.attempt.runId fields) plane).2
  markRunning : ∀ fields past plane, fields.status = .running → fields.clearClaim = false →
    holds .started plane →
    contract.allowed past (.updateRuntimeQueueItem bundle.queueItem.id fields) plane →
    contract.guar (.updateRuntimeQueueItem bundle.queueItem.id fields) plane ∧
      holds .running (exec (.updateRuntimeQueueItem bundle.queueItem.id fields) plane).2
  release : ∀ phase fields past plane, Releases phase fields → holds phase plane →
    contract.allowed past (.updateRuntimeQueueItem bundle.queueItem.id fields) plane →
    contract.guar (.updateRuntimeQueueItem bundle.queueItem.id fields) plane ∧
      holds .released (exec (.updateRuntimeQueueItem bundle.queueItem.id fields) plane).2
  heartbeat : ∀ fields past plane, holds .running plane →
    contract.allowed past (.heartbeatRuntimeQueueItem bundle.queueItem.id fields) plane →
    contract.guar (.heartbeatRuntimeQueueItem bundle.queueItem.id fields) plane ∧
      holds .running (exec (.heartbeatRuntimeQueueItem bundle.queueItem.id fields) plane).2
  recordProfile : ∀ runId profileId profileSha256 past plane, holds .running plane →
    contract.allowed past (.updateRuntimeRunAttempt bundle.attempt.id
      (.profile runId profileId profileSha256)) plane →
    contract.guar (.updateRuntimeRunAttempt bundle.attempt.id
      (.profile runId profileId profileSha256)) plane ∧
      holds .running (exec (.updateRuntimeRunAttempt bundle.attempt.id
        (.profile runId profileId profileSha256)) plane).2
  closeAttempt : ∀ status completedAt stopReason past plane, holds .released plane →
    contract.allowed past (.updateRuntimeRunAttempt bundle.attempt.id
      (.completed status completedAt stopReason)) plane →
    contract.guar (.updateRuntimeRunAttempt bundle.attempt.id
      (.completed status completedAt stopReason)) plane ∧
      holds .closed (exec (.updateRuntimeRunAttempt bundle.attempt.id
        (.completed status completedAt stopReason)) plane).2

namespace WorkerPhases

variable {contract : Contract Op Plane} {bundle : ClaimBundle}
variable (phases : WorkerPhases contract bundle) {α : Type}

/-- The phase, and the run may still be completed. -/
def HoldsOpen (phase : Phase) (plane : Plane) : Prop :=
  phases.holds phase plane ∧ phases.runOpen plane

/-- The outcome of the claim is still to be written. -/
def Pending (plane : Plane) : Prop :=
  phases.holds .fresh plane ∨ phases.holds .started plane ∨ phases.holds .running plane

/-- An assertion that only operations on items, runs and attempts can break. -/
structure Keeps (contract : Contract Op Plane) (assertion : Plane → Prop) : Prop where
  stable : contract.Stable assertion
  aside : ∀ op past plane, op.touchesItems = false → op.touchesRuns = false →
    op.touchesAttempts = false → contract.allowed past op plane → assertion plane →
    contract.guar op plane ∧ assertion (exec op plane).2

theorem keeps_holds (phase : Phase) : Keeps contract (phases.holds phase) where
  stable := phases.stable phase
  aside op past plane items runs attempts permitted holds :=
    let ⟨owed, kept⟩ := phases.aside op past plane items runs attempts permitted
    ⟨owed, kept phase holds⟩

theorem keeps_holdsOpen (phase : Phase) : Keeps contract (phases.HoldsOpen phase) where
  stable before after change holds :=
    ⟨phases.stable phase before after change holds.1,
      phases.stable_open before after change holds.2⟩
  aside op past plane items runs attempts permitted holds :=
    let ⟨owed, kept⟩ := phases.aside op past plane items runs attempts permitted
    ⟨owed, kept phase holds.1, phases.open_aside op plane runs holds.2⟩

section Keeping

variable {assertion : Plane → Prop} (keeps : Keeps contract assertion)
include keeps

theorem Keeps.records {program : Py α} {runId : Text} (records : program.Records runId) :
    contract.Triple exec assertion program (fun _ => assertion) (fun _ => assertion) := by
  refine (triple_of_yields records keeps.stable ?_).conseq (fun _ holds => holds)
    (fun _ _ post => post.2) fun _ _ post => post
  intro op past now footprint holds permitted
  have quiet := footprint.quiet
  simp only [Op.quiet, Bool.not_eq_true', Bool.or_eq_false_iff] at quiet
  exact keeps.aside op past now quiet.1.1.1.1.1 quiet.1.1.1.1.2 quiet.1.1.1.2 permitted holds

theorem Keeps.call {op : Op} (items : op.touchesItems = false) (runs : op.touchesRuns = false)
    (attempts : op.touchesAttempts = false) :
    contract.Triple exec assertion (Py.call op) (fun _ => assertion) (fun _ => assertion) :=
  triple_op keeps.stable fun past now holds permitted =>
    keeps.aside op past now items runs attempts permitted holds

theorem Keeps.timestamp :
    contract.Triple exec assertion Py.timestamp (fun _ => assertion) (fun _ => assertion) :=
  keeps.records (records_timestamp : Py.timestamp.Records [])

theorem Keeps.runStatus {open_ : Plane → Prop} {runId : Text}
    (observe : ∀ plane run, plane.runs.get? runId = some run → run.status.terminal = false →
      open_ plane) :
    contract.Triple exec assertion (runStatus runId)
      (fun status plane => assertion plane ∧
        ((status.any fun status => !status.terminal) = true → open_ plane))
      (fun _ => assertion) := by
  have reread : contract.Triple exec assertion (Py.call (.getRuntimeRun runId))
      (fun run plane => assertion plane ∧
        ((run.any fun run => !run.status.terminal) = true → open_ plane))
      (fun _ => assertion) := by
    refine triple_op keeps.stable fun past now holds permitted => ?_
    obtain ⟨owed, kept⟩ := keeps.aside _ past now rfl rfl rfl permitted holds
    refine ⟨owed, kept, fun nonterminal => ?_⟩
    change (now.runs.get? runId).any (fun run => !run.status.terminal) = true at nonterminal
    cases found : now.runs.get? runId with
    | none => simp [found] at nonterminal
    | some run => exact observe now run found (by simpa [found] using nonterminal)
  refine triple_bind (keeps.call rfl rfl rfl) fun found => ?_
  split
  · exact triple_pure fun plane holds => ⟨holds, by simp⟩
  · refine triple_bind reread fun run => ?_
    refine triple_pure fun plane holds => ⟨holds.1, fun nonterminal => holds.2 ?_⟩
    cases run with
    | none => simp at nonterminal
    | some run => simpa using nonterminal

end Keeping

theorem lift_triple {assertion : Plane → Prop} {outcome : Except PyError α} :
    contract.Triple exec assertion (Py.lift outcome) (fun _ => assertion) (fun _ => assertion) :=
  triple_ofExcept (fun _ _ _ holds => holds) fun _ _ _ holds => holds

section Start

variable {worker : RuntimeQueueWorker} (named : bundle.attempt.runId ≠ [])

include named in
theorem runIdentifier_runStart {generation : ProfileGeneration}
    {prepared : RuntimeEntryPoint.Prepared} {uri : ArtifactPath} {sha : Text} :
    runIdentifier
      (RuntimeEntryPoint.runStart (some bundle.attempt.runId) generation prepared uri sha) =
        bundle.attempt.runId := by
  simp [runIdentifier, RuntimeEntryPoint.runStart,
    RuntimeEntryPoint.requestedRunId, Option.filter, named]

theorem insertRun_triple {record : RuntimeRun} (id_eq : record.id = bundle.attempt.runId)
    (status : record.status = .running) :
    contract.Triple exec (phases.holds .fresh) (Py.call (.insertRuntimeRun record))
      (fun _ => phases.HoldsOpen .started) (fun _ => phases.holds .fresh) :=
  triple_op (phases.stable .fresh) fun past now holds permitted =>
    phases.insertRun record past now id_eq status holds permitted

theorem startRun_triple {start : RunStart}
    (identifier : runIdentifier start = bundle.attempt.runId) :
    contract.Triple exec (phases.holds .fresh) (startRun start)
      (fun run plane => run.id = bundle.attempt.runId ∧ phases.HoldsOpen .started plane)
      (fun _ => phases.holds .fresh) := by
  refine triple_bind (phases.keeps_holds .fresh).timestamp fun startedAt => ?_
  refine triple_bind (phases.insertRun_triple identifier rfl) fun _ => ?_
  exact triple_pure fun _ holds => ⟨identifier, holds⟩

include named in
theorem start_triple {task : JsonObject} {context : Option JsonObject}
    {generation : ProfileGeneration} :
    contract.Triple exec (phases.holds .fresh)
      (RuntimeEntryPoint.start worker.components task context (some bundle.attempt.runId)
        generation)
      (fun start plane => start.runId = bundle.attempt.runId ∧ phases.HoldsOpen .started plane)
      (fun _ => phases.Pending) := by
  have fresh := phases.keeps_holds .fresh
  have pending : ∀ plane, phases.holds .fresh plane → phases.Pending plane := fun _ => .inl
  refine triple_bind (lift_triple.raising fun _ => pending) fun prepared => ?_
  refine triple_bind ((fresh.call rfl rfl rfl).raising fun _ => pending) fun uri => ?_
  refine triple_bind ((phases.startRun_triple (runIdentifier_runStart named)).raising
    fun _ => pending) fun run => ?_
  refine triple_of_fact fun identifier => ?_
  refine triple_bind (((phases.keeps_holdsOpen .started).records
    RuntimeEntryPoint.recordStart_records).raising fun _ plane holds => .inr (.inl holds.1))
    fun _ => ?_
  exact triple_pure fun _ holds => ⟨identifier, holds⟩

theorem markRunning_triple {runId attemptId : Text} :
    contract.Triple exec (phases.HoldsOpen .started)
      (RuntimeQueueManager.markRunning bundle.queueItem.id runId attemptId)
        (fun _ => phases.HoldsOpen .running)
      (fun _ => phases.Pending) := by
  have started := phases.keeps_holdsOpen .started
  refine triple_bind (started.timestamp.raising fun _ _ holds => .inr (.inl holds.1))
    fun updatedAt => ?_
  have marked : contract.Triple exec (phases.HoldsOpen .started)
      (Py.call (.updateRuntimeQueueItem bundle.queueItem.id
        { status := .running, updatedAt, runId := some runId, attemptId := some attemptId }))
      (fun _ => phases.HoldsOpen .running) (fun _ => phases.Pending) := by
    refine triple_op started.stable fun past now holds permitted => ?_
    obtain ⟨owed, running⟩ := phases.markRunning _ past now rfl rfl holds.1 permitted
    exact ⟨owed, running, phases.open_aside _ now rfl holds.2⟩
  refine triple_bind marked fun result => ?_
  refine triple_bind (lift_triple.raising fun _ _ holds => .inr (.inr holds.1)) fun _ => ?_
  exact triple_pure fun _ holds => holds

theorem recordProfile_triple {start : RuntimeStartResult} :
    contract.Triple exec (phases.HoldsOpen .running)
      (RuntimeQueueWorker.recordProfile bundle start) (fun _ => phases.HoldsOpen .running)
      (fun _ => phases.HoldsOpen .running) := by
  have running := phases.keeps_holdsOpen .running
  have recorded : contract.Triple exec (phases.HoldsOpen .running)
      (Py.call (.updateRuntimeRunAttempt bundle.attempt.id
        (.profile start.runId start.profile.id start.profileSha256)))
      (fun _ => phases.HoldsOpen .running) (fun _ => phases.HoldsOpen .running) := by
    refine triple_op running.stable fun past now holds permitted => ?_
    obtain ⟨owed, kept⟩ := phases.recordProfile _ _ _ past now holds.1 permitted
    exact ⟨owed, kept, phases.open_aside _ now rfl holds.2⟩
  exact triple_bind recorded fun _ => lift_triple

theorem Keeps.reserve {assertion : Plane → Prop} (keeps : Keeps contract assertion)
    {redact : Json → Json} {config : RuntimeQuotaConfig} {request : ReserveRequest} :
    contract.Triple exec assertion (RuntimeQuotaManager.reserve redact config request)
      (fun _ => assertion) (fun _ => assertion) := by
  refine triple_bind (keeps.records
    (RuntimeQuotaManager.quotaWindow_records : RuntimeQuotaManager.quotaWindow.Records []))
    fun window => ?_
  refine triple_bind (keeps.records RuntimeQuotaManager.assertWithinLimit_records) fun _ => ?_
  refine triple_bind (keeps.records RuntimeQuotaManager.assertWithinLimit_records) fun _ => ?_
  refine triple_bind keeps.timestamp fun createdAt => ?_
  refine triple_bind (keeps.call rfl rfl rfl) fun _ => ?_
  refine triple_bind (keeps.records (recordEvent_records rfl)) fun _ => ?_
  exact triple_pure fun _ holds => holds

include named in
theorem startClaim_triple :
    contract.Triple exec (phases.holds .fresh) (worker.startClaim bundle)
      (fun result plane => result.1.runId = bundle.attempt.runId ∧
        phases.HoldsOpen .running plane)
      (fun _ => phases.Pending) := by
  have fresh := phases.keeps_holds .fresh
  have running := phases.keeps_holdsOpen .running
  have ended : ∀ plane, phases.HoldsOpen .running plane → phases.Pending plane :=
    fun _ holds => .inr (.inr holds.1)
  refine triple_bind ((fresh.records
    (loadTask_records : (loadTask bundle.queueItem).Records [])).raising fun _ _ => .inl)
    fun task => ?_
  refine triple_bind ((fresh.records (loadCompositionContext_records :
    (loadCompositionContext bundle.queueItem).Records [])).raising fun _ _ => .inl)
    fun context => ?_
  refine triple_bind (phases.start_triple named) fun start => ?_
  refine triple_of_fact fun identifier => ?_
  refine triple_bind phases.markRunning_triple fun _ => ?_
  refine triple_bind (phases.recordProfile_triple.raising fun _ => ended) fun _ => ?_
  refine triple_bind (running.reserve.raising fun _ => ended) fun reservation => ?_
  exact triple_pure fun _ holds => ⟨identifier, holds⟩

end Start

section Loop

variable {loop : MinimalRuntimeLoop} {redact : Json → Json} {start : RuntimeStartResult}

theorem completeRun_triple {status : RuntimeStatus} (terminal : status.terminal)
    {stopReason : Text} {tokens : Int} :
    contract.Triple exec (phases.HoldsOpen .running)
      (completeRun bundle.attempt.runId status stopReason tokens)
      (fun _ => phases.holds .running) (fun _ => phases.holds .running) := by
  have running := phases.keeps_holdsOpen .running
  refine triple_bind (lift_triple.raising fun _ _ holds => holds.1) fun _ => ?_
  refine triple_bind (running.timestamp.raising fun _ _ holds => holds.1) fun completedAt => ?_
  have completed : contract.Triple exec (phases.HoldsOpen .running)
      (Py.call (.updateRuntimeRun bundle.attempt.runId
        { status, completedAt, stopReason := some stopReason, tokensUsedTotal := some tokens }))
      (fun _ => phases.holds .running) (fun _ => phases.holds .running) :=
    triple_op running.stable fun past now holds permitted =>
      phases.updateRun .running _ past now terminal holds.1 holds.2 permitted
  exact triple_bind completed fun _ => lift_triple

variable (owner : start.runId = bundle.attempt.runId)
include owner

theorem endRun_triple {event : EventRequest} (event_owner : event.runId = start.runId)
    {status : RuntimeStatus} (terminal : status.terminal) {stopReason : Text} {tokens : Int}
    {value : α} :
    contract.Triple exec (phases.HoldsOpen .running)
      (do
        let _ ← recordEvent redact event
        completeRun start.runId status stopReason tokens
        return value : Py α)
      (fun returned plane => returned = value ∧ phases.holds .running plane)
      (fun _ => phases.holds .running) := by
  have running := phases.keeps_holdsOpen .running
  refine triple_bind ((running.records (recordEvent_records event_owner)).raising
    fun _ _ holds => holds.1) fun _ => ?_
  rw [owner]
  refine triple_bind (phases.completeRun_triple terminal) fun _ => ?_
  exact triple_pure fun _ holds => ⟨rfl, holds⟩

theorem handleRuntimeError_triple {error : PyError} :
    contract.Triple exec (phases.HoldsOpen .running)
      (loop.handleRuntimeError redact start error)
      (fun _ => phases.holds .running) (fun _ => phases.holds .running) := by
  have failed : ∀ error : PyError, contract.Triple exec (phases.HoldsOpen .running)
      (loop.failRun redact start.runId error)
      (fun _ => phases.holds .running) (fun _ => phases.holds .running) := fun error =>
    (phases.endRun_triple owner rfl rfl).conseq (fun _ holds => holds) (fun _ _ post => post.2)
      fun _ _ post => post
  unfold MinimalRuntimeLoop.handleRuntimeError
  split
  · exact failed error
  · split
    · rename_i budget _
      split
      · exact failed budget
      · exact triple_throw fun _ holds => holds.1
    · exact (phases.endRun_triple owner rfl rfl).conseq (fun _ holds => holds)
        (fun _ _ post => post.2) fun _ _ post => post

theorem run_triple :
    contract.Triple exec (phases.HoldsOpen .running) (loop.run start)
      (fun result plane => result.runId = bundle.attempt.runId ∧ phases.holds .running plane)
      (fun _ => phases.holds .running) := by
  have running := phases.keeps_holdsOpen .running
  refine triple_bind ((running.records (MinimalRuntimeLoop.assertProfileSeal_traces.records :
    (loop.assertProfileSeal start).Records [])).raising fun _ _ holds => holds.1) fun _ => ?_
  refine triple_bind (triple_attempt (running.records MinimalRuntimeLoop.steps_records))
    fun outcome => ?_
  have named_result : ∀ (result : RuntimeLoopResult) (plane : Plane) (value : RuntimeLoopResult),
      value.runId = start.runId → result = value ∧ phases.holds .running plane →
      result.runId = bundle.attempt.runId ∧ phases.holds .running plane := by
    rintro result plane value value_run ⟨rfl, holds⟩
    exact ⟨value_run.trans owner, holds⟩
  cases outcome with
  | ok result =>
      exact (phases.endRun_triple owner rfl rfl).conseq (fun _ holds => holds)
        (fun result plane post => named_result result plane _ rfl post) fun _ _ post => post
  | error error =>
      dsimp only
      split
      · exact (phases.endRun_triple owner rfl rfl).conseq (fun _ holds => holds)
          (fun result plane post => named_result result plane _ rfl post) fun _ _ post => post
      · split
        · refine triple_bind (phases.handleRuntimeError_triple owner) fun _ => ?_
          exact triple_throw fun _ holds => holds
        · exact triple_throw fun _ holds => holds.1

theorem runClaim_triple {worker : RuntimeQueueWorker} :
    contract.Triple exec (phases.HoldsOpen .running) (worker.runClaim bundle start)
      (fun result plane => result.runId = bundle.attempt.runId ∧ phases.holds .running plane)
      (fun _ => phases.holds .running) := by
  have running := phases.keeps_holdsOpen .running
  have refreshed : contract.Triple exec (phases.HoldsOpen .running)
      (RuntimeQueueManager.heartbeat worker.config bundle.queueItem.id)
      (fun _ => phases.HoldsOpen .running) (fun _ => phases.HoldsOpen .running) := by
    refine triple_bind (running.call rfl rfl rfl) fun now => ?_
    have written : contract.Triple exec (phases.HoldsOpen .running)
        (Py.call (.heartbeatRuntimeQueueItem bundle.queueItem.id
          (heartbeatFields worker.config now)))
        (fun _ => phases.HoldsOpen .running) (fun _ => phases.HoldsOpen .running) := by
      refine triple_op running.stable fun past now holds permitted => ?_
      obtain ⟨owed, kept⟩ := phases.heartbeat _ past now holds.1 permitted
      exact ⟨owed, kept, phases.open_aside _ now rfl holds.2⟩
    refine triple_bind written fun _ => triple_bind lift_triple fun _ => ?_
    exact triple_pure fun _ holds => holds
  exact triple_bind (refreshed.raising fun _ _ holds => holds.1) fun _ => phases.run_triple owner

end Loop

section Finish

variable {worker : RuntimeQueueWorker} {error : PyError} {stopReason : Option Text}

theorem updateRun_triple (phase : Phase) {fields : RunFields} (terminal : fields.status.terminal) :
    contract.Triple exec (phases.HoldsOpen phase)
      (Py.call (.updateRuntimeRun bundle.attempt.runId fields))
      (fun _ => phases.holds phase) (fun _ => phases.holds phase) :=
  triple_op (phases.keeps_holdsOpen phase).stable fun past now holds permitted =>
    phases.updateRun phase fields past now terminal holds.1 holds.2 permitted

theorem failOpenRun_triple (phase : Phase) :
    contract.Triple exec (phases.holds phase) (RuntimeQueueWorker.failOpenRun bundle error)
      (fun _ => phases.holds phase) (fun _ => phases.holds phase) := by
  refine triple_bind ((phases.keeps_holds phase).runStatus phases.observe) fun status => ?_
  split
  · rename_i nonterminal
    have opened : ∀ plane, phases.holds phase plane ∧
        ((status.any fun status => !status.terminal) = true → phases.runOpen plane) →
        phases.HoldsOpen phase plane := fun _ holds => ⟨holds.1, holds.2 nonterminal⟩
    have written : contract.Triple exec (phases.HoldsOpen phase)
        (do
          let completedAt ← Py.timestamp
          let result ← Py.call (.updateRuntimeRun bundle.attempt.runId
            (RuntimeQueueWorker.failedRun error completedAt))
          Py.lift result : Py Unit)
        (fun _ => phases.holds phase) (fun _ => phases.holds phase) := by
      refine triple_bind ((phases.keeps_holdsOpen phase).timestamp.raising
        fun _ _ holds => holds.1) fun completedAt => ?_
      exact triple_bind (phases.updateRun_triple phase rfl) fun _ => lift_triple
    exact written.conseq opened (fun _ _ post => post) fun _ _ post => post
  · exact triple_pure fun _ holds => holds.1

variable {phase : Phase} {assertion : Plane → Prop}

theorem updateStatus_triple {fields : Text → StatusFields}
    (releases : ∀ updatedAt, Releases phase (fields updatedAt)) :
    contract.Triple exec (phases.holds phase) (updateStatus bundle.queueItem.id fields)
      (fun _ => phases.holds .released) (fun _ _ => True) := by
  refine triple_bind ((phases.keeps_holds phase).timestamp.raising fun _ _ _ => trivial)
    fun updatedAt => ?_
  have written : contract.Triple exec (phases.holds phase)
      (Py.call (.updateRuntimeQueueItem bundle.queueItem.id (fields updatedAt)))
      (fun _ => phases.holds .released) (fun _ _ => True) :=
    triple_op (phases.stable phase) fun past now holds permitted =>
      phases.release phase _ past now (releases updatedAt) holds permitted
  refine triple_bind written fun _ => ?_
  refine triple_bind (lift_triple.raising fun _ _ _ => trivial) fun _ => ?_
  exact triple_pure fun _ holds => holds

theorem failureFields_releases
    (pending : phase = .fresh ∨ phase = .started ∨ phase = .running) {item : QueueItem}
    {runId : Option Text} {scheduledAt updatedAt : Text} :
    Releases phase (failureFields item error runId scheduledAt updatedAt) := by
  refine .failed pending ?_ rfl
  change failureStatus item = _ ∨ failureStatus item = _
  unfold failureStatus
  split
  · exact .inl rfl
  · exact .inr rfl

theorem markFailedOrRetry_triple
    (pending : phase = .fresh ∨ phase = .started ∨ phase = .running) {runId : Option Text} :
    contract.Triple exec (phases.holds phase)
      (markFailedOrRetry worker.config bundle.queueItem error runId)
      (fun _ => phases.holds .released) (fun _ _ => True) := by
  have released := phases.keeps_holds .released
  refine triple_bind (((phases.keeps_holds phase).call rfl rfl rfl).raising fun _ _ _ => trivial)
    fun now => ?_
  refine triple_bind (lift_triple.raising fun _ _ _ => trivial) fun scheduledAt => ?_
  refine triple_bind (phases.updateStatus_triple fun _ => failureFields_releases pending)
    fun _ => ?_
  split
  · refine triple_bind (released.timestamp.raising fun _ _ _ => trivial) fun createdAt => ?_
    exact (released.call rfl rfl rfl).raising fun _ _ _ => trivial
  · exact triple_pure fun _ holds => holds

theorem closeAttempt_triple :
    contract.Triple exec (phases.holds .released)
      (RuntimeQueueWorker.closeAttempt bundle stopReason)
      (fun _ => phases.holds .closed) (fun _ _ => True) := by
  have released := phases.keeps_holds .released
  refine triple_bind ((released.records
    (storedItem_records : (storedItem bundle.queueItem.id).Records [])).raising
    fun _ _ _ => trivial) fun item => ?_
  refine triple_bind (released.timestamp.raising fun _ _ _ => trivial) fun completedAt => ?_
  have written : contract.Triple exec (phases.holds .released)
      (Py.call (.updateRuntimeRunAttempt bundle.attempt.id
        (.completed item.status completedAt stopReason)))
      (fun _ => phases.holds .closed) (fun _ _ => True) :=
    triple_op released.stable fun past now holds permitted =>
      phases.closeAttempt _ _ _ past now holds permitted
  exact triple_bind written fun _ => lift_triple.raising fun _ _ _ => trivial

theorem Keeps.closeClaim (keeps : Keeps contract assertion) :
    contract.Triple exec assertion (RuntimeQueueWorker.closeClaim bundle)
      (fun _ => assertion) (fun _ _ => True) := by
  refine triple_bind (keeps.timestamp.raising fun _ _ _ => trivial) fun releasedAt => ?_
  refine triple_bind ((keeps.records
    (storedItem_records : (storedItem bundle.queueItem.id).Records [])).raising
    fun _ _ _ => trivial) fun item => ?_
  refine triple_bind ((keeps.call rfl rfl rfl).raising fun _ _ _ => trivial) fun _ => ?_
  exact lift_triple.raising fun _ _ _ => trivial

theorem Keeps.settle (keeps : Keeps contract assertion)
    {status : ReservationStatus} {reservationId : Text} :
    contract.Triple exec assertion (RuntimeQuotaManager.settle status reservationId)
      (fun _ => assertion) (fun _ _ => True) := by
  refine triple_bind (keeps.timestamp.raising fun _ _ _ => trivial) fun finalizedAt => ?_
  refine triple_bind ((keeps.call rfl rfl rfl).raising fun _ _ _ => trivial) fun _ => ?_
  exact lift_triple.raising fun _ _ _ => trivial

theorem Keeps.report (keeps : Keeps contract assertion) {runId : Text} :
    contract.Triple exec assertion (RuntimeQueueWorker.report bundle runId stopReason)
      (fun _ _ => True) (fun _ _ => True) := by
  refine triple_bind ((keeps.records
    (storedItem_records : (storedItem bundle.queueItem.id).Records [])).raising
    fun _ _ _ => trivial) fun item => ?_
  exact triple_pure fun _ _ => trivial

theorem close_triple {reservation : Option QuotaReservation} {runId : Text} :
    contract.Triple exec (phases.holds .released)
      (do
        RuntimeQueueWorker.closeAttempt bundle stopReason
        RuntimeQueueWorker.closeClaim bundle
        RuntimeQueueWorker.refundReservation reservation
        RuntimeQueueWorker.report bundle runId stopReason)
      (fun _ _ => True) (fun _ _ => True) := by
  have closed := phases.keeps_holds .closed
  refine triple_bind phases.closeAttempt_triple fun _ => ?_
  refine triple_bind closed.closeClaim fun _ => ?_
  have refunded : contract.Triple exec (phases.holds .closed)
      (RuntimeQueueWorker.refundReservation reservation)
      (fun _ => phases.holds .closed) (fun _ _ => True) := by
    cases reservation with
    | none => exact triple_pure fun _ holds => holds
    | some reservation => exact closed.settle
  exact triple_bind refunded fun _ => closed.report

theorem handleError_triple {reservation : Option QuotaReservation} :
    contract.Triple exec phases.Pending (worker.handleError bundle reservation error)
      (fun _ _ => True) (fun _ _ => True) := by
  have from_phase : ∀ phase, (phase = .fresh ∨ phase = .started ∨ phase = .running) →
      contract.Triple exec (phases.holds phase) (worker.handleError bundle reservation error)
        (fun _ _ => True) (fun _ _ => True) := by
    intro phase pending
    unfold RuntimeQueueWorker.handleError
    split
    · refine triple_bind ((phases.failOpenRun_triple phase).raising fun _ _ _ => trivial)
        fun _ => ?_
      exact triple_bind (phases.markFailedOrRetry_triple pending) fun _ => phases.close_triple
    · exact triple_throw fun _ _ => trivial
  rintro past plane (holds | holds | holds)
  · exact from_phase .fresh (.inl rfl) past plane holds
  · exact from_phase .started (.inr (.inl rfl)) past plane holds
  · exact from_phase .running (.inr (.inr rfl)) past plane holds

theorem cancelRun_triple {completedAt : Text} :
    contract.Triple exec (phases.holds .released)
      (RuntimeQueueManager.cancelRun bundle.attempt.runId completedAt)
      (fun _ => phases.holds .released) (fun _ _ => True) := by
  have released := phases.keeps_holds .released
  refine triple_bind ((released.runStatus phases.observe).raising fun _ _ _ => trivial)
    fun status => ?_
  split
  · rename_i nonterminal
    have written : contract.Triple exec (phases.HoldsOpen .released)
        (do
          let result ← Py.call (.updateRuntimeRun bundle.attempt.runId (cancelledRun completedAt))
          Py.lift result : Py Unit)
        (fun _ => phases.holds .released) (fun _ _ => True) :=
      (triple_bind (phases.updateRun_triple .released rfl) fun _ => lift_triple).raising
        fun _ _ _ => trivial
    exact written.conseq (fun _ holds => ⟨holds.1, holds.2 nonterminal⟩) (fun _ _ post => post)
      fun _ _ post => post
  · exact triple_pure fun _ holds => holds.1

theorem markCancelled_triple (named : bundle.attempt.runId ≠ []) :
    contract.Triple exec (phases.holds .running)
      (markCancelled bundle.queueItem.id (some bundle.attempt.runId))
      (fun _ => phases.holds .released) (fun _ _ => True) := by
  have running := phases.keeps_holds .running
  have released := phases.keeps_holds .released
  have reread : ∀ {phase : Phase}, contract.Triple exec (phases.holds phase)
      (storedItem bundle.queueItem.id) (fun _ => phases.holds phase) (fun _ _ => True) :=
    fun {phase} => ((phases.keeps_holds phase).records
      (storedItem_records : (storedItem bundle.queueItem.id).Records [])).raising
      fun _ _ _ => trivial
  refine triple_bind ((running.records
    (requireItem_records : (requireItem bundle.queueItem.id).Records [])).raising
    fun _ _ _ => trivial) fun _ => ?_
  refine triple_bind reread fun item => ?_
  split
  · exact triple_pure fun plane holds => phases.relax .running plane (by decide) holds
  · refine triple_bind reread fun item => ?_
    have unended : (Py.raiseIf (item.status.terminal && item.status ≠ .cancelled)
        (queueError "Terminal runtime queue items cannot be cancelled.")).Records [] :=
      performs_raiseIf
    refine triple_bind ((running.records unended).raising fun _ _ _ => trivial) fun _ => ?_
    refine triple_bind (running.timestamp.raising fun _ _ _ => trivial) fun completedAt => ?_
    refine triple_bind (phases.updateStatus_triple fun _ => .cancelled rfl rfl) fun _ => ?_
    refine triple_bind ((released.call rfl rfl rfl).raising fun _ _ _ => trivial) fun _ => ?_
    refine triple_bind reread fun item => ?_
    have effective : (Option.filter (fun runId => decide (runId ≠ []))
        (some bundle.attempt.runId)).or item.runId = some bundle.attempt.runId := by
      simp [Option.filter, named]
    rw [effective]
    exact phases.cancelRun_triple

theorem finishSucceeded_triple {reservation : QuotaReservation} {result : RuntimeLoopResult} :
    contract.Triple exec (phases.holds .running)
      (RuntimeQueueWorker.finishSucceeded bundle reservation result)
      (fun _ _ => True) (fun _ _ => True) := by
  have released := phases.keeps_holds .released
  have closed := phases.keeps_holds .closed
  refine triple_bind (phases.updateStatus_triple fun _ => .succeeded rfl rfl) fun _ => ?_
  refine triple_bind released.settle fun _ => ?_
  refine triple_bind phases.closeAttempt_triple fun _ => ?_
  exact triple_bind closed.closeClaim fun _ => closed.report

theorem processClaim_triple (named : bundle.attempt.runId ≠ []) :
    contract.Triple exec (phases.holds .fresh) (worker.processClaim bundle)
      (fun _ _ => True) (fun _ _ => True) := by
  refine triple_bind (triple_attempt (phases.startClaim_triple named)) fun outcome => ?_
  cases outcome with
  | error error => exact phases.handleError_triple
  | ok result =>
      obtain ⟨start, reservation⟩ := result
      refine triple_of_fact fun owner => ?_
      refine triple_bind (triple_attempt (phases.runClaim_triple owner)) fun outcome => ?_
      cases outcome with
      | error error =>
          exact phases.handleError_triple.conseq (fun _ holds => .inr (.inr holds))
            (fun _ _ post => post) fun _ _ post => post
      | ok result =>
          refine triple_of_fact fun result_owner => ?_
          dsimp only
          split
          · unfold RuntimeQueueWorker.finishCancelled
            rw [result_owner]
            exact triple_bind (phases.markCancelled_triple named) fun _ => phases.close_triple
          · exact phases.finishSucceeded_triple

end Finish

end WorkerPhases

theorem QueueItem.bundle_named (item : QueueItem) (request : ClaimRequest) :
    (item.bundle request).attempt.runId ≠ [] := by
  rw [bundle_runId]
  exact slugId_ne_nil _ (.inr (by decide))

theorem WorkerPhases.serve_meets {contract : Contract Op Plane} {item : QueueItem}
    {request : ClaimRequest} (phases : WorkerPhases contract (item.bundle request))
    (worker : RuntimeQueueWorker) {plane : Plane} (holds : phases.holds .fresh plane) :
    contract.Meets exec [] (worker.serve (item.bundle request)) (fun _ _ _ => True) plane := by
  have served : contract.Triple exec (phases.holds .fresh) (worker.serve (item.bundle request))
      (fun _ _ => True) (fun _ _ => True) :=
    triple_bind (phases.processClaim_triple (item.bundle_named request))
      fun _ => triple_pure fun _ _ => trivial
  exact (served [] plane holds).mono fun _ _ _ _ => trivial

end SkillCentric
