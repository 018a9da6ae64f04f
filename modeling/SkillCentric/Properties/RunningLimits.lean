import SkillCentric.Properties.Ownership

/-!
# Running limits

The limits are checked where an item is claimed.  The other way into a counted status is
`mark_running`, which writes the status of whatever item it finds.  The limits hold as long as it
finds items that are counted already.
-/

namespace SkillCentric

open Contract RuntimeQueueManager InMemoryRuntimeStore

namespace RunningLimits

/-- The running limits of a deployment. -/
structure Limits where
  global : Option Int
  tenant : Text → Option Int

/-- Executing items of the tenants in `tenants`. -/
def runningCount (tenants : Text → Bool) (plane : Plane) : Nat :=
  plane.items.values.countP fun item => tenants item.tenantId && item.status.executing

/-- No more items execute than the limits say. -/
structure Within (limits : Limits) (plane : Plane) : Prop where
  global : ∀ limit ∈ limits.global, (plane.store.globalRunningCount : Int) ≤ limit
  tenant : ∀ tenantId, ∀ limit ∈ limits.tenant tenantId,
    (plane.store.tenantRunningCount tenantId : Int) ≤ limit

/-- Workers claim under the limits of the deployment. -/
def Configured (limits : Limits) : Event OperatorCall → Prop
  | .claim worker _ =>
      worker.config.globalRunningLimit = limits.global ∧
        worker.config.tenantRunningLimits = limits.tenant
  | _ => True

/-- A write of the status `running` finds an executing item. -/
def FindsExecutingOp (plane : Plane) : Op → Prop
  | .updateRuntimeQueueItem queueId fields =>
      fields.status = .running →
        ∀ item ∈ plane.items.get? queueId, item.status.executing
  | _ => True

instance (plane : Plane) (op : Op) : Decidable (FindsExecutingOp plane op) := by
  unfold FindsExecutingOp
  rcases op with ⟨⟩ <;> infer_instance

/-- A step that marks only executing items as running. -/
def FindsExecuting (system : System OperatorCall) : Event OperatorCall → Prop
  | .perform index => ∀ op ∈ system.nextOp index, FindsExecutingOp system.state op
  | _ => True

instance (system : System OperatorCall) (event : Event OperatorCall) :
    Decidable (FindsExecuting system event) := by
  unfold FindsExecuting
  rcases event with ⟨⟩ <;> infer_instance

section Counts

variable {plane : Plane} {op : Op} (tenants : Text → Bool)

theorem globalRunningCount_eq (plane : Plane) :
    plane.store.globalRunningCount = runningCount (fun _ => true) plane := by
  simp [runningCount, globalRunningCount]

theorem tenantRunningCount_eq (plane : Plane) (tenantId : Text) :
    plane.store.tenantRunningCount tenantId =
      runningCount (fun tenant => decide (tenant = tenantId)) plane := by
  simp [runningCount, tenantRunningCount]

theorem runningCount_exec_le (sane : op.Sane) (finds : FindsExecutingOp plane op) :
    runningCount tenants (exec op plane).2 ≤ runningCount tenants plane := by
  by_cases touched : op.touchesItems
  · cases op with
    | insertRuntimeQueueItem record =>
        have queued : (tenants record.tenantId && record.status.executing) = false := by
          rw [sane.1]
          simp [RuntimeQueueStatus.executing]
        simp only [exec, insertRuntimeQueueItem]
        split
        · exact le_refl _
        · exact Dict.countP_set_le _ _ _ queued
    | updateRuntimeQueueItem queueId fields =>
        simp only [exec, updateRuntimeQueueItem]
        split
        · exact le_refl _
        · rename_i item found
          refine Dict.countP_modify_le _ _ _ _ fun value located counts => ?_
          simp only [StatusFields.apply_tenantId, StatusFields.apply_status,
            Bool.and_eq_true] at counts ⊢
          refine ⟨counts.1, ?_⟩
          -- `running` is the only counted status that is ever written
          rcases sane with ⟨status | status, -⟩ | ⟨status | status | status, -⟩
          · exact finds status value located
          · rw [status] at counts
            cases counts.2
          · rw [status] at counts
            cases counts.2
          · rw [status] at counts
            cases counts.2
          · rw [status] at counts
            cases counts.2
    | heartbeatRuntimeQueueItem queueId fields =>
        simp only [exec, heartbeatRuntimeQueueItem]
        split
        · exact le_refl _
        · refine Dict.countP_modify_le _ _ _ _ fun value _ counts => ?_
          simpa using counts
    | claimNextRuntimeQueueAttempt request => exact sane.elim
    | recoverStaleRuntimeQueueItems now =>
        refine Dict.countP_mapValues_le _ _ _ fun _ value counts => ?_
        split at counts
        · simp [RuntimeQueueStatus.executing] at counts
        · exact counts
    | _ => simp [Op.touchesItems] at touched
  · have same : (exec op plane).2.items = plane.items := exec_items plane (by simpa using touched)
    unfold runningCount
    rw [same]

theorem runningCount_claim {request : ClaimRequest} {item : QueueItem} (keyed : plane.Keyed)
    (taken : plane.store.selected request = some item) :
    runningCount tenants (exec (.claimNextRuntimeQueueAttempt request) plane).2 ≤
      runningCount tenants plane + if tenants item.tenantId then 1 else 0 := by
  simp only [exec, claimNextRuntimeQueueAttempt, taken]
  split
  · exact Dict.countP_modify_le_succ _ _ _ _
  · rename_i other
    refine Dict.countP_modify_le _ _ _ _ fun value located counts => ?_
    have found : plane.items.get? item.id = some value := located
    rw [keyed.selected taken] at found
    cases found
    simp [other] at counts

theorem runningCount_unclaimed {request : ClaimRequest}
    (idle : plane.store.selected request = none) :
    runningCount tenants (exec (.claimNextRuntimeQueueAttempt request) plane).2 =
      runningCount tenants plane := by
  simp only [exec, claimNextRuntimeQueueAttempt, idle]
  rfl

end Counts

section Limits

variable {limits : Limits} {plane : Plane}

theorem within_of_le {next : Plane} (within : Within limits plane)
    (fewer : ∀ tenants, runningCount tenants next ≤ runningCount tenants plane) :
    Within limits next := by
  constructor
  · intro limit limited
    have bound := within.global limit limited
    have count_le := fewer fun _ => true
    rw [globalRunningCount_eq] at bound ⊢
    omega
  · intro tenantId limit limited
    have bound := within.tenant tenantId limit limited
    have count_le := fewer fun tenant => decide (tenant = tenantId)
    rw [tenantRunningCount_eq] at bound ⊢
    omega

theorem within_claim (within : Within limits plane) (keyed : plane.Keyed)
    {request : ClaimRequest} (global_eq : request.globalRunningLimit = limits.global)
    (tenant_eq : request.tenantRunningLimits = limits.tenant) :
    Within limits (exec (.claimNextRuntimeQueueAttempt request) plane).2 := by
  cases taken : plane.store.selected request with
  | none => exact within_of_le within fun tenants => (runningCount_unclaimed tenants taken).le
  | some item =>
      have rooms := (selected_spec taken).2.2.2.2
      constructor
      · intro limit limited
        have room : plane.store.globallySaturated request = false := rooms.1
        have grown := runningCount_claim (fun _ => true) keyed taken
        simp only [globallySaturated, global_eq, Option.mem_def.mp limited,
          Option.any_some, decide_eq_false_iff_not, not_le] at room
        rw [globalRunningCount_eq] at room ⊢
        simp only [if_true] at grown
        omega
      · intro tenantId limit limited
        have grown := runningCount_claim (fun tenant => decide (tenant = tenantId)) keyed taken
        have bound := within.tenant tenantId limit limited
        rw [tenantRunningCount_eq] at bound ⊢
        by_cases same : item.tenantId = tenantId
        · have room : plane.store.tenantSaturated request item = false := rooms.2
          simp only [tenantSaturated, tenant_eq, same,
            Option.mem_def.mp limited, Option.any_some, decide_eq_false_iff_not, not_le] at room
          rw [tenantRunningCount_eq] at room
          simp only [same, decide_true, if_true] at grown
          omega
        · simp only [same, decide_false, Bool.false_eq_true, if_false] at grown
          omega

end Limits

/-- Every operation is sane. -/
def contract : Contract Op Plane where
  rely _ _ := True
  allowed _ _ _ := True
  guar op _ := op.Sane
  rely_refl _ := trivial
  rely_trans _ _ _ _ _ := trivial

def phases (bundle : ClaimBundle) : WorkerPhases contract bundle where
  holds _ _ := True
  runOpen _ := True
  stable _ _ _ _ _ := trivial
  stable_open _ _ _ _ := trivial
  relax _ _ _ _ := trivial
  observe _ _ _ _ := trivial
  aside _ _ _ items _ _ _ := ⟨Op.sane_of_untouched items, fun _ _ => trivial⟩
  open_aside _ _ _ _ := trivial
  insertRun _ _ _ _ _ _ _ := ⟨trivial, trivial, trivial⟩
  updateRun _ _ _ _ _ _ _ _ := ⟨trivial, trivial⟩
  markRunning _ _ _ status kept _ _ := ⟨.inl ⟨.inl status, kept⟩, trivial⟩
  release _ _ _ _ releases _ _ := ⟨releases.sane, trivial⟩
  heartbeat _ _ _ _ _ := ⟨trivial, trivial⟩
  recordProfile _ _ _ _ _ _ _ := ⟨trivial, trivial⟩
  closeAttempt _ _ _ _ _ _ _ := ⟨trivial, trivial⟩

section System

variable {limits : Limits} {system : System OperatorCall}

/-- The limits hold, and every thread is sane. -/
structure Inv (limits : Limits) (system : System OperatorCall) : Prop where
  within : Within limits system.state
  keyed : system.state.Keyed
  sound : Pool.Sound exec (fun _ => contract) system

theorem call_meets (call : OperatorCall) (plane : Plane) :
    contract.Meets exec [] call.program (fun _ _ _ => True) plane := by
  have triple : contract.Triple exec (fun _ => True) call.program
      (fun _ _ => True ∧ True) (fun _ _ => True) :=
    triple_of_yields call.program_performs (fun _ _ _ _ => trivial)
      fun op _ _ performs _ _ => ⟨performs.sane, trivial⟩
  exact (triple [] plane trivial).mono fun _ _ _ _ => trivial

theorem Inv.initial {clock : Datetime} {artifacts : JsonArtifactStore}
    (global_nonneg : ∀ limit ∈ limits.global, 0 ≤ limit)
    (tenant_nonneg : ∀ tenantId, ∀ limit ∈ limits.tenant tenantId, 0 ≤ limit) :
    Inv limits (System.initial clock artifacts) where
  within := ⟨global_nonneg, tenant_nonneg⟩
  keyed _ _ found := by cases found
  sound index thread found := by simp [System.initial] at found

theorem Inv.perform (inv : Inv limits system) {index : Nat}
    (finds : FindsExecuting system (.perform index)) :
    Inv limits (Pool.step exec system index) := by
  cases found : system.threads[index]? with
  | none => rwa [Pool.step_of_none exec found]
  | some thread =>
      have sound := inv.sound.step found (fun _ _ => trivial) fun _ _ _ _ _ => trivial
      have state_eq : (Pool.step exec system index).state = thread.effect exec system.state := by
        rw [Pool.step_of_thread exec found]
      cases next : thread.nextOp with
      | none =>
          rw [Thread.effect_of_done exec next] at state_eq
          exact ⟨state_eq ▸ inv.within, state_eq ▸ inv.keyed, sound⟩
      | some op =>
          rw [Thread.effect_of_nextOp exec next] at state_eq
          have sane : op.Sane := inv.sound.guar found next trivial
          have finds_op := finds op (System.nextOp_eq_some.mpr ⟨thread, found, next⟩)
          have within := within_of_le inv.within fun tenants =>
            runningCount_exec_le tenants sane finds_op
          exact ⟨state_eq ▸ within, state_eq ▸ inv.keyed.exec op, sound⟩

theorem Inv.claim (inv : Inv limits system) {worker : RuntimeQueueWorker} {claimedAt : Datetime}
    (configured : Configured limits (.claim worker claimedAt)) :
    Inv limits (system.claim worker claimedAt) := by
  have within : Within limits (exec (worker.claimOp claimedAt) system.state).2 :=
    within_claim inv.within inv.keyed configured.1 configured.2
  have keyed := inv.keyed.exec (worker.claimOp claimedAt)
  have sound : Pool.Sound exec (fun _ => contract)
      ({ system with state := (exec (worker.claimOp claimedAt) system.state).2 } :
        System OperatorCall) := inv.sound.of_rely fun _ _ _ _ => trivial
  unfold System.claim
  split
  · exact ⟨within, keyed, sound⟩
  · exact ⟨within, keyed, sound.spawn ((phases _).serve_meets worker trivial)⟩

theorem Inv.step (inv : Inv limits system) {event : Event OperatorCall}
    (configured : Configured limits event) (finds : FindsExecuting system event) :
    Inv limits (system.step OperatorCall.program event) := by
  cases event with
  | tick micros =>
      exact ⟨⟨inv.within.global, inv.within.tenant⟩, inv.keyed,
        inv.sound.of_rely fun _ _ _ _ => trivial⟩
  | call call => exact ⟨inv.within, inv.keyed, inv.sound.spawn (call_meets call _)⟩
  | claim worker claimedAt =>
      by_cases past : claimedAt ≤ system.state.clock
      · simpa [System.step, past] using inv.claim configured
      · simpa [System.step, past] using inv
  | perform index => exact inv.perform finds
  | crash index => exact ⟨inv.within, inv.keyed, inv.sound.crash⟩

end System

/-- With limits that are not negative, a run in which `mark_running` finds only executing items
stays within the limits. -/
theorem running_limits (limits : Limits) (clock : Datetime) (artifacts : JsonArtifactStore)
    (events : List (Event OperatorCall))
    (global_nonneg : ∀ limit ∈ limits.global, 0 ≤ limit)
    (tenant_nonneg : ∀ tenantId, ∀ limit ∈ limits.tenant tenantId, 0 ≤ limit)
    (configured : ∀ event ∈ events, Configured limits event)
    (finds : Steps (System.step OperatorCall.program) FindsExecuting
      (System.initial clock artifacts) events) :
    Within limits ((System.initial clock artifacts).after OperatorCall.program events).state := by
  have both := finds.and (steps_of_forall (System.step OperatorCall.program)
    (System.initial clock artifacts) fun _ event member => configured event member)
  have inv := both.invariant (Inv limits) (Inv.initial global_nonneg tenant_nonneg)
    fun system event inv careful => inv.step careful.2 careful.1
  exact inv.within

/-- A deployment that runs one item at a time. -/
def oneAtATime : Limits := ⟨some 1, fun _ => none⟩

def limitedWorker (workerId : Text) : RuntimeQueueWorker :=
  { Sample.worker workerId with config := { Sample.config with globalRunningLimit := some 1 } }

/-- Two items; `worker-a` marks its item running, and `worker-b` finds no room. -/
def orderly : List (Event OperatorCall) :=
  Event.call (Sample.enqueue "task-a" "tenant-a") :: List.replicate 4 (.perform 0) ++
    Event.call (Sample.enqueue "task-b" "tenant-b") :: List.replicate 4 (.perform 1) ++
    Event.claim (limitedWorker "worker-a") Sample.clock :: List.replicate 37 (.perform 2) ++
    [Event.claim (limitedWorker "worker-b") Sample.clock]

theorem running_limits_orderly :
    Within oneAtATime ((System.initial Sample.clock .empty).after OperatorCall.program
      orderly).state :=
  running_limits oneAtATime Sample.clock .empty orderly (by decide) (by simp [oneAtATime])
    (by simp [orderly, Configured, limitedWorker, oneAtATime, Sample.worker, Sample.config])
    (by decide +kernel)

/-- The lease of `worker-a` runs out just before it marks its item as running, and `worker-b` takes
another item meanwhile. -/
def revived : List (Event OperatorCall) :=
  Event.call (Sample.enqueue "task-a" "tenant-a") :: List.replicate 4 (.perform 0) ++
    Event.claim (limitedWorker "worker-a") Sample.clock :: List.replicate 36 (.perform 1) ++
    [Event.tick 301000000, .call .recover, .perform 2, .perform 2,
      .call (Sample.enqueue "task-b" "tenant-b" 1), .perform 3, .perform 3, .perform 3, .perform 3,
      .claim (limitedWorker "worker-b") (Sample.clock + 301000000), .perform 1]

/-- Both items run under a limit of one. -/
theorem revived_over_limit :
    (∀ event ∈ revived, Configured oneAtATime event) ∧
      ¬Within oneAtATime ((System.initial Sample.clock .empty).after OperatorCall.program
        revived).state := by
  constructor
  · simp [revived, Configured, limitedWorker, oneAtATime, Sample.worker, Sample.config]
  · intro within
    have bound := within.global 1 rfl
    have running : ((System.initial Sample.clock .empty).after OperatorCall.program
        revived).state.store.globalRunningCount = 2 := by
      decide +kernel
    omega

end RunningLimits

end SkillCentric
