import SkillCentric.Properties.Ownership
import SkillCentric.Runtime.SlugFixpoints

/-!
# Run identity

A claim names its run after the task and the attempt number, and its attempt row after the queue
identifier and the attempt number.  The names are new as long as they are not cut and no other item
with the same task slug was attempted as often.
-/

namespace SkillCentric

open Contract RuntimeQueueManager Slug

namespace RunIdentity

/-- Everything but cancellations. -/
def InScope : Event OperatorCall → Bool
  | .call (.cancel _ _) => false
  | _ => true

/-- The identifiers of attempt `n` fit into 96 characters. -/
def Fits (item : QueueItem) (n : Nat) : Prop :=
  (slugStem (item.taskId ++ ("-attempt-" : Text) ++ decimal n) "run").length ≤ 96 ∧
    (slugStem (item.id ++ ("-attempt-" : Text) ++ decimal n) "attempt").length ≤ 96

instance (item : QueueItem) (n : Nat) : Decidable (Fits item n) :=
  inferInstanceAs (Decidable (_ ∧ _))

/-- The claim of an item whose identifiers fit, and with the same task slug no other item was
attempted as often. -/
def Fresh (plane : Plane) (item : QueueItem) : Prop :=
  Fits item (item.attempts + 1) ∧
    ∀ other ∈ plane.items.values, other.id ≠ item.id →
      joinStem other.taskId "run" = joinStem item.taskId "run" → other.attempts ≤ item.attempts

instance (plane : Plane) (item : QueueItem) : Decidable (Fresh plane item) :=
  inferInstanceAs (Decidable (_ ∧ _))

/-- Claims are fresh, and no insert lands on another item. -/
def Distinguished (system : System OperatorCall) : Event OperatorCall → Prop
  | .claim worker claimedAt =>
      ∀ item ∈ system.state.store.selected
        (claimRequest worker.config worker.workerId claimedAt), Fresh system.state item
  | .perform index => ∀ op ∈ system.nextOp index, ¬Overwrites system.state op
  | _ => True

instance (system : System OperatorCall) (event : Event OperatorCall) :
    Decidable (Distinguished system event) := by
  unfold Distinguished
  rcases event with ⟨⟩ <;> infer_instance

/-- Runs and attempts that have ended are as they were. -/
structure Kept (before after : Plane) : Prop where
  run : ∀ runId run, before.runs.get? runId = some run → run.status.terminal →
    after.runs.get? runId = some run
  attempt : ∀ attemptId row, before.attempts.get? attemptId = some row → row.status ≠ .running →
    after.attempts.get? attemptId = some row

/-- A claim names a run no earlier claim named, a run is inserted where there was none, and what
has ended is kept. -/
structure Identified (system : System OperatorCall) (event : Event OperatorCall) : Prop where
  claim : ∀ worker claimedAt, event = .claim worker claimedAt →
    ∀ item ∈ system.state.store.selected
      (claimRequest worker.config worker.workerId claimedAt),
      ∀ thread ∈ system.threads, ∀ bundle ∈ thread.info.claim,
        bundle.attempt.runId ≠ attemptRunId item (item.attempts + 1)
  insert : ∀ index record, event = .perform index →
    system.nextOp index = some (.insertRuntimeRun record) →
    system.state.runs.get? record.id = none
  kept : Kept system.state (system.step OperatorCall.program event).state

/-- Identifiers that are not cut. -/
structure WellNamed (bundle : ClaimBundle) : Prop where
  run : bundle.attempt.runId = joinStem bundle.queueItem.taskId "run" ++
    ("-attempt-" : Text) ++ decimal bundle.queueItem.attempts
  attempt : bundle.attempt.id = ("attempt" : Text) ++ '-' :: bundle.queueItem.id ++
    ("-attempt-" : Text) ++ decimal bundle.queueItem.attempts

theorem queue_word : IsWord ("queue" : Text) := by decide

theorem joinStem_queueIdOf (key : Text) :
    joinStem (queueIdOf key) "attempt" = ("attempt" : Text) ++ '-' :: queueIdOf key :=
  joinStem_slugId key queue_word rfl (by decide) (by decide) (by decide)

theorem wellNamed_bundle {item : QueueItem} (request : ClaimRequest)
    (slugged : item.id = queueIdOf item.idempotencyKey) (fits : Fits item (item.attempts + 1)) :
    WellNamed (item.bundle request) := by
  have run_word : IsWord ("run" : Text) := by decide
  have attempt_word : IsWord ("attempt" : Text) := by decide
  have id_ne : normal item.id ≠ [] := by
    rw [slugged, queueIdOf, normal_slugId _ (.inr queue_word)]
    exact slugId_ne_nil _ (.inr queue_word)
  constructor
  · have uncut := slugId_eq_stem (.inr run_word) fits.1
    rw [slugStem_attempt _ run_word (.inr (by decide))] at uncut
    rw [QueueItem.bundle_runId, QueueItem.bundle_queueItem, attemptRunId, uncut]
    rfl
  · have uncut := slugId_eq_stem (.inr attempt_word) fits.2
    have stem_eq : joinStem item.id "attempt" = ("attempt" : Text) ++ '-' :: item.id := by
      rw [slugged]
      exact joinStem_queueIdOf item.idempotencyKey
    rw [slugStem_attempt _ attempt_word (.inl id_ne), stem_eq] at uncut
    rw [QueueItem.bundle_attemptId, QueueItem.bundle_queueItem, attemptIdOf, uncut]
    rfl

section Names

variable {plane : Plane} {bundle : ClaimBundle} {item : QueueItem} {request : ClaimRequest}

/-- The bundle's item is still the one that was claimed. -/
def Traced (plane : Plane) (bundle : ClaimBundle) : Prop :=
  ∃ item, plane.items.get? bundle.queueItem.id = some item ∧
    item.identity = bundle.queueItem.identity ∧ bundle.queueItem.attempts ≤ item.attempts

theorem Traced.kept {op : Op} (traced : Traced plane bundle) (intact : ¬Overwrites plane op) :
    Traced (exec op plane).2 bundle := by
  obtain ⟨item, found, identity, counted⟩ := traced
  obtain ⟨item', found', identity', grown⟩ := exec_identity intact found
  exact ⟨item', found', identity'.trans identity, counted.trans grown⟩

theorem Traced.earlier (traced : Traced plane bundle)
    (found : plane.items.get? item.id = some item) (same : bundle.queueItem.id = item.id) :
    bundle.queueItem.attempts ≠ item.attempts + 1 := by
  obtain ⟨stored, located, -, counted⟩ := traced
  rw [same, found] at located
  cases located
  omega

theorem Traced.run_ne (traced : Traced plane bundle) (keyed : plane.Keyed)
    (named : WellNamed bundle) (next : WellNamed (item.bundle request))
    (found : plane.items.get? item.id = some item) (fresh : Fresh plane item) :
    bundle.attempt.runId ≠ (item.bundle request).attempt.runId := by
  intro equal
  rw [named.run, next.run] at equal
  obtain ⟨stems, numbers⟩ := attempt_suffix_injective equal
  by_cases same : bundle.queueItem.id = item.id
  · exact traced.earlier found same numbers
  · obtain ⟨stored, located, identity, counted⟩ := traced
    have stored_id : stored.id = bundle.queueItem.id := keyed _ _ located
    have task_eq : stored.taskId = bundle.queueItem.taskId :=
      congrArg QueueItem.Identity.taskId identity
    have member : stored ∈ plane.items.values := (Dict.mem_values_iff _ _).mpr ⟨_, located⟩
    have fewer := fresh.2 stored member (by rwa [stored_id]) (by rw [task_eq]; exact stems)
    have number : bundle.queueItem.attempts = item.attempts + 1 := numbers
    omega

theorem Traced.attempt_ne (traced : Traced plane bundle) (named : WellNamed bundle)
    (next : WellNamed (item.bundle request)) (found : plane.items.get? item.id = some item) :
    bundle.attempt.id ≠ (item.bundle request).attempt.id := by
  intro equal
  rw [named.attempt, next.attempt] at equal
  obtain ⟨stems, numbers⟩ := attempt_suffix_injective equal
  have same : bundle.queueItem.id = item.id := by
    have tails := List.append_cancel_left stems
    injection tails
  exact traced.earlier found same numbers

end Names

/-- Runs are inserted where there were none, and runs and attempts are written while they are
open. -/
def OpenWrite (plane : Plane) : Op → Prop
  | .insertRuntimeRun record => plane.runs.get? record.id = none
  | .updateRuntimeRun runId _ =>
      ∀ run, plane.runs.get? runId = some run → run.status.terminal = false
  | .updateRuntimeRunAttempt attemptId _ =>
      ∀ row, plane.attempts.get? attemptId = some row → row.status = .running
  | _ => True

/-- Runs and attempts are written under the names of the bundle only. -/
def OwnWrite (bundle : ClaimBundle) : Op → Prop
  | .insertRuntimeRun record => record.id = bundle.attempt.runId
  | .updateRuntimeRun runId _ => runId = bundle.attempt.runId
  | .updateRuntimeRunAttempt attemptId _ => attemptId = bundle.attempt.id
  | .insertRuntimeQueueItem _ => False
  | _ => True

/-- Operators insert items under their own keys, and no runs or attempts. -/
def CallWrite : Op → Prop
  | .insertRuntimeQueueItem record => record.id = queueIdOf record.idempotencyKey
  | op => op.touchesRuns = false ∧ op.touchesAttempts = false

/-- Nobody else writes the run and the attempt of a worker. -/
def contract : Role OperatorCall → Contract Op Plane
  | .worker _ bundle =>
      { rely := fun before after =>
          after.runs.get? bundle.attempt.runId = before.runs.get? bundle.attempt.runId ∧
            after.attempts.get? bundle.attempt.id = before.attempts.get? bundle.attempt.id
        allowed := fun _ _ _ => True
        guar := fun op plane => op.Sane ∧ OpenWrite plane op ∧ OwnWrite bundle op
        rely_refl := fun _ => ⟨rfl, rfl⟩
        rely_trans := fun _ _ _ first second =>
          ⟨second.1.trans first.1, second.2.trans first.2⟩ }
  | .operator _ =>
      { rely := fun _ _ => True
        allowed := fun _ _ _ => True
        guar := fun op _ => op.Sane ∧ CallWrite op
        rely_refl := fun _ => trivial
        rely_trans := fun _ _ _ _ _ => trivial }

section Worker

variable {bundle : ClaimBundle} {plane : Plane} {op : Op}

/-- The attempt is running. -/
def AttemptOpen (bundle : ClaimBundle) (plane : Plane) : Prop :=
  ∀ row, plane.attempts.get? bundle.attempt.id = some row → row.status = .running

/-- The run has not ended. -/
def RunOpen (bundle : ClaimBundle) (plane : Plane) : Prop :=
  ∀ run, plane.runs.get? bundle.attempt.runId = some run → run.status.terminal = false

theorem AttemptOpen.of_untouched (attempts : op.touchesAttempts = false)
    (opened : AttemptOpen bundle plane) : AttemptOpen bundle (exec op plane).2 := by
  intro row found
  rw [exec_attempts plane attempts] at found
  exact opened row found

theorem AttemptOpen.profile {attemptId runId profileId profileSha256 : Text}
    (opened : AttemptOpen bundle plane) :
    AttemptOpen bundle (exec (.updateRuntimeRunAttempt attemptId
      (.profile runId profileId profileSha256)) plane).2 := by
  intro row found
  have change := exec_attempt plane (.updateRuntimeRunAttempt attemptId
    (.profile runId profileId profileSha256)) bundle.attempt.id
  rw [found] at change
  generalize after_eq : some row = after at change
  cases change with
  | same => exact opened row after_eq.symm
  | updated before =>
      cases after_eq
      have running := opened _ before
      exact running

theorem ownWrite_aside (items : op.touchesItems = false) (runs : op.touchesRuns = false)
    (attempts : op.touchesAttempts = false) :
    op.Sane ∧ OpenWrite plane op ∧ OwnWrite bundle op := by
  refine ⟨Op.sane_of_untouched items, ?_, ?_⟩
  · cases op <;> trivial
  · cases op <;> trivial

variable (worker : RuntimeQueueWorker) (bundle)

/-- The attempt row stays open until the worker completes it. -/
def phases : WorkerPhases (contract (.worker worker bundle)) bundle where
  holds phase plane :=
    match phase with
    | .fresh => AttemptOpen bundle plane ∧ plane.runs.get? bundle.attempt.runId = none
    | .started | .running | .released => AttemptOpen bundle plane
    | .closed => True
  runOpen := RunOpen bundle
  stable phase before after change holds := by
    have attempt_kept : AttemptOpen bundle before → AttemptOpen bundle after := by
      intro opened row found
      exact opened row (change.2.symm.trans found)
    cases phase with
    | fresh => exact ⟨attempt_kept holds.1, change.1.trans holds.2⟩
    | started => exact attempt_kept holds
    | running => exact attempt_kept holds
    | released => exact attempt_kept holds
    | closed => trivial
  stable_open _ _ change holds run found := holds run (change.1.symm.trans found)
  relax phase plane pending holds := by
    cases phase with
    | fresh => exact holds.1
    | started => exact holds
    | running => exact holds
    | released => exact holds
    | closed => exact (pending rfl).elim
  observe plane run found opened other located := by
    rw [found] at located
    cases located
    exact opened
  aside op past plane items runs attempts _ := by
    refine ⟨ownWrite_aside items runs attempts, fun phase holds => ?_⟩
    cases phase with
    | fresh => exact ⟨holds.1.of_untouched attempts, by rw [exec_runs plane runs, holds.2]⟩
    | started => exact AttemptOpen.of_untouched attempts holds
    | running => exact AttemptOpen.of_untouched attempts holds
    | released => exact AttemptOpen.of_untouched attempts holds
    | closed => trivial
  open_aside op plane runs holds run found := by
    rw [exec_runs plane runs] at found
    exact holds run found
  insertRun record past plane id_eq status holds _ := by
    refine ⟨⟨trivial, ?_, id_eq⟩, holds.1.of_untouched rfl, ?_⟩
    · change plane.runs.get? record.id = none
      rw [id_eq, holds.2]
    · intro run found
      rw [exec_insertRuntimeRun_of_absent holds.2 found, status]
      rfl
  updateRun phase fields past plane _ holds opened _ := by
    refine ⟨⟨trivial, opened, rfl⟩, ?_⟩
    cases phase with
    | fresh => exact ⟨holds.1.of_untouched rfl, exec_updateRuntimeRun_of_absent holds.2⟩
    | started => exact AttemptOpen.of_untouched rfl holds
    | running => exact AttemptOpen.of_untouched rfl holds
    | released => exact AttemptOpen.of_untouched rfl holds
    | closed => trivial
  markRunning fields past plane status kept holds _ :=
    ⟨⟨.inl ⟨.inl status, kept⟩, trivial, trivial⟩, AttemptOpen.of_untouched rfl holds⟩
  release phase fields past plane releases holds _ := by
    refine ⟨⟨releases.sane, trivial, trivial⟩, AttemptOpen.of_untouched rfl ?_⟩
    cases releases with
    | succeeded _ _ => exact holds
    | cancelled _ _ => exact holds
    | failed pending _ _ =>
        rcases pending with rfl | rfl | rfl
        · exact holds.1
        · exact holds
        · exact holds
  heartbeat fields past plane holds _ :=
    ⟨⟨trivial, trivial, trivial⟩, AttemptOpen.of_untouched rfl holds⟩
  recordProfile _ _ _ past plane holds _ := ⟨⟨trivial, holds, rfl⟩, AttemptOpen.profile holds⟩
  closeAttempt _ _ _ past plane holds _ := ⟨⟨trivial, holds, rfl⟩, trivial⟩

end Worker

theorem call_meets {call : OperatorCall} (scope : InScope (.call call)) (plane : Plane) :
    (contract (.operator call)).Meets exec [] call.program (fun _ _ _ => True) plane := by
  have triple : (contract (.operator call)).Triple exec (fun _ => True) call.program
      (fun _ _ => True ∧ True) (fun _ _ => True) := by
    refine triple_of_yields call.program_performs (fun _ _ _ _ => trivial) ?_
    intro op past now performs _ _
    refine ⟨⟨performs.sane, ?_⟩, trivial⟩
    cases op with
    | insertRuntimeQueueItem record => exact performs.2.2.2
    | updateRuntimeRun runId fields =>
        obtain ⟨-, queueId, target, rfl⟩ := performs
        cases scope
    | insertRuntimeRun record => cases performs
    | updateRuntimeRunAttempt attemptId fields => cases performs
    | claimNextRuntimeQueueAttempt request => cases performs
    | _ => exact ⟨rfl, rfl⟩
  exact (triple [] plane trivial).mono fun _ _ _ _ => trivial

section Kept

variable {plane : Plane} {op : Op}

theorem kept_exec (writes : OpenWrite plane op)
    (unclaimed : ∀ request, op ≠ .claimNextRuntimeQueueAttempt request) :
    Kept plane (exec op plane).2 where
  run runId run found ended := by
    have change := exec_run plane op runId
    generalize (exec op plane).2.runs.get? runId = after at change
    cases change with
    | same => exact found
    | inserted id_eq =>
        have absent : plane.runs.get? _ = none := writes
        rw [id_eq, found] at absent
        cases absent
    | updated before =>
        have opened := writes run found
        rw [opened] at ended
        cases ended
  attempt attemptId row found ended := by
    have change := exec_attempt plane op attemptId
    generalize (exec op plane).2.attempts.get? attemptId = after at change
    cases change with
    | same => exact found
    | claimed _ _ => exact (unclaimed _ rfl).elim
    | updated before => exact (ended (writes row found)).elim

theorem openWrite_of_call (writes : CallWrite op) : OpenWrite plane op := by
  cases op with
  | insertRuntimeRun record => cases writes.1
  | updateRuntimeRun runId fields => cases writes.1
  | updateRuntimeRunAttempt attemptId fields => cases writes.2
  | _ => trivial

end Kept

section System

variable {system : System OperatorCall}

/-- The bookkeeping: items have slugged identifiers, claims are traced, well named and distinct,
rows belong to claims, and every thread meets its contract. -/
structure Inv (system : System OperatorCall) : Prop where
  ledger : Ledger system
  sound : Pool.Sound exec contract system
  slugged : ∀ queueId item, system.state.items.get? queueId = some item →
    item.id = queueIdOf item.idempotencyKey
  traced : ∀ index worker bundle, system.Serves index worker bundle → Traced system.state bundle
  named : ∀ index worker bundle, system.Serves index worker bundle → WellNamed bundle
  runs : ∀ runId run, system.state.runs.get? runId = some run →
    system.Named (·.attempt.runId) runId
  attempts : ∀ attemptId row, system.state.attempts.get? attemptId = some row →
    system.Named (·.attempt.id) attemptId
  distinctRuns : system.Distinct (·.attempt.runId)
  distinctAttempts : system.Distinct (·.attempt.id)

theorem allowed (role : Role OperatorCall) (past : List (Op × Plane)) (op : Op) (plane : Plane) :
    (contract role).allowed past op plane := by
  cases role <;> trivial

variable {role : Role OperatorCall} {request : ClaimRequest} {op : Op}

theorem guar_spec {plane : Plane}
    (owed : (contract role).guar op plane) : op.Sane ∧ OpenWrite plane op := by
  cases role with
  | worker worker bundle => exact ⟨owed.1, owed.2.1⟩
  | operator call => exact ⟨owed.1, openWrite_of_call owed.2⟩

theorem rely_of_worker {before after : Plane}
    (kept : ∀ worker bundle, role = .worker worker bundle →
      after.runs.get? bundle.attempt.runId = before.runs.get? bundle.attempt.runId ∧
        after.attempts.get? bundle.attempt.id = before.attempts.get? bundle.attempt.id) :
    (contract role).rely before after := by
  cases role with
  | worker worker bundle => exact kept worker bundle rfl
  | operator call => trivial

theorem slugged_exec {plane : Plane} (owed : (contract role).guar op plane)
    (slugged : ∀ queueId item, plane.items.get? queueId = some item →
      item.id = queueIdOf item.idempotencyKey) {queueId : Text} {item : QueueItem}
    (found : (exec op plane).2.items.get? queueId = some item) :
    item.id = queueIdOf item.idempotencyKey := by
  have keep : ∀ before after : QueueItem, after.identity = before.identity →
      before.id = queueIdOf before.idempotencyKey → after.id = queueIdOf after.idempotencyKey := by
    intro before after same before_eq
    have id_eq : after.id = before.id := congrArg QueueItem.Identity.id same
    have key_eq : after.idempotencyKey = before.idempotencyKey :=
      congrArg QueueItem.Identity.idempotencyKey same
    rw [id_eq, key_eq, before_eq]
  have change := exec_item plane op queueId
  rw [found] at change
  generalize after_eq : some item = after at change
  cases change with
  | same => exact slugged queueId item after_eq.symm
  | inserted _ _ =>
      cases after_eq
      cases role with
      | worker worker bundle => exact owed.2.2.elim
      | operator call => exact owed.2
  | updated before =>
      cases after_eq
      exact keep _ _ (by simp) (slugged queueId _ before)
  | refreshed before =>
      cases after_eq
      exact keep _ _ (by simp) (slugged queueId _ before)
  | claimed _ _ before =>
      cases after_eq
      exact keep _ _ (by simp) (slugged queueId _ before)
  | recovered before _ =>
      cases after_eq
      exact keep _ _ (by simp) (slugged queueId _ before)

theorem rows_perform (inv : Inv system) {index other : Nat} (differ : other ≠ index)
    {thread peer : Thread Op.Reply Plane (Role OperatorCall) PyError Unit}
    (found : system.threads[index]? = some thread) (next : thread.nextOp = some op)
    (peer_found : system.threads[other]? = some peer) {worker : RuntimeQueueWorker}
    {bundle : ClaimBundle} (role : peer.info = .worker worker bundle) :
    (exec op system.state).2.runs.get? bundle.attempt.runId =
        system.state.runs.get? bundle.attempt.runId ∧
      (exec op system.state).2.attempts.get? bundle.attempt.id =
        system.state.attempts.get? bundle.attempt.id := by
  have owed := inv.sound.guar found next (allowed _ _ _ _)
  have serves : system.Serves other worker bundle := ⟨peer, peer_found, role⟩
  have run_change := exec_run system.state op bundle.attempt.runId
  have attempt_change := exec_attempt system.state op bundle.attempt.id
  cases performer : thread.info with
  | worker ownWorker ownBundle =>
      rw [performer] at owed
      have own_serves : system.Serves index ownWorker ownBundle := ⟨thread, found, performer⟩
      have runs_ne := inv.distinctRuns other index worker ownWorker bundle ownBundle differ serves
        own_serves
      have attempts_ne := inv.distinctAttempts other index worker ownWorker bundle ownBundle differ
        serves own_serves
      constructor
      · generalize (exec op system.state).2.runs.get? bundle.attempt.runId = after at run_change
        cases run_change with
        | same => rfl
        | inserted id_eq => exact (runs_ne (id_eq.symm.trans owed.2.2)).elim
        | updated _ => exact (runs_ne owed.2.2).elim
      · generalize (exec op system.state).2.attempts.get? bundle.attempt.id = after
          at attempt_change
        cases attempt_change with
        | same => rfl
        | claimed _ _ => exact owed.1.elim
        | updated _ => exact (attempts_ne owed.2.2).elim
  | operator call =>
      rw [performer] at owed
      constructor
      · generalize (exec op system.state).2.runs.get? bundle.attempt.runId = after at run_change
        cases run_change with
        | same => rfl
        | inserted _ => cases owed.2.1
        | updated _ => cases owed.2.1
      · generalize (exec op system.state).2.attempts.get? bundle.attempt.id = after
          at attempt_change
        cases attempt_change with
        | same => rfl
        | claimed _ _ => exact owed.1.elim
        | updated _ => cases owed.2.2

theorem owners_perform (inv : Inv system) {index : Nat}
    {thread : Thread Op.Reply Plane (Role OperatorCall) PyError Unit}
    (found : system.threads[index]? = some thread) (next : thread.nextOp = some op) :
    (∀ runId run, (exec op system.state).2.runs.get? runId = some run →
      system.Named (·.attempt.runId) runId) ∧
    ∀ attemptId row, (exec op system.state).2.attempts.get? attemptId = some row →
      system.Named (·.attempt.id) attemptId := by
  have owed := inv.sound.guar found next (allowed _ _ _ _)
  constructor
  · intro runId run located
    have change := exec_run system.state op runId
    rw [located] at change
    generalize after_eq : some run = after at change
    cases change with
    | same => exact inv.runs runId run after_eq.symm
    | inserted id_eq =>
        cases performer : thread.info with
        | worker worker bundle =>
            rw [performer] at owed
            exact ⟨index, worker, bundle, ⟨thread, found, performer⟩, owed.2.2.symm.trans id_eq⟩
        | operator call =>
            rw [performer] at owed
            cases owed.2.1
    | updated before => exact inv.runs runId _ before
  · intro attemptId row located
    have change := exec_attempt system.state op attemptId
    rw [located] at change
    generalize after_eq : some row = after at change
    cases change with
    | same => exact inv.attempts attemptId row after_eq.symm
    | claimed _ _ => exact (guar_spec owed).1.elim
    | updated before => exact inv.attempts attemptId _ before

theorem Inv.initial (clock : Datetime) (artifacts : JsonArtifactStore) :
    Inv (System.initial clock artifacts) where
  ledger := Ledger.initial clock artifacts
  sound index thread found := by simp [System.initial] at found
  slugged _ _ found := by cases found
  traced _ _ _ := by
    rintro ⟨thread, found, _⟩
    simp [System.initial] at found
  named _ _ _ := by
    rintro ⟨thread, found, _⟩
    simp [System.initial] at found
  runs _ _ found := by cases found
  attempts _ _ found := by cases found
  distinctRuns _ _ _ _ _ _ _ := by
    rintro ⟨thread, found, _⟩
    simp [System.initial] at found
  distinctAttempts _ _ _ _ _ _ _ := by
    rintro ⟨thread, found, _⟩
    simp [System.initial] at found

theorem Inv.perform (inv : Inv system) {index : Nat}
    (distinguished : Distinguished system (.perform index)) :
    Inv (Pool.step exec system index) := by
  cases found : system.threads[index]? with
  | none => rwa [Pool.step_of_none exec found]
  | some thread =>
      have owed : ∀ op, thread.nextOp = some op → (contract thread.info).guar op system.state :=
        fun op next => inv.sound.guar found next (allowed _ _ _ _)
      have intact : ∀ op, thread.nextOp = some op → ¬Overwrites system.state op := fun op next =>
        distinguished op (System.nextOp_eq_some.mpr ⟨thread, found, next⟩)
      have ledger := inv.ledger.perform found (fun op next => (guar_spec (owed op next)).1) intact
      have sound : Pool.Sound exec contract (Pool.step exec system index) := by
        refine inv.sound.step found (fun _ _ => allowed _ _ _ _) ?_
        intro other peer differ peer_found _
        refine rely_of_worker fun worker bundle role => ?_
        cases next : thread.nextOp with
        | none =>
            rw [Thread.effect_of_done exec next]
            exact ⟨rfl, rfl⟩
        | some op =>
            rw [Thread.effect_of_nextOp exec next]
            exact rows_perform inv differ found next peer_found role
      have state_eq : (Pool.step exec system index).state = thread.effect exec system.state := by
        rw [Pool.step_of_thread exec found]
      have served : ∀ other worker bundle,
          System.Serves (Pool.step exec system index) other worker bundle →
          system.Serves other worker bundle := fun _ _ _ => System.serves_step.mp
      have plane_facts : (∀ queueId item,
            (Pool.step exec system index).state.items.get? queueId = some item →
              item.id = queueIdOf item.idempotencyKey) ∧
          (∀ bundle, Traced system.state bundle →
            Traced (Pool.step exec system index).state bundle) ∧
          (∀ runId run, (Pool.step exec system index).state.runs.get? runId = some run →
            system.Named (·.attempt.runId) runId) ∧
          ∀ attemptId row, (Pool.step exec system index).state.attempts.get? attemptId = some row →
            system.Named (·.attempt.id) attemptId := by
        rw [state_eq]
        cases next : thread.nextOp with
        | none =>
            rw [Thread.effect_of_done exec next]
            exact ⟨inv.slugged, fun _ traced => traced, inv.runs, inv.attempts⟩
        | some op =>
            rw [Thread.effect_of_nextOp exec next]
            have owners := owners_perform inv found next
            exact ⟨fun queueId item located => slugged_exec (owed op next) inv.slugged located,
              fun bundle traced => traced.kept (intact op next), owners.1, owners.2⟩
      obtain ⟨slugged, traced, runs, attempts⟩ := plane_facts
      exact
        { ledger
          sound
          slugged
          traced := fun other worker bundle serves =>
            traced bundle (inv.traced other worker bundle (served _ _ _ serves))
          named := fun other worker bundle serves =>
            inv.named other worker bundle (served _ _ _ serves)
          runs := fun runId run located => (runs runId run located).step index
          attempts := fun attemptId row located => (attempts attemptId row located).step index
          distinctRuns := inv.distinctRuns.step index
          distinctAttempts := inv.distinctAttempts.step index }

theorem Inv.names_fresh (inv : Inv system) {item : QueueItem}
    (taken : system.state.store.selected request = some item) (fresh : Fresh system.state item) :
    ∀ thread ∈ system.threads, ∀ bundle ∈ thread.info.claim,
      bundle.attempt.runId ≠ (item.bundle request).attempt.runId ∧
        bundle.attempt.id ≠ (item.bundle request).attempt.id := by
  intro thread member bundle claims
  obtain ⟨index, worker, serves⟩ := System.serves_of_member member claims
  have found := inv.ledger.keyed.selected taken
  have traced := inv.traced index worker bundle serves
  have named := inv.named index worker bundle serves
  have next := wellNamed_bundle request (inv.slugged _ _ found) fresh.1
  exact ⟨traced.run_ne inv.ledger.keyed named next found fresh,
    traced.attempt_ne named next found⟩

theorem attempts_claim (inv : Inv system) {attemptId : Text} {row : RunAttempt}
    (located : (exec (.claimNextRuntimeQueueAttempt request) system.state).2.attempts.get?
      attemptId = some row) :
    system.Named (·.attempt.id) attemptId ∨
      ∃ item, system.state.store.selected request = some item ∧
        (item.bundle request).attempt.id = attemptId ∧ row.status = .running := by
  have change := exec_attempt system.state (.claimNextRuntimeQueueAttempt request) attemptId
  rw [located] at change
  generalize after_eq : some row = after at change
  cases change with
  | same => exact .inl (inv.attempts attemptId row after_eq.symm)
  | claimed taken id_eq =>
      have row_eq := Option.some.inj after_eq
      subst row_eq
      exact .inr ⟨_, taken, id_eq, rfl⟩

theorem rows_claim {bundle : ClaimBundle}
    (new : ∀ item, system.state.store.selected request = some item →
      bundle.attempt.id ≠ (item.bundle request).attempt.id) :
    (exec (.claimNextRuntimeQueueAttempt request) system.state).2.runs.get?
        bundle.attempt.runId = system.state.runs.get? bundle.attempt.runId ∧
      (exec (.claimNextRuntimeQueueAttempt request) system.state).2.attempts.get?
        bundle.attempt.id = system.state.attempts.get? bundle.attempt.id := by
  refine ⟨by rw [exec_runs system.state rfl], ?_⟩
  have change := exec_attempt system.state (.claimNextRuntimeQueueAttempt request)
    bundle.attempt.id
  generalize (exec (.claimNextRuntimeQueueAttempt request) system.state).2.attempts.get?
    bundle.attempt.id = after at change
  cases change with
  | same => rfl
  | claimed taken id_eq => exact (new _ taken id_eq.symm).elim

theorem slugged_claim (inv : Inv system) {queueId : Text} {item : QueueItem}
    (found : (exec (.claimNextRuntimeQueueAttempt request) system.state).2.items.get? queueId =
      some item) : item.id = queueIdOf item.idempotencyKey := by
  have change := exec_item system.state (.claimNextRuntimeQueueAttempt request) queueId
  rw [found] at change
  generalize after_eq : some item = after at change
  cases change with
  | same => exact inv.slugged queueId item after_eq.symm
  | claimed _ _ before =>
      cases after_eq
      have slug := inv.slugged queueId _ before
      exact slug

theorem Inv.claim (inv : Inv system) {worker : RuntimeQueueWorker} {claimedAt : Datetime}
    (distinguished : Distinguished system (.claim worker claimedAt)) :
    Inv (system.claim worker claimedAt) := by
  have ledger := inv.ledger.claim worker claimedAt
  have names := fun item taken => inv.names_fresh taken (distinguished item taken)
  have sound : Pool.Sound exec contract
      ({ system with state := (exec (worker.claimOp claimedAt) system.state).2 } :
        System OperatorCall) := by
    refine inv.sound.of_rely fun index thread found _ => rely_of_worker fun other bundle role => ?_
    refine rows_claim fun item taken => ?_
    exact (names item taken thread (List.mem_of_getElem? found) bundle (by rw [role]; rfl)).2
  have traced : ∀ index other bundle, system.Serves index other bundle →
      Traced (exec (worker.claimOp claimedAt) system.state).2 bundle :=
        fun index other bundle serves =>
    (inv.traced index other bundle serves).kept (by simp [RuntimeQueueWorker.claimOp, Overwrites])
  have runs_eq : (exec (worker.claimOp claimedAt) system.state).2.runs = system.state.runs :=
    exec_runs system.state rfl
  revert ledger
  unfold System.claim
  cases taken : system.state.store.selected
      (claimRequest worker.config worker.workerId claimedAt) with
  | none =>
      intro ledger
      exact
        { ledger
          sound
          slugged := fun queueId item found => slugged_claim inv found
          traced
          named := inv.named
          runs := fun runId run found => inv.runs runId run (by rw [← runs_eq]; exact found)
          attempts := by
            intro attemptId row found
            refine (attempts_claim inv found).resolve_right ?_
            rintro ⟨item, selected, -⟩
            rw [taken] at selected
            cases selected
          distinctRuns := inv.distinctRuns
          distinctAttempts := inv.distinctAttempts }
  | some item =>
      intro ledger
      have fresh := names item taken
      have found := inv.ledger.keyed.selected taken
      have stored := inv.ledger.keyed.claimed_item taken
      have named := wellNamed_bundle (claimRequest worker.config worker.workerId claimedAt)
        (inv.slugged _ _ found) (distinguished item taken).1
      exact
        { ledger
          sound := by
            refine sound.spawn ((phases _ worker).serve_meets worker ⟨?_, ?_⟩)
            · intro row located
              rcases attempts_claim inv located with old | ⟨_, _, _, running⟩
              · exact (System.not_named (fun thread member bundle claims =>
                  (fresh thread member bundle claims).2) old).elim
              · exact running
            · change (exec (worker.claimOp claimedAt) system.state).2.runs.get? _ = none
              rw [runs_eq]
              generalize run_eq : system.state.runs.get? _ = run
              cases run with
              | none => rfl
              | some run =>
                  exact (System.not_named (fun thread member bundle claims =>
                    (fresh thread member bundle claims).1) (inv.runs _ run run_eq)).elim
          slugged := fun queueId other located => slugged_claim inv located
          traced := by
            intro index other bundle serves
            rcases System.Serves.of_spawn serves with old | ⟨-, role⟩
            · exact traced index other bundle old
            · injection role with _ bundle_eq
              rw [← bundle_eq]
              exact ⟨_, stored, rfl, le_refl _⟩
          named := by
            intro index other bundle serves
            rcases System.Serves.of_spawn serves with old | ⟨-, role⟩
            · exact inv.named index other bundle old
            · injection role with _ bundle_eq
              rw [← bundle_eq]
              exact named
          runs := by
            intro runId run located
            have old : system.state.runs.get? runId = some run := by
              rw [← runs_eq]
              exact located
            exact (inv.runs runId run old).spawn
          attempts := by
            intro attemptId row located
            rcases attempts_claim inv located with old | ⟨selected, selected_eq, id_eq, -⟩
            · exact old.spawn
            · rw [taken] at selected_eq
              cases selected_eq
              exact ⟨system.threads.length, worker, _, ⟨_, List.getElem?_concat_length, rfl⟩, id_eq⟩
          distinctRuns := by
            refine System.Distinct.spawn inv.distinctRuns fun bundle claimed => ?_
            obtain rfl : item.bundle _ = bundle := Option.some.inj claimed
            exact fun thread member other claims => (fresh thread member other claims).1
          distinctAttempts := by
            refine System.Distinct.spawn inv.distinctAttempts fun bundle claimed => ?_
            obtain rfl : item.bundle _ = bundle := Option.some.inj claimed
            exact fun thread member other claims => (fresh thread member other claims).2 }

theorem Inv.step (inv : Inv system) {event : Event OperatorCall} (scope : InScope event)
    (distinguished : Distinguished system event) :
    Inv (system.step OperatorCall.program event) := by
  cases event with
  | tick micros =>
      exact
        { inv with
          ledger := inv.ledger.tick _
          sound := inv.sound.of_rely fun _ _ _ _ => rely_of_worker fun _ _ _ => ⟨rfl, rfl⟩ }
  | call call =>
      exact
        { ledger := inv.ledger.call _ _
          sound := inv.sound.spawn (call_meets scope _)
          slugged := inv.slugged
          traced := fun index worker bundle serves => inv.traced index worker bundle
            ((System.Serves.of_spawn serves).resolve_right (by simp))
          named := fun index worker bundle serves => inv.named index worker bundle
            ((System.Serves.of_spawn serves).resolve_right (by simp))
          runs := fun runId run found => (inv.runs runId run found).spawn
          attempts := fun attemptId row found => (inv.attempts attemptId row found).spawn
          distinctRuns := inv.distinctRuns.call _ _
          distinctAttempts := inv.distinctAttempts.call _ _ }
  | claim worker claimedAt =>
      by_cases past : claimedAt ≤ system.state.clock
      · simpa [System.step, past] using inv.claim distinguished
      · simpa [System.step, past] using inv
  | perform index => exact inv.perform distinguished
  | crash index =>
      exact
        { ledger := inv.ledger.crash _ _
          sound := inv.sound.crash
          slugged := inv.slugged
          traced := fun other worker bundle serves => inv.traced other worker bundle
            (System.serves_crash.mp serves)
          named := fun other worker bundle serves => inv.named other worker bundle
            (System.serves_crash.mp serves)
          runs := fun runId run found => (inv.runs runId run found).crash _ _
          attempts := fun attemptId row found => (inv.attempts attemptId row found).crash _ _
          distinctRuns := inv.distinctRuns.crash _ _
          distinctAttempts := inv.distinctAttempts.crash _ _ }

theorem kept_claim (inv : Inv system)
    (fresh : ∀ item, system.state.store.selected request = some item → Fresh system.state item) :
    Kept system.state (exec (.claimNextRuntimeQueueAttempt request) system.state).2 where
  run runId run found _ := by
    rw [exec_runs system.state rfl]
    exact found
  attempt attemptId row found _ := by
    have change := exec_attempt system.state (.claimNextRuntimeQueueAttempt request) attemptId
    generalize (exec (.claimNextRuntimeQueueAttempt request) system.state).2.attempts.get?
      attemptId = after at change
    cases change with
    | same => exact found
    | claimed taken id_eq =>
        have names := inv.names_fresh taken (fresh _ taken)
        refine (System.not_named (fun thread member bundle claims =>
          (names thread member bundle claims).2) ?_).elim
        rw [id_eq]
        exact inv.attempts attemptId row found

theorem Inv.identified (inv : Inv system) {event : Event OperatorCall}
    (distinguished : Distinguished system event) : Identified system event where
  claim := by
    rintro worker claimedAt rfl item taken thread member bundle claims
    have names := inv.names_fresh taken (distinguished item taken) thread member bundle claims
    rw [QueueItem.bundle_runId] at names
    exact names.1
  insert := by
    rintro index record rfl next
    obtain ⟨thread, found, performs⟩ := System.nextOp_eq_some.mp next
    exact (guar_spec (inv.sound.guar found performs (allowed _ _ _ _))).2
  kept := by
    rcases System.step_state OperatorCall.program system event with
      ⟨clock, state_eq⟩ | ⟨claimer, claimedAt, rfl, state_eq⟩ | ⟨index, op, rfl, next, state_eq⟩
    · rw [state_eq]
      exact ⟨fun _ _ found _ => found, fun _ _ found _ => found⟩
    · rw [state_eq]
      exact kept_claim inv distinguished
    · rw [state_eq]
      obtain ⟨thread, found, performs⟩ := System.nextOp_eq_some.mp next
      have owed := guar_spec (inv.sound.guar found performs (allowed _ _ _ _))
      refine kept_exec owed.2 ?_
      rintro request rfl
      exact owed.1.elim

end System

/-- In a run whose claims are fresh and whose inserts land on no other item, run identifiers are
never reused, and runs and attempts that have ended are never written again. -/
theorem run_identity (clock : Datetime) (artifacts : JsonArtifactStore)
    (events : List (Event OperatorCall))
    (scope : ∀ event ∈ events, InScope event)
    (distinguished : Steps (System.step OperatorCall.program) Distinguished
      (System.initial clock artifacts) events) :
    Steps (System.step OperatorCall.program) Identified (System.initial clock artifacts)
      events := by
  have both := distinguished.and (steps_of_forall (System.step OperatorCall.program)
    (System.initial clock artifacts) fun _ event member => scope event member)
  exact both.of_invariant Inv (Inv.initial clock artifacts)
    (fun system event inv careful => inv.step careful.2 careful.1)
    fun system event inv careful => inv.identified careful.1

def secondAttempt : List (Event OperatorCall) :=
  Event.call (Sample.enqueueUnauthorized "task-a" "tenant-a") :: List.replicate 4 (.perform 0) ++
    Event.call (Sample.enqueueUnauthorized "task-b" "tenant-b") :: List.replicate 4 (.perform 1) ++
    Event.claim (Sample.worker "worker-a") Sample.clock :: List.replicate 13 (.perform 2) ++
    [Event.claim (Sample.worker "worker-a") Sample.clock, .tick 31000000,
      Event.claim (Sample.worker "worker-a") (Sample.clock + 31000000)] ++
    List.replicate 13 (Event.perform 4)

theorem run_identity_secondAttempt :
    Steps (System.step OperatorCall.program) Identified (System.initial Sample.clock .empty)
      secondAttempt :=
  run_identity Sample.clock .empty secondAttempt (by decide) (by decide)

def sharedTaskId : List (Event OperatorCall) :=
  Event.call (Sample.enqueueUnauthorized "task-a" "tenant-a") :: List.replicate 4 (.perform 0) ++
    Event.call (.enqueue
      { task := Sample.task "task-a" "tenant-b"
        compositionContextResponse := some Sample.unauthorized
        idempotencyKey := some "tenant-b:task-a" }) :: List.replicate 4 (.perform 1) ++
    [Event.claim (Sample.worker "worker-a") Sample.clock]

/-- Their first attempts are one run. -/
theorem sharedTaskId_one_run :
    (∀ event ∈ sharedTaskId ++ [.claim (Sample.worker "worker-b") Sample.clock], InScope event) ∧
      ¬Steps (System.step OperatorCall.program) Identified (System.initial Sample.clock .empty)
        (sharedTaskId ++ [.claim (Sample.worker "worker-b") Sample.clock]) := by
  constructor
  · decide
  · intro run
    have identified := run.last.claim (Sample.worker "worker-b") Sample.clock rfl
    have reused : ¬∀ item ∈ ((System.initial Sample.clock .empty).after OperatorCall.program
        sharedTaskId).state.store.selected
          (claimRequest Sample.config "worker-b" Sample.clock),
        ∀ thread ∈ ((System.initial Sample.clock .empty).after OperatorCall.program
          sharedTaskId).threads,
        ∀ bundle ∈ thread.info.claim,
          bundle.attempt.runId ≠ attemptRunId item (item.attempts + 1) := by
      decide
    exact reused identified

end RunIdentity

end SkillCentric
