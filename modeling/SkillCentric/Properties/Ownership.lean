import SkillCentric.Runtime.OperatorFootprints
import SkillCentric.Runtime.WorkerPhases

/-!
# Who holds a queue item

A claim is named by the queue identifier and the attempt number.  `Carries` says that an item still
shows a claim.  The ledger of a system says that items are stored under their identifiers, that
waiting items show no claim, and that no two workers were given the same claim.
-/

namespace SkillCentric

open Contract RuntimeQueueManager

/-- The item shows the claim of the bundle. -/
def Carries (item : QueueItem) (bundle : ClaimBundle) : Prop :=
  item.claimedBy = some bundle.claim.workerId ∧ item.attempts = bundle.queueItem.attempts

instance (item : QueueItem) (bundle : ClaimBundle) : Decidable (Carries item bundle) :=
  inferInstanceAs (Decidable (_ ∧ _))

/-- The bundle's item shows its claim. -/
def Held (plane : Plane) (bundle : ClaimBundle) : Prop :=
  ∃ item, plane.items.get? bundle.queueItem.id = some item ∧ Carries item bundle

/-- The bundle's item exists and has as many attempts at least. -/
def Issued (plane : Plane) (bundle : ClaimBundle) : Prop :=
  ∃ item, plane.items.get? bundle.queueItem.id = some item ∧
    bundle.queueItem.attempts ≤ item.attempts

/-- Items that can be claimed show no claim. -/
def Waiting (plane : Plane) : Prop :=
  ∀ queueId item, plane.items.get? queueId = some item → item.status.claimable →
    item.claimedBy = none

/-- The status writes of the runtime: claim fields are kept while an item runs and succeeds, and
cleared otherwise. -/
def StatusFields.Sane (fields : StatusFields) : Prop :=
  (fields.status = .running ∨ fields.status = .succeeded) ∧ fields.clearClaim = false ∨
    (fields.status = .cancelled ∨ fields.status = .retryScheduled ∨
      fields.status = .deadLettered) ∧ fields.clearClaim = true

/-- The operations of calls and workers: new items are queued and unclaimed, status writes are
sane, and a claim is made only by the claim event. -/
def Op.Sane : Op → Prop
  | .insertRuntimeQueueItem record =>
      record.status = .queued ∧ record.attempts = 0 ∧ record.claimedBy = none
  | .updateRuntimeQueueItem _ fields => fields.Sane
  | .claimNextRuntimeQueueAttempt _ => False
  | _ => True

theorem Op.sane_of_untouched {op : Op} (items : op.touchesItems = false) : op.Sane := by
  cases op <;> trivial

theorem Releases.sane {phase : Phase} {fields : StatusFields} (releases : Releases phase fields) :
    fields.Sane := by
  cases releases with
  | succeeded status kept => exact .inl ⟨.inr status, kept⟩
  | cancelled status cleared => exact .inr ⟨.inl status, cleared⟩
  | failed _ status cleared => exact .inr ⟨.inr status, cleared⟩

theorem OperatorCall.Performs.sane {call : OperatorCall} {op : Op} (performs : call.Performs op) :
    op.Sane := by
  cases op with
  | insertRuntimeQueueItem record => exact ⟨performs.1, performs.2.1, performs.2.2.1⟩
  | updateRuntimeQueueItem queueId fields => exact .inr ⟨.inl performs.1, performs.2.1⟩
  | claimNextRuntimeQueueAttempt request => cases performs
  | _ => trivial

/-- The operation replaces an item by one with another key. -/
def Overwrites (plane : Plane) : Op → Prop
  | .insertRuntimeQueueItem record =>
      (plane.items.get? record.id).isSome ∧
        ∀ item ∈ plane.items.values, item.idempotencyKey ≠ record.idempotencyKey
  | _ => False

instance (plane : Plane) (op : Op) : Decidable (Overwrites plane op) := by
  rcases op with ⟨⟩ <;> unfold Overwrites <;> infer_instance

theorem Carries.unique {item : QueueItem} {left right : ClaimBundle} (first : Carries item left)
    (second : Carries item right) : left.queueItem.attempts = right.queueItem.attempts :=
  first.2.symm.trans second.2

section Steps

variable {plane : Plane} {op : Op} {bundle : ClaimBundle}

theorem Waiting.kept (waiting : Waiting plane)
    (sane : op.Sane ∨ ∃ request, op = .claimNextRuntimeQueueAttempt request) :
    Waiting (exec op plane).2 := by
  intro queueId item found claimable
  have change := exec_item plane op queueId
  rw [found] at change
  generalize after_eq : some item = after at change
  cases change with
  | same => exact waiting queueId item after_eq.symm claimable
  | inserted _ _ =>
      cases after_eq
      exact (sane.resolve_right (by simp)).2.2
  | updated before =>
      cases after_eq
      rw [StatusFields.apply_status] at claimable
      rcases sane.resolve_right (by simp) with ⟨status | status, _⟩ | ⟨_, cleared⟩
      · simp [status, RuntimeQueueStatus.claimable] at claimable
      · simp [status, RuntimeQueueStatus.claimable] at claimable
      · simp [cleared]
  | refreshed before =>
      cases after_eq
      have unclaimed := waiting queueId _ before (by simpa using claimable)
      simpa using unclaimed
  | claimed _ _ _ =>
      cases after_eq
      cases claimable
  | recovered _ _ =>
      cases after_eq
      rfl

theorem exec_identity (intact : ¬Overwrites plane op) {queueId : Text} {item : QueueItem}
    (found : plane.items.get? queueId = some item) :
    ∃ item', (exec op plane).2.items.get? queueId = some item' ∧
      item'.identity = item.identity ∧ item.attempts ≤ item'.attempts := by
  have change := exec_item plane op queueId
  generalize (exec op plane).2.items.get? queueId = after at change
  cases change with
  | same => exact ⟨item, found, rfl, le_refl _⟩
  | inserted id_eq unknown =>
      refine (intact ⟨?_, unknown⟩).elim
      rw [id_eq, found]
      rfl
  | updated before =>
      rw [found] at before
      cases before
      exact ⟨_, rfl, by simp, by simp⟩
  | refreshed before =>
      rw [found] at before
      cases before
      exact ⟨_, rfl, by simp, by simp⟩
  | claimed _ _ before =>
      rw [found] at before
      cases before
      exact ⟨_, rfl, by simp, by simp⟩
  | recovered before _ =>
      rw [found] at before
      cases before
      exact ⟨_, rfl, by simp, by simp⟩

theorem Issued.kept (issued : Issued plane bundle)
    (intact : ¬Overwrites plane op) : Issued (exec op plane).2 bundle := by
  obtain ⟨item, found, counted⟩ := issued
  obtain ⟨item', found', -, grown⟩ := exec_identity intact found
  exact ⟨item', found', counted.trans grown⟩

/-- How a claim that is still shown after an operation was shown before it. -/
inductive Retained (plane : Plane) (queueId : Text) (item : QueueItem) : Op → QueueItem → Prop
  | same {op : Op} : Retained plane queueId item op item
  | updated {fields : StatusFields} (kept : fields.clearClaim = false) :
      Retained plane queueId item (.updateRuntimeQueueItem queueId fields) (fields.apply item)
  | refreshed {fields : HeartbeatFields} :
      Retained plane queueId item (.heartbeatRuntimeQueueItem queueId fields) (fields.apply item)

theorem Issued.retained (issued : Issued plane bundle)
    (intact : ¬Overwrites plane op) {after : QueueItem}
    (found : (exec op plane).2.items.get? bundle.queueItem.id = some after)
    (shown : Carries after bundle) :
    ∃ before, plane.items.get? bundle.queueItem.id = some before ∧ Carries before bundle ∧
      Retained plane bundle.queueItem.id before op after := by
  obtain ⟨item, located, counted⟩ := issued
  have change := exec_item plane op bundle.queueItem.id
  rw [found] at change
  generalize after_eq : some after = stored at change
  cases change with
  | same =>
      rw [located] at after_eq
      cases after_eq
      exact ⟨after, located, shown, .same⟩
  | inserted id_eq unknown =>
      refine (intact ⟨?_, unknown⟩).elim
      rw [id_eq, located]
      rfl
  | @updated fields before before_found =>
      rw [located] at before_found
      cases before_found
      cases after_eq
      obtain ⟨claimer, attempt⟩ := shown
      rw [StatusFields.apply_claimedBy] at claimer
      rw [StatusFields.apply_attempts] at attempt
      cases cleared : fields.clearClaim with
      | true => simp [cleared] at claimer
      | false =>
        exact ⟨item, located, ⟨by simpa [cleared] using claimer, attempt⟩, .updated cleared⟩
  | refreshed before_found =>
      rw [located] at before_found
      cases before_found
      cases after_eq
      exact ⟨item, located, shown, .refreshed⟩
  | claimed _ _ before_found =>
      rw [located] at before_found
      cases before_found
      cases after_eq
      have attempt := shown.2
      rw [QueueItem.claimed_attempts] at attempt
      omega
  | recovered _ _ =>
      cases after_eq
      cases shown.1

end Steps

section Ledger

variable {Call : Type}

/-- The thread serves the bundle for the worker. -/
def System.Serves (system : System Call) (index : Nat) (worker : RuntimeQueueWorker)
    (bundle : ClaimBundle) : Prop :=
  ∃ thread, system.threads[index]? = some thread ∧ thread.info = .worker worker bundle

variable {system : System Call} {bundle : ClaimBundle} {index : Nat} {worker : RuntimeQueueWorker}

theorem System.serves_of_member
    {thread : Thread Op.Reply Plane (Role Call) PyError Unit} (member : thread ∈ system.threads)
    (claims : thread.info.claim = some bundle) :
    ∃ index worker, system.Serves index worker bundle := by
  obtain ⟨index, found⟩ := List.mem_iff_getElem?.mp member
  cases role : thread.info with
  | worker worker own =>
      rw [role] at claims
      cases claims
      exact ⟨index, worker, thread, found, role⟩
  | operator call =>
      rw [role] at claims
      cases claims

theorem System.serves_of_claimOf
    (claims : system.claimOf index = some bundle) :
    ∃ worker, system.Serves index worker bundle := by
  simp only [System.claimOf, Option.bind_eq_some_iff] at claims
  obtain ⟨thread, found, served⟩ := claims
  cases role : thread.info with
  | worker worker own =>
      rw [role] at served
      cases served
      exact ⟨worker, thread, found, role⟩
  | operator call =>
      rw [role] at served
      cases served

theorem System.Serves.member (serves : system.Serves index worker bundle) :
    ∃ thread ∈ system.threads, thread.info.claim = some bundle := by
  obtain ⟨thread, found, role⟩ := serves
  exact ⟨thread, List.mem_of_getElem? found, by rw [role]; rfl⟩

theorem System.Serves.spawn (serves : system.Serves index worker bundle) {role : Role Call}
    {program : Py Unit} {state : Plane} :
    System.Serves (Pool.spawn ({ system with state } : System Call) role program)
      index worker bundle := by
  obtain ⟨thread, found, info_eq⟩ := serves
  have bound := (List.getElem?_eq_some_iff.mp found).1
  exact ⟨thread, (List.getElem?_append_left bound).trans found, info_eq⟩

theorem System.Serves.of_spawn {role : Role Call} {program : Py Unit} {state : Plane}
    (serves : System.Serves (Pool.spawn ({ system with state } : System Call) role program)
      index worker bundle) :
    system.Serves index worker bundle ∨
      index = system.threads.length ∧ role = .worker worker bundle := by
  obtain ⟨thread, found, info_eq⟩ := serves
  rcases Pool.getElem?_spawn found with old | ⟨last, rfl⟩
  · exact .inl ⟨thread, old, info_eq⟩
  · exact .inr ⟨last, info_eq⟩

theorem System.serves_step {index other : Nat} :
    System.Serves (Pool.step exec system index) other worker bundle ↔
      system.Serves other worker bundle := by
  constructor
  · rintro ⟨peer, located, role⟩
    obtain ⟨before, before_found, info_eq, -, -⟩ := Pool.getElem?_step exec located
    exact ⟨before, before_found, info_eq.symm.trans role⟩
  · rintro ⟨peer, located, role⟩
    obtain ⟨after, after_found, info_eq⟩ := Pool.getElem?_step_of exec index located
    exact ⟨after, after_found, info_eq.trans role⟩

theorem System.serves_crash {index other : Nat} {outcome : Except PyError Unit} :
    System.Serves (system.crash index outcome) other worker bundle ↔
      system.Serves other worker bundle := by
  constructor
  · rintro ⟨thread, found, role⟩
    obtain ⟨old, located, info_eq, -⟩ := Pool.getElem?_crash found
    exact ⟨old, located, info_eq.symm.trans role⟩
  · rintro ⟨thread, found, role⟩
    obtain ⟨next, located, info_eq⟩ := Pool.getElem?_crash_of index outcome found
    exact ⟨next, located, info_eq.trans role⟩

section Names

variable (name : ClaimBundle → Text) {system : System Call}

/-- A bundle in the system has the name. -/
def System.Named (system : System Call) (key : Text) : Prop :=
  ∃ index worker bundle, system.Serves index worker bundle ∧ name bundle = key

/-- The bundles in the system have different names. -/
def System.Distinct (system : System Call) : Prop :=
  ∀ left right leftWorker rightWorker leftBundle rightBundle, left ≠ right →
    system.Serves left leftWorker leftBundle → system.Serves right rightWorker rightBundle →
    name leftBundle ≠ name rightBundle

variable {name} {key : Text}

theorem System.Named.step (named : system.Named name key) (index : Nat) :
    System.Named name (Pool.step exec system index) key := by
  obtain ⟨other, worker, bundle, serves, name_eq⟩ := named
  exact ⟨other, worker, bundle, System.serves_step.mpr serves, name_eq⟩

theorem System.Named.crash (named : system.Named name key) (index : Nat)
    (outcome : Except PyError Unit) : System.Named name (system.crash index outcome) key := by
  obtain ⟨other, worker, bundle, serves, name_eq⟩ := named
  exact ⟨other, worker, bundle, System.serves_crash.mpr serves, name_eq⟩

theorem System.Named.spawn (named : system.Named name key) {role : Role Call}
    {program : Py Unit} {state : Plane} :
    System.Named name (Pool.spawn ({ system with state } : System Call) role program) key := by
  obtain ⟨other, worker, bundle, serves, name_eq⟩ := named
  exact ⟨other, worker, bundle, serves.spawn, name_eq⟩

theorem System.Distinct.step (distinct : system.Distinct name) (index : Nat) :
    System.Distinct name (Pool.step exec system index) := by
  intro left right leftWorker rightWorker leftBundle rightBundle differ leftServes rightServes
  exact distinct left right leftWorker rightWorker leftBundle rightBundle differ
    (System.serves_step.mp leftServes) (System.serves_step.mp rightServes)

theorem System.Distinct.crash (distinct : system.Distinct name) (index : Nat)
    (outcome : Except PyError Unit) : System.Distinct name (system.crash index outcome) := by
  intro left right leftWorker rightWorker leftBundle rightBundle differ leftServes rightServes
  exact distinct left right leftWorker rightWorker leftBundle rightBundle differ
    (System.serves_crash.mp leftServes) (System.serves_crash.mp rightServes)

theorem System.Distinct.spawn (distinct : system.Distinct name) {role : Role Call}
    {program : Py Unit} {state : Plane}
    (fresh : ∀ bundle ∈ role.claim, ∀ thread ∈ system.threads, ∀ other ∈ thread.info.claim,
      name other ≠ name bundle) :
    System.Distinct name (Pool.spawn ({ system with state } : System Call) role program) := by
  intro left right leftWorker rightWorker leftBundle rightBundle differ leftServes rightServes
  rcases leftServes.of_spawn with leftOld | ⟨left_eq, rfl⟩
  · rcases rightServes.of_spawn with rightOld | ⟨-, rfl⟩
    · exact distinct left right leftWorker rightWorker leftBundle rightBundle differ leftOld
        rightOld
    · obtain ⟨thread, member, claim_eq⟩ := leftOld.member
      exact fresh rightBundle rfl thread member leftBundle claim_eq
  · rcases rightServes.of_spawn with rightOld | ⟨right_eq, -⟩
    · obtain ⟨thread, member, claim_eq⟩ := rightOld.member
      exact (fresh leftBundle rfl thread member rightBundle claim_eq).symm
    · exact (differ (left_eq.trans right_eq.symm)).elim

theorem System.Distinct.call (distinct : system.Distinct name) (call : Call)
    (program : Py Unit) : System.Distinct name (system.spawn (.operator call) program) :=
  System.Distinct.spawn distinct fun _ claimed => by cases claimed

theorem System.not_named
    (unused : ∀ thread ∈ system.threads, ∀ bundle ∈ thread.info.claim, name bundle ≠ key) :
    ¬system.Named name key := by
  rintro ⟨index, worker, bundle, serves, name_eq⟩
  obtain ⟨thread, member, claim_eq⟩ := serves.member
  exact unused thread member bundle claim_eq name_eq

end Names

/-- Bookkeeping of a system: keys, waiting items, and one worker for each claim. -/
structure Ledger (system : System Call) : Prop where
  keyed : system.state.Keyed
  waiting : Waiting system.state
  bundled : ∀ index worker bundle, system.Serves index worker bundle →
    ∃ item request, bundle = QueueItem.bundle item request
  issued : ∀ index worker bundle, system.Serves index worker bundle → Issued system.state bundle
  distinct : ∀ left right leftWorker rightWorker leftBundle rightBundle, left ≠ right →
    system.Serves left leftWorker leftBundle → system.Serves right rightWorker rightBundle →
    ¬(leftBundle.queueItem.id = rightBundle.queueItem.id ∧
      leftBundle.queueItem.attempts = rightBundle.queueItem.attempts)

namespace Ledger

variable {system : System Call}

theorem initial (clock : Datetime) (artifacts : JsonArtifactStore) :
    Ledger (System.initial clock artifacts : System Call) where
  keyed _ _ found := by cases found
  waiting _ _ found := by cases found
  bundled _ _ _ := by
    rintro ⟨thread, found, _⟩
    simp [System.initial] at found
  issued _ _ _ := by
    rintro ⟨thread, found, _⟩
    simp [System.initial] at found
  distinct _ _ _ _ _ _ _ := by
    rintro ⟨thread, found, _⟩
    simp [System.initial] at found

theorem of_serves {next : System Call} (ledger : Ledger system) (keyed : next.state.Keyed)
    (waiting : Waiting next.state)
    (old : ∀ index worker bundle, next.Serves index worker bundle →
      system.Serves index worker bundle)
    (issued : ∀ bundle, Issued system.state bundle → Issued next.state bundle) :
    Ledger next where
  keyed := keyed
  waiting := waiting
  bundled index worker bundle serves := ledger.bundled index worker bundle (old _ _ _ serves)
  issued index worker bundle serves :=
    issued bundle (ledger.issued index worker bundle (old _ _ _ serves))
  distinct left right leftWorker rightWorker leftBundle rightBundle differ leftServes rightServes :=
    ledger.distinct left right leftWorker rightWorker leftBundle rightBundle differ
      (old _ _ _ leftServes) (old _ _ _ rightServes)

theorem tick (ledger : Ledger system) (clock : Datetime) :
    Ledger ({ system with state := { system.state with clock } } : System Call) :=
  ledger.of_serves ledger.keyed ledger.waiting (fun _ _ _ serves => serves)
    fun _ issued => issued

theorem crash (ledger : Ledger system) (index : Nat) (outcome : Except PyError Unit) :
    Ledger (system.crash index outcome) := by
  exact ledger.of_serves ledger.keyed ledger.waiting (fun _ _ _ => System.serves_crash.mp)
    fun _ issued => issued

theorem call (ledger : Ledger system) (call : Call) (program : Py Unit) :
    Ledger (system.spawn (.operator call) program) := by
  refine ledger.of_serves ledger.keyed ledger.waiting ?_ fun _ issued => issued
  intro other worker bundle serves
  exact System.Serves.of_spawn serves |>.resolve_right (by simp)

theorem perform (ledger : Ledger system) {thread : Thread Op.Reply Plane (Role Call) PyError Unit}
    (found : system.threads[index]? = some thread) (sane : ∀ op, thread.nextOp = some op → op.Sane)
    (intact : ∀ op, thread.nextOp = some op → ¬Overwrites system.state op) :
    Ledger (Pool.step exec system index) := by
  have old :
      ∀ other worker bundle, System.Serves (Pool.step exec system index) other worker bundle →
      system.Serves other worker bundle := fun _ _ _ => System.serves_step.mp
  have state_eq : (Pool.step exec system index).state = thread.effect exec system.state := by
    rw [Pool.step_of_thread exec found]
  cases next : thread.nextOp with
  | none =>
      rw [Thread.effect_of_done exec next] at state_eq
      exact ledger.of_serves (state_eq ▸ ledger.keyed) (state_eq ▸ ledger.waiting) old
        fun _ issued => state_eq ▸ issued
  | some op =>
      rw [Thread.effect_of_nextOp exec next] at state_eq
      have kept := ledger.keyed.exec op
      have waits := ledger.waiting.kept (.inl (sane op next))
      exact ledger.of_serves (state_eq ▸ kept) (state_eq ▸ waits) old
        fun _ issued => state_eq ▸ issued.kept (intact op next)

theorem claim (ledger : Ledger system) (worker : RuntimeQueueWorker) (claimedAt : Datetime) :
    Ledger (system.claim worker claimedAt) := by
  have keyed := ledger.keyed.exec (worker.claimOp claimedAt)
  have waiting := ledger.waiting.kept (.inr ⟨_, rfl⟩ :
    (worker.claimOp claimedAt).Sane ∨
      ∃ request, worker.claimOp claimedAt = .claimNextRuntimeQueueAttempt request)
  have issued : ∀ bundle, Issued system.state bundle →
      Issued (exec (worker.claimOp claimedAt) system.state).2 bundle :=
    fun _ issued => issued.kept (by simp [RuntimeQueueWorker.claimOp, Overwrites])
  unfold System.claim
  cases taken : system.state.store.selected
      (claimRequest worker.config worker.workerId claimedAt) with
  | none => exact ledger.of_serves keyed waiting (fun _ _ _ serves => serves) issued
  | some item =>
      have found := ledger.keyed.selected taken
      have stored := ledger.keyed.claimed_item taken
      have newer : ∀ index other bundle, system.Serves index other bundle →
          bundle.queueItem.id = item.id → bundle.queueItem.attempts < item.attempts + 1 := by
        intro index other bundle serves same
        obtain ⟨counted, located, bound⟩ := ledger.issued index other bundle serves
        rw [same, found] at located
        cases located
        omega
      have cases_of : ∀ index other bundle, System.Serves (Pool.spawn
          ({ system with state := (exec (worker.claimOp claimedAt) system.state).2 } : System Call)
          (.worker worker (item.bundle (claimRequest worker.config worker.workerId claimedAt)))
          (worker.serve (item.bundle (claimRequest worker.config worker.workerId claimedAt))))
          index other bundle →
          system.Serves index other bundle ∨ index = system.threads.length ∧
            bundle = item.bundle (claimRequest worker.config worker.workerId claimedAt) := by
        intro index other bundle serves
        refine (System.Serves.of_spawn serves).imp id fun spawned => ⟨spawned.1, ?_⟩
        injection spawned.2 with _ bundle_eq
        exact bundle_eq.symm
      exact
        { keyed
          waiting
          bundled := by
            intro index other bundle serves
            rcases cases_of index other bundle serves with old | ⟨-, rfl⟩
            · exact ledger.bundled index other bundle old
            · exact ⟨_, _, rfl⟩
          issued := by
            intro index other bundle serves
            rcases cases_of index other bundle serves with old | ⟨-, rfl⟩
            · exact issued bundle (ledger.issued index other bundle old)
            · exact ⟨_, stored, le_refl _⟩
          distinct := by
            rintro left right leftWorker rightWorker leftBundle rightBundle differ leftServes
              rightServes ⟨same, attempts⟩
            rcases cases_of left leftWorker leftBundle leftServes with leftOld | ⟨leftLast, rfl⟩
            · rcases cases_of right rightWorker rightBundle rightServes with
                rightOld | ⟨-, rfl⟩
              · exact ledger.distinct left right leftWorker rightWorker leftBundle rightBundle
                  differ leftOld rightOld ⟨same, attempts⟩
              · have bound := newer left leftWorker leftBundle leftOld same
                exact absurd attempts (Nat.ne_of_lt bound)
            · rcases cases_of right rightWorker rightBundle rightServes with
                rightOld | ⟨rightLast, -⟩
              · have bound := newer right rightWorker rightBundle rightOld same.symm
                exact absurd attempts (Nat.ne_of_gt bound)
              · exact differ (leftLast.trans rightLast.symm) }

end Ledger

end Ledger

end SkillCentric
