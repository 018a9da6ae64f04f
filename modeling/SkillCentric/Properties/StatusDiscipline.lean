import SkillCentric.Properties.Ownership

/-!
# Status discipline

Which status changes a run of workers and operators can make.  Status writes do not look at the
status they replace, so the transitions of the contract hold exactly as long as no write arrives
late: a worker's after it lost its claim, a cancellation after the item or the run has ended.
-/

namespace SkillCentric

open Contract RuntimeQueueManager

def RuntimeQueueStatus.leadsTo : RuntimeQueueStatus → RuntimeQueueStatus → Bool
  | .queued, .claiming | .queued, .cancelled
  | .retryScheduled, .claiming | .retryScheduled, .cancelled
  | .claiming, .running | .claiming, .retryScheduled | .claiming, .deadLettered
  | .claiming, .cancelled
  | .running, .succeeded | .running, .retryScheduled | .running, .deadLettered
  | .running, .cancelled => true
  | _, _ => false

namespace RuntimeQueueStatus

variable {status next : RuntimeQueueStatus}

theorem not_leadsTo_of_terminal (ended : status.terminal) : status.leadsTo next = false := by
  cases status <;> first | rfl | cases ended

theorem leadsTo_cancelled (pending : status.terminal = false) : status.leadsTo .cancelled := by
  cases status <;> first | rfl | cases pending

theorem leadsTo_claiming (waiting : status.claimable) : status.leadsTo .claiming := by
  cases status <;> first | rfl | cases waiting

theorem leadsTo_failure (executes : status.executing)
    (failure : next = .retryScheduled ∨ next = .deadLettered) : status.leadsTo next := by
  rcases failure with rfl | rfl <;> cases status <;> first | rfl | cases executes

end RuntimeQueueStatus

namespace StatusDiscipline

/-- Every status change is a transition of the contract, and runs that have ended stay as they
ended. -/
structure Lawful (before after : Plane) : Prop where
  item : ∀ queueId item, before.items.get? queueId = some item →
    ∃ item', after.items.get? queueId = some item' ∧
      (item'.status = item.status ∨ item.status.leadsTo item'.status)
  run : ∀ runId run, before.runs.get? runId = some run → run.status.terminal →
    ∃ run', after.runs.get? runId = some run' ∧ run'.status = run.status

/-- A step that changes statuses as the contract says. -/
def Disciplined (system : System OperatorCall) (event : Event OperatorCall) : Prop :=
  Lawful system.state (system.step OperatorCall.program event).state

/-- The write is not late: a worker's status write finds its claim on the item, a cancellation
finds an item or a run that has not ended, and a worker completes no cancelled run. -/
def Timely (role : Role OperatorCall) (plane : Plane) : Op → Prop
  | .updateRuntimeQueueItem queueId fields =>
      ∀ item ∈ plane.items.get? queueId,
        if fields.status = .cancelled then item.status.terminal = false
        else ∀ bundle ∈ role.claim, Carries item bundle
  | .updateRuntimeRun runId fields =>
      ∀ run ∈ plane.runs.get? runId,
        if role.claim.isSome then run.status = .cancelled → fields.status = .cancelled
        else run.status.terminal = false
  | _ => True

instance (role : Role OperatorCall) (plane : Plane) (op : Op) :
    Decidable (Timely role plane op) := by
  unfold Timely
  rcases op with ⟨⟩ <;> infer_instance

/-- No write is late, no insert lands on another item, and a claim names a new run. -/
def Prompt (system : System OperatorCall) : Event OperatorCall → Prop
  | .perform index =>
      ∀ thread ∈ system.threads[index]?, ∀ op ∈ thread.nextOp,
        Timely thread.info system.state op ∧ ¬Overwrites system.state op
  | .claim worker claimedAt =>
      ∀ item ∈ system.state.store.selected
        (claimRequest worker.config worker.workerId claimedAt),
        ∀ thread ∈ system.threads, ∀ bundle ∈ thread.info.claim,
          bundle.attempt.runId ≠ attemptRunId item (item.attempts + 1)
  | _ => True

instance (system : System OperatorCall) (event : Event OperatorCall) :
    Decidable (Prompt system event) := by
  unfold Prompt
  rcases event with ⟨⟩ <;> infer_instance

/-- A status follows the one before it, and an ended run keeps its own. -/
def LawfulWrite (plane : Plane) : Op → Prop
  | .updateRuntimeQueueItem queueId fields =>
      ∀ item, plane.items.get? queueId = some item → item.status.leadsTo fields.status
  | .insertRuntimeRun record => plane.runs.get? record.id = none
  | .updateRuntimeRun runId fields =>
      ∀ run, plane.runs.get? runId = some run → run.status.terminal → fields.status = run.status
  | _ => True

section Lawful

variable {plane : Plane} {op : Op}

theorem lawful_of_same {next : Plane} (items : next.items = plane.items)
    (runs : next.runs = plane.runs) : Lawful plane next where
  item queueId item found := ⟨item, by rw [items, found], .inl rfl⟩
  run runId run found _ := ⟨run, by rw [runs, found], rfl⟩

theorem lawful_item (keyed : plane.Keyed) (intact : ¬Overwrites plane op)
    (lawful : LawfulWrite plane op) {queueId : Text} {item : QueueItem}
    (found : plane.items.get? queueId = some item) :
    ∃ item', (exec op plane).2.items.get? queueId = some item' ∧
      (item'.status = item.status ∨ item.status.leadsTo item'.status) := by
  have change := exec_item plane op queueId
  generalize (exec op plane).2.items.get? queueId = after at change
  cases change with
  | same => exact ⟨item, found, .inl rfl⟩
  | inserted id_eq unknown =>
      refine (intact ⟨?_, unknown⟩).elim
      rw [id_eq, found]
      rfl
  | updated before =>
      rw [found] at before
      cases before
      exact ⟨_, rfl, .inr (by simpa using lawful item found)⟩
  | refreshed before =>
      rw [found] at before
      cases before
      exact ⟨_, rfl, .inl rfl⟩
  | claimed selected id_eq before =>
      rw [found] at before
      cases before
      have located := keyed.selected selected
      rw [id_eq, found] at located
      cases located
      have waiting := (InMemoryRuntimeStore.selected_spec selected).2.1
      exact ⟨_, rfl, .inr (RuntimeQueueStatus.leadsTo_claiming waiting)⟩
  | recovered before stale =>
      rw [found] at before
      cases before
      have executes : item.status.executing := by
        simp only [QueueItem.stale, Bool.and_eq_true] at stale
        exact stale.1
      exact ⟨_, rfl, .inr (RuntimeQueueStatus.leadsTo_failure executes (.inl rfl))⟩

theorem lawful_run (lawful : LawfulWrite plane op) {runId : Text} {run : RuntimeRun}
    (found : plane.runs.get? runId = some run) (ended : run.status.terminal) :
    ∃ run', (exec op plane).2.runs.get? runId = some run' ∧ run'.status = run.status := by
  have change := exec_run plane op runId
  generalize (exec op plane).2.runs.get? runId = after at change
  cases change with
  | same => exact ⟨run, found, rfl⟩
  | inserted id_eq =>
      have absent : plane.runs.get? _ = none := lawful
      rw [id_eq, found] at absent
      cases absent
  | updated before =>
      rw [found] at before
      cases before
      exact ⟨_, rfl, lawful run found ended⟩

theorem lawful_exec (keyed : plane.Keyed) (intact : ¬Overwrites plane op)
    (lawful : LawfulWrite plane op) : Lawful plane (exec op plane).2 where
  item _ _ found := lawful_item keyed intact lawful found
  run _ _ found ended := lawful_run lawful found ended

end Lawful

/-- A worker writes the item that shows its claim, and its own run. -/
def OwnWrite (bundle : ClaimBundle) (plane : Plane) : Op → Prop
  | .updateRuntimeQueueItem queueId fields =>
      fields.clearClaim = false → queueId = bundle.queueItem.id ∧
        ∀ item, plane.items.get? queueId = some item → Carries item bundle
  | .insertRuntimeRun record => record.id = bundle.attempt.runId
  | .updateRuntimeRun runId _ => runId = bundle.attempt.runId
  | _ => True

/-- Operators clear the claims of the items they write, and cancel runs. -/
def CancelWrite : Op → Prop
  | .updateRuntimeQueueItem _ fields => fields.clearClaim = true
  | .insertRuntimeRun _ => False
  | .updateRuntimeRun _ fields => fields.status = .cancelled
  | _ => True

/-- Others leave the status of a claimed item alone, and of the run they change nothing but to
cancel it. -/
structure Undisturbed (bundle : ClaimBundle) (before after : Plane) : Prop where
  item : ∀ item', after.items.get? bundle.queueItem.id = some item' → Carries item' bundle →
    ∃ item, before.items.get? bundle.queueItem.id = some item ∧ Carries item bundle ∧
      item'.status = item.status
  run : ∀ run', after.runs.get? bundle.attempt.runId = some run' →
    ∃ run, before.runs.get? bundle.attempt.runId = some run ∧
      (run'.status = run.status ∨ run'.status = .cancelled)

theorem Undisturbed.of_same (bundle : ClaimBundle) {plane next : Plane}
    (items : next.items = plane.items) (runs : next.runs = plane.runs) :
    Undisturbed bundle plane next where
  item item found shown := ⟨item, by rw [← items, found], shown, rfl⟩
  run run found := ⟨run, by rw [← runs, found], .inl rfl⟩

theorem Undisturbed.trans {bundle : ClaimBundle} {first second third : Plane}
    (left : Undisturbed bundle first second) (right : Undisturbed bundle second third) :
    Undisturbed bundle first third where
  item last found shown := by
    obtain ⟨middle, middle_found, middle_shown, middle_eq⟩ := right.item last found shown
    obtain ⟨item, item_found, item_shown, item_eq⟩ := left.item middle middle_found middle_shown
    exact ⟨item, item_found, item_shown, middle_eq.trans item_eq⟩
  run last found := by
    obtain ⟨middle, middle_found, middle_eq⟩ := right.run last found
    obtain ⟨run, run_found, run_eq⟩ := left.run middle middle_found
    refine ⟨run, run_found, ?_⟩
    rcases middle_eq with same | cancelled
    · rw [same]
      exact run_eq
    · exact .inr cancelled

/-- A worker writes in time what is its own, and is not disturbed meanwhile. -/
def contract : Role OperatorCall → Contract Op Plane
  | .worker worker bundle =>
      { rely := Undisturbed bundle
        allowed := fun _ op plane => Timely (.worker worker bundle) plane op
        guar := fun op plane => op.Sane ∧ LawfulWrite plane op ∧ OwnWrite bundle plane op
        rely_refl := fun _ => Undisturbed.of_same bundle rfl rfl
        rely_trans := fun _ _ _ => Undisturbed.trans }
  | .operator call =>
      { rely := fun _ _ => True
        allowed := fun _ op plane => Timely (.operator call) plane op
        guar := fun op plane => op.Sane ∧ LawfulWrite plane op ∧ CancelWrite op
        rely_refl := fun _ => trivial
        rely_trans := fun _ _ _ _ _ => trivial }

section Worker

variable {bundle : ClaimBundle} {plane : Plane} {op : Op}

/-- The item has the status while it shows the claim. -/
def Shows (bundle : ClaimBundle) (status : RuntimeQueueStatus) (plane : Plane) : Prop :=
  ∀ item, plane.items.get? bundle.queueItem.id = some item → Carries item bundle →
    item.status = status

/-- The run is open or cancelled. -/
def Completable (bundle : ClaimBundle) (plane : Plane) : Prop :=
  ∀ run, plane.runs.get? bundle.attempt.runId = some run →
    run.status.terminal = false ∨ run.status = .cancelled

variable {status : RuntimeQueueStatus} {queueId : Text} {fields : StatusFields}

theorem Shows.of_undisturbed {before after : Plane}
    (change : Undisturbed bundle before after) (shows : Shows bundle status before) :
    Shows bundle status after := by
  intro item' found shown
  obtain ⟨item, item_found, item_shown, same⟩ := change.item item' found shown
  rw [same]
  exact shows item item_found item_shown

theorem Completable.of_undisturbed {before after : Plane}
    (change : Undisturbed bundle before after) (completable : Completable bundle before) :
    Completable bundle after := by
  intro run' found
  obtain ⟨run, run_found, same | cancelled⟩ := change.run run' found
  · rw [same]
    exact completable run run_found
  · exact .inr cancelled

theorem Shows.of_untouched (items : op.touchesItems = false)
    (shows : Shows bundle status plane) : Shows bundle status (exec op plane).2 := by
  intro item found
  rw [exec_items plane items] at found
  exact shows item found

theorem Shows.refreshed {fields : HeartbeatFields} (shows : Shows bundle status plane) :
    Shows bundle status (exec (.heartbeatRuntimeQueueItem queueId fields) plane).2 := by
  intro item' found shown
  have change := exec_item plane (.heartbeatRuntimeQueueItem queueId fields) bundle.queueItem.id
  rw [found] at change
  generalize after_eq : some item' = after at change
  cases change with
  | same => exact shows item' after_eq.symm shown
  | refreshed before =>
      cases after_eq
      rw [HeartbeatFields.apply_status]
      exact shows _ before shown

theorem Shows.written :
    Shows bundle fields.status
      (exec (.updateRuntimeQueueItem bundle.queueItem.id fields) plane).2 := by
  intro item' found shown
  cases located : plane.items.get? bundle.queueItem.id with
  | some item =>
      rw [exec_update_item located] at found
      cases found
      exact StatusFields.apply_status fields item
  | none =>
      have change := exec_item plane (.updateRuntimeQueueItem bundle.queueItem.id fields)
        bundle.queueItem.id
      rw [found] at change
      generalize after_eq : some item' = after at change
      cases change with
      | same =>
          rw [located] at after_eq
          cases after_eq
      | updated before =>
          rw [located] at before
          cases before

theorem Timely.carries {worker : RuntimeQueueWorker}
    (timely : Timely (.worker worker bundle) plane (.updateRuntimeQueueItem queueId fields))
    (status : fields.status ≠ .cancelled) {item : QueueItem}
    (found : plane.items.get? queueId = some item) : Carries item bundle := by
  have finds := timely item found
  rw [if_neg status] at finds
  exact finds bundle rfl

theorem Timely.pending {role : Role OperatorCall}
    (timely : Timely role plane (.updateRuntimeQueueItem queueId fields))
    (status : fields.status = .cancelled) {item : QueueItem}
    (found : plane.items.get? queueId = some item) : item.status.terminal = false := by
  have finds := timely item found
  rwa [if_pos status] at finds

variable (worker : RuntimeQueueWorker)

theorem release_failed (executes : status.executing) (failure : fields.status = .retryScheduled ∨
      fields.status = .deadLettered) (shows : Shows bundle status plane)
    (timely : Timely (.worker worker bundle) plane
      (.updateRuntimeQueueItem bundle.queueItem.id fields)) :
    LawfulWrite plane (.updateRuntimeQueueItem bundle.queueItem.id fields) := by
  intro item found
  have active : fields.status ≠ .cancelled := by
    rcases failure with status_eq | status_eq <;> rw [status_eq] <;> decide
  rw [shows item found (timely.carries active found)]
  exact RuntimeQueueStatus.leadsTo_failure executes failure

variable (bundle)

/-- The status the worker left behind is there as long as its claim is. -/
def phases : WorkerPhases (contract (.worker worker bundle)) bundle where
  holds phase plane :=
    match phase with
    | .fresh => Shows bundle .claiming plane ∧ plane.runs.get? bundle.attempt.runId = none
    | .started => Shows bundle .claiming plane
    | .running => Shows bundle .running plane
    | .released | .closed => True
  runOpen := Completable bundle
  stable phase before after change holds := by
    cases phase with
    | fresh =>
        refine ⟨holds.1.of_undisturbed change, ?_⟩
        cases found : after.runs.get? bundle.attempt.runId with
        | none => rfl
        | some run =>
            obtain ⟨old, old_found, -⟩ := change.run run found
            rw [holds.2] at old_found
            cases old_found
    | started => exact Shows.of_undisturbed change holds
    | running => exact Shows.of_undisturbed change holds
    | released => trivial
    | closed => trivial
  stable_open _ _ change holds := holds.of_undisturbed change
  relax _ _ _ _ := trivial
  observe plane run found opened other located := by
    rw [found] at located
    cases located
    exact .inl opened
  aside op past plane items runs _ _ := by
    refine ⟨⟨Op.sane_of_untouched items, ?_, ?_⟩, fun phase holds => ?_⟩
    · cases op <;> trivial
    · cases op <;> trivial
    · cases phase with
      | fresh => exact ⟨holds.1.of_untouched items, by rw [exec_runs plane runs, holds.2]⟩
      | started => exact Shows.of_untouched items holds
      | running => exact Shows.of_untouched items holds
      | released => trivial
      | closed => trivial
  open_aside op plane runs holds run found := by
    rw [exec_runs plane runs] at found
    exact holds run found
  insertRun record past plane id_eq status holds _ := by
    refine ⟨⟨trivial, ?_, id_eq⟩, holds.1.of_untouched rfl, ?_⟩
    · change plane.runs.get? record.id = none
      rw [id_eq, holds.2]
    · intro run found
      rw [exec_insertRuntimeRun_of_absent holds.2 found, status]
      exact .inl rfl
  updateRun phase fields past plane _ holds completable timely := by
    refine ⟨⟨trivial, ?_, rfl⟩, ?_⟩
    · intro run found ended
      rcases completable run found with opened | cancelled
      · rw [opened] at ended
        cases ended
      · have kept : run.status = .cancelled → fields.status = .cancelled := timely run found
        rw [kept cancelled, cancelled]
    · cases phase with
      | fresh => exact ⟨holds.1.of_untouched rfl, exec_updateRuntimeRun_of_absent holds.2⟩
      | started => exact Shows.of_untouched rfl holds
      | running => exact Shows.of_untouched rfl holds
      | released => trivial
      | closed => trivial
  markRunning fields past plane status kept holds timely := by
    have active : fields.status ≠ .cancelled := by rw [status]; decide
    refine ⟨⟨.inl ⟨.inl status, kept⟩, ?_, ?_⟩, ?_⟩
    · intro item found
      rw [holds item found (timely.carries active found), status]
      rfl
    · exact fun _ => ⟨rfl, fun item found => timely.carries active found⟩
    · exact status ▸ Shows.written
  release phase fields past plane releases holds timely := by
    refine ⟨⟨releases.sane, ?_, ?_⟩, trivial⟩
    · cases releases with
      | succeeded status _ =>
          intro item found
          have active : fields.status ≠ .cancelled := by rw [status]; decide
          rw [holds item found (timely.carries active found), status]
          rfl
      | cancelled status _ =>
          intro item found
          rw [status]
          exact RuntimeQueueStatus.leadsTo_cancelled (timely.pending status found)
      | failed pending failure _ =>
          rcases pending with rfl | rfl | rfl
          · exact release_failed worker rfl failure holds.1 timely
          · exact release_failed worker rfl failure holds timely
          · exact release_failed worker rfl failure holds timely
    · intro kept
      refine ⟨rfl, fun item found => timely.carries ?_ found⟩
      cases releases with
      | succeeded status _ => rw [status]; decide
      | cancelled _ cleared => simp [cleared] at kept
      | failed _ _ cleared => simp [cleared] at kept
  heartbeat fields past plane holds _ := ⟨⟨trivial, trivial, trivial⟩, Shows.refreshed holds⟩
  recordProfile _ _ _ past plane holds _ :=
    ⟨⟨trivial, trivial, trivial⟩, Shows.of_untouched rfl holds⟩
  closeAttempt _ _ _ past plane _ _ := ⟨⟨trivial, trivial, trivial⟩, trivial⟩

end Worker

section System

variable {system : System OperatorCall}

/-- The bookkeeping, one run for each claim, and every thread meets its contract. -/
structure Inv (system : System OperatorCall) : Prop where
  ledger : Ledger system
  sound : Pool.Sound exec contract system
  /-- Runs are inserted by the workers they are named after. -/
  owned :
    ∀ runId run, system.state.runs.get? runId = some run → system.Named (·.attempt.runId) runId
  distinct : system.Distinct (·.attempt.runId)

theorem call_meets (call : OperatorCall) (plane : Plane) :
    (contract (.operator call)).Meets exec [] call.program (fun _ _ _ => True) plane := by
  have triple : (contract (.operator call)).Triple exec (fun _ => True) call.program
      (fun _ _ => True ∧ True) (fun _ _ => True) := by
    refine triple_of_yields call.program_performs (fun _ _ _ _ => trivial) ?_
    intro op past now performs _ timely
    refine ⟨⟨performs.sane, ?_, ?_⟩, trivial⟩
    · cases op with
      | updateRuntimeQueueItem queueId fields =>
          intro item found
          rw [performs.1]
          exact RuntimeQueueStatus.leadsTo_cancelled (timely.pending performs.1 found)
      | updateRuntimeRun runId fields =>
          intro run found ended
          have opened : run.status.terminal = false := timely run found
          rw [opened] at ended
          cases ended
      | insertRuntimeRun record => cases performs
      | _ => trivial
    · cases op with
      | updateRuntimeQueueItem queueId fields => exact performs.2.1
      | updateRuntimeRun runId fields => exact performs.1
      | insertRuntimeRun record => cases performs
      | _ => trivial
  exact (triple [] plane trivial).mono fun _ _ _ _ => trivial

variable {role : Role OperatorCall} {op : Op} {bundle : ClaimBundle} {worker : RuntimeQueueWorker}

theorem guar_spec {plane : Plane}
    (owed : (contract role).guar op plane) : op.Sane ∧ LawfulWrite plane op := by
  cases role with
  | worker worker bundle => exact ⟨owed.1, owed.2.1⟩
  | operator call => exact ⟨owed.1, owed.2.1⟩

theorem allowed_of_timely {past : List (Op × Plane)}
    {plane : Plane} (timely : Timely role plane op) : (contract role).allowed past op plane := by
  cases role <;> exact timely

theorem rely_of_worker {before after : Plane}
    (undisturbed : ∀ worker bundle, role = .worker worker bundle →
      Undisturbed bundle before after) : (contract role).rely before after := by
  cases role with
  | worker worker bundle => exact undisturbed worker bundle rfl
  | operator call => trivial

theorem undisturbed_item (issued : Issued system.state bundle)
    (intact : ¬Overwrites system.state op)
    (foreign : ∀ fields, op = .updateRuntimeQueueItem bundle.queueItem.id fields →
      fields.clearClaim = false → ∀ item, system.state.items.get? bundle.queueItem.id = some item →
        ¬Carries item bundle) {item' : QueueItem}
    (found : (exec op system.state).2.items.get? bundle.queueItem.id = some item')
    (shown : Carries item' bundle) :
    ∃ item, system.state.items.get? bundle.queueItem.id = some item ∧ Carries item bundle ∧
      item'.status = item.status := by
  obtain ⟨item, located, carries, retained⟩ := issued.retained intact found shown
  refine ⟨item, located, carries, ?_⟩
  cases retained with
  | same => rfl
  | updated kept => exact (foreign _ rfl kept item located carries).elim
  | refreshed => rfl

theorem undisturbed_perform (inv : Inv system) {index other : Nat} (differ : other ≠ index)
    {thread peer : Thread Op.Reply Plane (Role OperatorCall) PyError Unit}
    (found : system.threads[index]? = some thread) (next : thread.nextOp = some op)
    (timely : Timely thread.info system.state op) (intact : ¬Overwrites system.state op)
    (peer_found : system.threads[other]? = some peer) (role : peer.info = .worker worker bundle) :
    Undisturbed bundle system.state (exec op system.state).2 := by
  have owed := inv.sound.guar found next (allowed_of_timely timely)
  have serves : system.Serves other worker bundle := ⟨peer, peer_found, role⟩
  have issued := inv.ledger.issued other worker bundle serves
  cases performer : thread.info with
  | worker ownWorker ownBundle =>
      rw [performer] at owed
      have own_serves : system.Serves index ownWorker ownBundle := ⟨thread, found, performer⟩
      constructor
      · intro item' located shown
        refine undisturbed_item issued intact ?_ located shown
        rintro fields rfl kept item item_found carries
        obtain ⟨same_id, own⟩ := owed.2.2 kept
        exact inv.ledger.distinct other index worker ownWorker bundle ownBundle differ serves
          own_serves ⟨same_id, carries.unique (own item item_found)⟩
      · intro run' located
        have runs_ne := inv.distinct other index worker ownWorker bundle ownBundle differ serves
          own_serves
        have change := exec_run system.state op bundle.attempt.runId
        rw [located] at change
        generalize after_eq : some run' = after at change
        cases change with
        | same => exact ⟨run', after_eq.symm, .inl rfl⟩
        | inserted id_eq => exact (runs_ne (id_eq.symm.trans owed.2.2)).elim
        | updated before => exact (runs_ne owed.2.2).elim
  | operator call =>
      rw [performer] at owed
      constructor
      · intro item' located shown
        refine undisturbed_item issued intact ?_ located shown
        rintro fields rfl kept item item_found carries
        have cleared : fields.clearClaim = true := owed.2.2
        rw [cleared] at kept
        cases kept
      · intro run' located
        have change := exec_run system.state op bundle.attempt.runId
        rw [located] at change
        generalize after_eq : some run' = after at change
        cases change with
        | same => exact ⟨run', after_eq.symm, .inl rfl⟩
        | inserted id_eq => exact owed.2.2.elim
        | updated before =>
            cases after_eq
            exact ⟨_, before, .inr owed.2.2⟩

variable {index : Nat}

theorem undisturbed_claim (ledger : Ledger system)
    (serves : system.Serves index worker bundle) (request : ClaimRequest) :
    Undisturbed bundle system.state
      (exec (.claimNextRuntimeQueueAttempt request) system.state).2 where
  item _ located shown :=
    undisturbed_item (ledger.issued index worker bundle serves) id (fun _ op_eq => by cases op_eq)
      located shown
  run run' located := by
    rw [exec_runs system.state rfl] at located
    exact ⟨run', located, .inl rfl⟩

theorem owner_perform (inv : Inv system)
    {thread : Thread Op.Reply Plane (Role OperatorCall) PyError Unit}
    (found : system.threads[index]? = some thread)
    (owed : (contract thread.info).guar op system.state) {runId : Text} {run : RuntimeRun}
    (located : (exec op system.state).2.runs.get? runId = some run) :
    system.Named (·.attempt.runId) runId := by
  have change := exec_run system.state op runId
  rw [located] at change
  generalize after_eq : some run = after at change
  cases change with
  | same => exact inv.owned runId run after_eq.symm
  | inserted id_eq =>
      cases performer : thread.info with
      | worker worker bundle =>
          rw [performer] at owed
          exact ⟨index, worker, bundle, ⟨thread, found, performer⟩, owed.2.2.symm.trans id_eq⟩
      | operator call =>
          rw [performer] at owed
          exact owed.2.2.elim
  | updated before => exact inv.owned runId _ before

theorem Inv.initial (clock : Datetime) (artifacts : JsonArtifactStore) :
    Inv (System.initial clock artifacts) where
  ledger := Ledger.initial clock artifacts
  sound index thread found := by simp [System.initial] at found
  owned _ _ found := by cases found
  distinct _ _ _ _ _ _ _ := by
    rintro ⟨thread, found, _⟩
    simp [System.initial] at found

theorem Inv.claim (inv : Inv system) {claimedAt : Datetime}
    (prompt : Prompt system (.claim worker claimedAt)) : Inv (system.claim worker claimedAt) := by
  have ledger := inv.ledger.claim worker claimedAt
  have sound : Pool.Sound exec contract
      ({ system with state := (exec (worker.claimOp claimedAt) system.state).2 } :
        System OperatorCall) :=
    inv.sound.of_rely fun index thread found _ => rely_of_worker fun _ _ role =>
      undisturbed_claim inv.ledger ⟨thread, found, role⟩ _
  have runs_eq : (exec (worker.claimOp claimedAt) system.state).2.runs = system.state.runs :=
    exec_runs system.state rfl
  have owned : ∀ runId run, (exec (worker.claimOp claimedAt) system.state).2.runs.get? runId =
      some run → system.Named (·.attempt.runId) runId := by
    intro runId run found
    rw [runs_eq] at found
    exact inv.owned runId run found
  revert ledger
  unfold System.claim
  cases taken : system.state.store.selected
      (claimRequest worker.config worker.workerId claimedAt) with
  | none => exact fun ledger => ⟨ledger, sound, owned, inv.distinct⟩
  | some item =>
      intro ledger
      have unused := prompt item taken
      have stored := inv.ledger.keyed.claimed_item taken
      refine ⟨ledger, sound.spawn ((phases _ worker).serve_meets worker ⟨?_, ?_⟩), ?_, ?_⟩
      · intro other found _
        have located : some (item.claimed _) = some other := stored.symm.trans found
        cases located
        rfl
      · change (exec (worker.claimOp claimedAt) system.state).2.runs.get? _ = none
        rw [runs_eq, QueueItem.bundle_runId]
        cases found : system.state.runs.get? (attemptRunId item (item.attempts + 1)) with
        | none => rfl
        | some run => exact (System.not_named unused (inv.owned _ run found)).elim
      · exact fun runId run found => (owned runId run found).spawn
      · refine System.Distinct.spawn inv.distinct fun bundle claimed => ?_
        obtain rfl : item.bundle _ = bundle := Option.some.inj claimed
        simpa only [QueueItem.bundle_runId] using unused

theorem Inv.perform (inv : Inv system)
    (prompt : Prompt system (.perform index)) : Inv (Pool.step exec system index) := by
  cases found : system.threads[index]? with
  | none => rwa [Pool.step_of_none exec found]
  | some thread =>
      have careful : ∀ op, thread.nextOp = some op →
          Timely thread.info system.state op ∧ ¬Overwrites system.state op :=
        prompt thread found
      have owed : ∀ op, thread.nextOp = some op → (contract thread.info).guar op system.state :=
        fun op next => inv.sound.guar found next (allowed_of_timely (careful op next).1)
      have ledger := inv.ledger.perform found (fun op next => (guar_spec (owed op next)).1)
        fun op next => (careful op next).2
      have sound : Pool.Sound exec contract (Pool.step exec system index) := by
        refine inv.sound.step found (fun op next => allowed_of_timely (careful op next).1) ?_
        intro other peer differ peer_found _
        refine rely_of_worker fun worker bundle role => ?_
        cases next : thread.nextOp with
        | none =>
            rw [Thread.effect_of_done exec next]
            exact Undisturbed.of_same bundle rfl rfl
        | some op =>
            rw [Thread.effect_of_nextOp exec next]
            exact undisturbed_perform inv differ found next (careful op next).1
              (careful op next).2 peer_found role
      refine ⟨ledger, sound, ?_, ?_⟩
      · intro runId run located
        rw [Pool.step_of_thread exec found] at located
        refine System.Named.step ?_ index
        cases next : thread.nextOp with
        | none =>
            rw [Thread.effect_of_done exec next] at located
            exact inv.owned runId run located
        | some op =>
            rw [Thread.effect_of_nextOp exec next] at located
            exact owner_perform inv found (owed op next) located
      · exact inv.distinct.step index

theorem Inv.step (inv : Inv system) {event : Event OperatorCall} (prompt : Prompt system event) :
    Inv (system.step OperatorCall.program event) := by
  cases event with
  | tick micros =>
      refine ⟨inv.ledger.tick _, inv.sound.of_rely fun _ _ _ _ => ?_, inv.owned, inv.distinct⟩
      exact rely_of_worker fun _ bundle _ => Undisturbed.of_same bundle rfl rfl
  | call call =>
      exact ⟨inv.ledger.call _ _, inv.sound.spawn (call_meets call _),
        fun runId run found => (inv.owned runId run found).spawn, inv.distinct.call _ _⟩
  | claim worker claimedAt =>
      by_cases past : claimedAt ≤ system.state.clock
      · simpa [System.step, past] using inv.claim prompt
      · simpa [System.step, past] using inv
  | perform index => exact inv.perform prompt
  | crash index =>
      exact ⟨inv.ledger.crash _ _, inv.sound.crash,
        fun runId run found => (inv.owned runId run found).crash _ _, inv.distinct.crash _ _⟩

theorem Inv.disciplined (inv : Inv system) {event : Event OperatorCall}
    (prompt : Prompt system event) : Disciplined system event := by
  unfold Disciplined
  rcases System.step_state OperatorCall.program system event with
    ⟨clock, state_eq⟩ | ⟨claimer, claimedAt, rfl, state_eq⟩ | ⟨index, op, rfl, next, state_eq⟩
  · rw [state_eq]
    exact lawful_of_same rfl rfl
  · rw [state_eq]
    exact lawful_exec inv.ledger.keyed id trivial
  · rw [state_eq]
    obtain ⟨thread, found, performs⟩ := System.nextOp_eq_some.mp next
    obtain ⟨timely, intact⟩ := prompt thread found op performs
    have owed := inv.sound.guar found performs (allowed_of_timely timely)
    exact lawful_exec inv.ledger.keyed intact (guar_spec owed).2

end System

section Runs

variable {system : System OperatorCall} {events : List (Event OperatorCall)}

theorem item_ended (run : Steps (System.step OperatorCall.program) Disciplined system events)
    {queueId : Text} {item : QueueItem} (found : system.state.items.get? queueId = some item)
    (ended : item.status.terminal) :
    ∃ item', (system.after OperatorCall.program events).state.items.get? queueId = some item' ∧
      item'.status = item.status := by
  induction events generalizing system item with
  | nil => exact ⟨item, found, rfl⟩
  | cons event rest ih =>
      obtain ⟨item', found', changed⟩ := run.1.item queueId item found
      have same : item'.status = item.status := by
        rcases changed with same | leads
        · exact same
        · rw [RuntimeQueueStatus.not_leadsTo_of_terminal ended] at leads
          cases leads
      obtain ⟨last, last_found, last_eq⟩ := ih run.2 found' (by rwa [same])
      exact ⟨last, last_found, last_eq.trans same⟩

theorem run_ended (steps : Steps (System.step OperatorCall.program) Disciplined system events)
    {runId : Text} {run : RuntimeRun} (found : system.state.runs.get? runId = some run)
    (ended : run.status.terminal) :
    ∃ run', (system.after OperatorCall.program events).state.runs.get? runId = some run' ∧
      run'.status = run.status := by
  induction events generalizing system run with
  | nil => exact ⟨run, found, rfl⟩
  | cons event rest ih =>
      obtain ⟨run', found', same⟩ := steps.1.run runId run found ended
      obtain ⟨last, last_found, last_eq⟩ := ih steps.2 found' (by rwa [same])
      exact ⟨last, last_found, last_eq.trans same⟩

end Runs

/-- In a run without late writes, overwritten items and reused run identifiers, every status change
is a transition of the contract, and what has ended, cancelled items and runs included, stays as it
ended. -/
theorem status_discipline (clock : Datetime) (artifacts : JsonArtifactStore)
    (before later : List (Event OperatorCall))
    (prompt : Steps (System.step OperatorCall.program) Prompt (System.initial clock artifacts)
      (before ++ later)) :
    Steps (System.step OperatorCall.program) Disciplined (System.initial clock artifacts)
        (before ++ later) ∧
      (∀ queueId item, ((System.initial clock artifacts).after OperatorCall.program
          before).state.items.get? queueId = some item → item.status.terminal →
        ∃ item', ((System.initial clock artifacts).after OperatorCall.program
            (before ++ later)).state.items.get? queueId = some item' ∧
          item'.status = item.status) ∧
      ∀ runId run, ((System.initial clock artifacts).after OperatorCall.program
          before).state.runs.get? runId = some run → run.status.terminal →
        ∃ run', ((System.initial clock artifacts).after OperatorCall.program
            (before ++ later)).state.runs.get? runId = some run' ∧
          run'.status = run.status := by
  have disciplined : Steps (System.step OperatorCall.program) Disciplined
      (System.initial clock artifacts) (before ++ later) :=
    prompt.of_invariant Inv (Inv.initial clock artifacts)
      (fun _ _ inv careful => inv.step careful) fun _ _ inv careful => inv.disciplined careful
  have later_disciplined := disciplined.suffix
  refine ⟨disciplined, ?_, ?_⟩
  · intro queueId item found ended
    rw [System.after_append]
    exact item_ended later_disciplined found ended
  · intro runId run found ended
    rw [System.after_append]
    exact run_ended later_disciplined found ended

/-- A worker fails its attempt, then an operator cancels the rescheduled item. -/
def cancelledLater : List (Event OperatorCall) :=
  Event.call (Sample.enqueueUnauthorized "task-a" "tenant-a") :: List.replicate 4 (.perform 0) ++
    Event.claim (Sample.worker "worker-a") Sample.clock :: List.replicate 14 (.perform 1) ++
    Event.call (.cancel "queue-task-a-initial" none) :: List.replicate 9 (.perform 2)

/-- The cancelled item is retried by hand. -/
def retriedByHand : List (Event OperatorCall) :=
  Event.call (.retry { queueId := "queue-task-a-initial" }) :: List.replicate 9 (.perform 3)

theorem status_discipline_retriedByHand :
    Steps (System.step OperatorCall.program) Disciplined (System.initial Sample.clock .empty)
        (cancelledLater ++ retriedByHand) ∧
      (∀ queueId item, ((System.initial Sample.clock .empty).after OperatorCall.program
          cancelledLater).state.items.get? queueId = some item → item.status.terminal →
        ∃ item', ((System.initial Sample.clock .empty).after OperatorCall.program
            (cancelledLater ++ retriedByHand)).state.items.get? queueId = some item' ∧
          item'.status = item.status) ∧
      ∀ runId run, ((System.initial Sample.clock .empty).after OperatorCall.program
          cancelledLater).state.runs.get? runId = some run → run.status.terminal →
        ∃ run', ((System.initial Sample.clock .empty).after OperatorCall.program
            (cancelledLater ++ retriedByHand)).state.runs.get? runId = some run' ∧
          run'.status = run.status :=
  status_discipline Sample.clock .empty cancelledLater retriedByHand (by decide)

/-- An operator cancels the item while the worker still works on it. -/
def cancelledMeanwhile : List (Event OperatorCall) :=
  Event.call (Sample.enqueueUnauthorized "task-a" "tenant-a") :: List.replicate 4 (.perform 0) ++
    Event.claim (Sample.worker "worker-a") Sample.clock ::
      Event.call (.cancel "queue-task-a-initial" none) :: List.replicate 9 (.perform 2) ++
    List.replicate 5 (Event.perform 1)

/-- The worker's failure write reschedules the cancelled item. -/
theorem cancelledMeanwhile_rescheduled :
    ¬Steps (System.step OperatorCall.program) Disciplined (System.initial Sample.clock .empty)
      (cancelledMeanwhile ++ [.perform 1]) := by
  intro run
  have lawful := run.last.item "queue-task-a-initial"
  have cancelled : ((System.initial Sample.clock .empty).after OperatorCall.program
      cancelledMeanwhile |>.state.items.get? "queue-task-a-initial").any
        (·.status = .cancelled) = true := by
    decide
  have rescheduled : ((System.initial Sample.clock .empty).after OperatorCall.program
      (cancelledMeanwhile ++ [.perform 1]) |>.state.items.get? "queue-task-a-initial").any
        (·.status = .retryScheduled) = true := by
    decide
  simp only [Option.any_eq_true, decide_eq_true_eq] at cancelled rescheduled
  obtain ⟨item, found, item_status⟩ := cancelled
  obtain ⟨item', found', item'_status⟩ := rescheduled
  rw [System.after_append] at found'
  obtain ⟨next, next_found, changed⟩ := lawful item found
  have same : some next = some item' := next_found.symm.trans found'
  cases same
  rw [item_status, item'_status] at changed
  rcases changed with equal | leads
  · cases equal
  · cases leads

end StatusDiscipline

end SkillCentric
