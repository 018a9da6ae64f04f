import SkillCentric.Properties.Ownership

/-!
# Lease fencing

When does a queue item change only through the worker that holds it?  The store addresses items by
identifier alone, so everything rests on recovery: a lease must be taken back only from a worker
that is gone.
-/

namespace SkillCentric

open Contract RuntimeQueueManager

namespace LeaseFencing

/-- Workers, heartbeats, recovery and enqueues. -/
def InScope : Event OperatorCall → Bool
  | .call (.cancel _ _) | .call (.retry _) => false
  | _ => true

/-- The thread is a live worker whose claim the item under its identifier shows, and recovery at
`now` would take the item. -/
def LosesLease (plane : Plane) (now : Text)
    (thread : Thread Op.Reply Plane (Role OperatorCall) PyError Unit) : Prop :=
  match thread.info with
  | .worker _ bundle =>
      thread.Live ∧ (plane.items.get? bundle.queueItem.id).any fun item =>
        decide (Carries item bundle) && item.stale now
  | .operator _ => False

instance (plane : Plane) (now : Text)
    (thread : Thread Op.Reply Plane (Role OperatorCall) PyError Unit) :
    Decidable (LosesLease plane now thread) := by
  unfold LosesLease
  split <;> infer_instance

/-- The operation replaces no item, and recovery takes no lease from a worker at work. -/
def AttendedOp (system : System OperatorCall) (op : Op) : Prop :=
  ¬Overwrites system.state op ∧
    match op with
    | .recoverStaleRuntimeQueueItems now =>
        ∀ thread ∈ system.threads, ¬LosesLease system.state now thread
    | _ => True

instance (system : System OperatorCall) (op : Op) : Decidable (AttendedOp system op) := by
  unfold AttendedOp
  rcases op with ⟨⟩ <;> infer_instance

/-- A step that inserts over no other item and recovers no lease of a live worker. -/
def Attended (system : System OperatorCall) : Event OperatorCall → Prop
  | .perform index => ∀ op ∈ system.nextOp index, AttendedOp system op
  | _ => True

instance (system : System OperatorCall) (event : Event OperatorCall) :
    Decidable (Attended system event) := by
  unfold Attended
  rcases event with ⟨⟩ <;> infer_instance

/-- Worker operations change an item only while it shows the worker's claim, a claim once lost is
never shown again, and a claim that another thread takes away leaves a worker that does nothing
more. -/
def Fenced (system : System OperatorCall) (event : Event OperatorCall) : Prop :=
  (∀ index worker bundle, event = .perform index → system.Serves index worker bundle →
    ∀ queueId item, system.state.items.get? queueId = some item →
      (system.step OperatorCall.program event).state.items.get? queueId = some item ∨
        queueId = bundle.queueItem.id ∧ Carries item bundle) ∧
  (∀ index worker bundle, system.Serves index worker bundle → ¬Held system.state bundle →
    ¬Held (system.step OperatorCall.program event).state bundle) ∧
  ∀ index worker bundle, event ≠ .perform index → system.Serves index worker bundle →
    Held system.state bundle → ¬Held (system.step OperatorCall.program event).state bundle →
      system.nextOp index = none

/-- The operation writes the item of its own claim only, while that claim holds. -/
def OwnOnly (bundle : ClaimBundle) (op : Op) (plane : Plane) : Prop :=
  ∀ queueId item, plane.items.get? queueId = some item →
    (exec op plane).2.items.get? queueId = some item ∨
      queueId = bundle.queueItem.id ∧ Carries item bundle

/-- What operators do: they update no item. -/
def CallOp : Op → Prop
  | .updateRuntimeQueueItem _ _ => False
  | op => op.Sane

/-- A worker writes under its own claim, which the others leave as it is. -/
def contract : Role OperatorCall → Contract Op Plane
  | .worker _ bundle =>
      { rely := fun before after => Held before bundle → Held after bundle
        allowed := fun _ _ _ => True
        guar := fun op plane => op.Sane ∧ OwnOnly bundle op plane
        rely_refl := fun _ held => held
        rely_trans := fun _ _ _ first second held => second (first held) }
  | .operator _ =>
      { rely := fun _ _ => True
        allowed := fun _ _ _ => True
        guar := fun op _ => CallOp op
        rely_refl := fun _ => trivial
        rely_trans := fun _ _ _ _ _ => trivial }

section Worker

variable {bundle : ClaimBundle} {plane : Plane} {op : Op}

theorem ownOnly_of_untouched (untouched : op.touchesItems = false) : OwnOnly bundle op plane := by
  intro queueId item found
  rw [exec_items plane untouched]
  exact .inl found

theorem ownOnly_update {fields : StatusFields} (held : Held plane bundle) :
    OwnOnly bundle (.updateRuntimeQueueItem bundle.queueItem.id fields) plane := by
  intro queueId item found
  obtain ⟨own, located, shown⟩ := held
  have change := exec_item plane (.updateRuntimeQueueItem bundle.queueItem.id fields) queueId
  generalize (exec _ plane).2.items.get? queueId = after at change
  cases change with
  | same => exact .inl found
  | updated before =>
      rw [located] at found
      cases found
      exact .inr ⟨rfl, shown⟩

theorem ownOnly_heartbeat {fields : HeartbeatFields} (held : Held plane bundle) :
    OwnOnly bundle (.heartbeatRuntimeQueueItem bundle.queueItem.id fields) plane := by
  intro queueId item found
  obtain ⟨own, located, shown⟩ := held
  have change := exec_item plane (.heartbeatRuntimeQueueItem bundle.queueItem.id fields) queueId
  generalize (exec _ plane).2.items.get? queueId = after at change
  cases change with
  | same => exact .inl found
  | refreshed before =>
      rw [located] at found
      cases found
      exact .inr ⟨rfl, shown⟩

theorem held_of_untouched (untouched : op.touchesItems = false) (held : Held plane bundle) :
    Held (exec op plane).2 bundle := by
  obtain ⟨item, found, shown⟩ := held
  exact ⟨item, by rw [exec_items plane untouched, found], shown⟩

theorem held_update {fields : StatusFields} (kept : fields.clearClaim = false)
    (held : Held plane bundle) :
    Held (exec (.updateRuntimeQueueItem bundle.queueItem.id fields) plane).2 bundle := by
  obtain ⟨item, found, claimer, attempt⟩ := held
  exact ⟨fields.apply item, exec_update_item found, by simpa [kept] using claimer,
    by simpa using attempt⟩

theorem held_heartbeat {queueId : Text} {fields : HeartbeatFields} (held : Held plane bundle) :
    Held (exec (.heartbeatRuntimeQueueItem queueId fields) plane).2 bundle := by
  obtain ⟨item, found, shown⟩ := held
  have change := exec_item plane (.heartbeatRuntimeQueueItem queueId fields) bundle.queueItem.id
  generalize after_eq :
    (exec (.heartbeatRuntimeQueueItem queueId fields) plane).2.items.get? bundle.queueItem.id =
      after at change
  cases change with
  | same => exact ⟨item, after_eq.trans found, shown⟩
  | refreshed before =>
      rw [found] at before
      cases before
      exact ⟨_, after_eq, shown⟩

variable (worker : RuntimeQueueWorker) (bundle)

/-- The worker keeps its claim until it writes the outcome. -/
def phases : WorkerPhases (contract (.worker worker bundle)) bundle where
  holds phase plane :=
    match phase with
    | .fresh | .started | .running => Held plane bundle
    | .released | .closed => True
  runOpen _ := True
  stable phase before after change := by
    cases phase <;> first | exact change | exact id
  stable_open _ _ _ _ := trivial
  relax _ _ _ _ := trivial
  observe _ _ _ _ := trivial
  aside op past plane items _ _ _ := by
    refine ⟨⟨Op.sane_of_untouched items, ownOnly_of_untouched items⟩, fun phase holds => ?_⟩
    cases phase <;> first | exact held_of_untouched items holds | trivial
  open_aside _ _ _ _ := trivial
  insertRun record past plane _ _ holds _ :=
    ⟨⟨trivial, ownOnly_of_untouched rfl⟩, held_of_untouched rfl holds, trivial⟩
  updateRun phase fields past plane _ holds _ _ := by
    refine ⟨⟨trivial, ownOnly_of_untouched rfl⟩, ?_⟩
    cases phase <;> first | exact held_of_untouched rfl holds | trivial
  markRunning fields past plane status kept holds _ :=
    ⟨⟨.inl ⟨.inl status, kept⟩, ownOnly_update holds⟩, held_update kept holds⟩
  release phase fields past plane releases holds _ := by
    refine ⟨?_, trivial⟩
    refine ⟨releases.sane, ?_⟩
    cases releases with
    | succeeded _ _ => exact ownOnly_update holds
    | cancelled _ _ => exact ownOnly_update holds
    | failed pending _ _ => rcases pending with rfl | rfl | rfl <;> exact ownOnly_update holds
  heartbeat fields past plane holds _ :=
    ⟨⟨trivial, ownOnly_heartbeat holds⟩, held_heartbeat holds⟩
  recordProfile _ _ _ past plane holds _ :=
    ⟨⟨trivial, ownOnly_of_untouched rfl⟩, held_of_untouched rfl holds⟩
  closeAttempt _ _ _ past plane _ _ := ⟨⟨trivial, ownOnly_of_untouched rfl⟩, trivial⟩

end Worker

section System

variable {system : System OperatorCall}

/-- The bookkeeping, and every thread meets its contract. -/
structure Inv (system : System OperatorCall) : Prop where
  ledger : Ledger system
  sound : Pool.Sound exec contract system

theorem contract_allowed (role : Role OperatorCall) (past : List (Op × Plane)) (op : Op)
    (plane : Plane) : (contract role).allowed past op plane := by
  cases role <;> trivial

theorem rely_of_worker {role : Role OperatorCall} {before after : Plane}
    (kept : ∀ worker bundle, role = .worker worker bundle → Held before bundle →
      Held after bundle) : (contract role).rely before after := by
  cases role with
  | worker worker bundle => exact kept worker bundle rfl
  | operator call => trivial

private theorem callOp_of_performs {call : OperatorCall} (scope : InScope (.call call)) {op : Op}
    (performs : call.Performs op) : CallOp op := by
  cases op with
  | updateRuntimeQueueItem queueId fields =>
      obtain ⟨-, -, runId, rfl⟩ := performs
      cases scope
  | _ => exact performs.sane

theorem call_meets {call : OperatorCall} (scope : InScope (.call call)) (plane : Plane) :
    (contract (.operator call)).Meets exec [] call.program (fun _ _ _ => True) plane := by
  have triple : (contract (.operator call)).Triple exec (fun _ => True) call.program
      (fun _ _ => True ∧ True) (fun _ _ => True) :=
    triple_of_yields call.program_performs (fun _ _ _ _ => trivial)
      fun op _ _ performs _ _ => ⟨callOp_of_performs scope performs, trivial⟩
  exact (triple [] plane trivial).mono fun _ _ _ _ => trivial

variable {bundle : ClaimBundle} {worker : RuntimeQueueWorker} {index : Nat}
  {event : Event OperatorCall}

theorem held_claim (ledger : Ledger system) (request : ClaimRequest)
    (held : Held system.state bundle) :
    Held (exec (.claimNextRuntimeQueueAttempt request) system.state).2 bundle := by
  obtain ⟨item, found, shown⟩ := held
  have change := exec_item system.state (.claimNextRuntimeQueueAttempt request) bundle.queueItem.id
  generalize after_eq : (exec (.claimNextRuntimeQueueAttempt request) system.state).2.items.get?
    bundle.queueItem.id = after at change
  cases change with
  | same => exact ⟨item, after_eq.trans found, shown⟩
  | claimed selected id_eq before =>
      have located := ledger.keyed.selected selected
      rw [id_eq, found] at located
      cases located
      have claimable := (InMemoryRuntimeStore.selected_spec selected).2.1
      have unclaimed := ledger.waiting _ _ found claimable
      rw [shown.1] at unclaimed
      cases unclaimed

theorem held_perform (inv : Inv system) {index other : Nat} (differ : other ≠ index)
    {thread peer : Thread Op.Reply Plane (Role OperatorCall) PyError Unit}
    (found : system.threads[index]? = some thread) {op : Op} (next : thread.nextOp = some op)
    (attended : AttendedOp system op) (peer_found : system.threads[other]? = some peer)
    (live : peer.Live)
    (role : peer.info = .worker worker bundle) (held : Held system.state bundle) :
    Held (exec op system.state).2 bundle := by
  have owed := inv.sound.guar found next (contract_allowed _ _ _ _)
  obtain ⟨item, located, shown⟩ := held
  cases performer : thread.info with
  | worker ownWorker ownBundle =>
      rw [performer] at owed
      rcases owed.2 _ _ located with same | ⟨same_id, own⟩
      · exact ⟨item, same, shown⟩
      · exact (inv.ledger.distinct other index worker ownWorker bundle ownBundle differ
          ⟨peer, peer_found, role⟩ ⟨thread, found, performer⟩
          ⟨same_id, shown.unique own⟩).elim
  | operator call =>
      rw [performer] at owed
      have change := exec_item system.state op bundle.queueItem.id
      generalize after_eq : (exec op system.state).2.items.get? bundle.queueItem.id = after
        at change
      cases change with
      | same => exact ⟨item, after_eq.trans located, shown⟩
      | inserted id_eq unknown =>
          refine (attended.1 ⟨?_, unknown⟩).elim
          rw [id_eq, located]
          rfl
      | updated _ => exact owed.elim
      | refreshed before =>
          rw [located] at before
          cases before
          exact ⟨_, after_eq, shown⟩
      | claimed _ _ _ => exact owed.elim
      | recovered before stale =>
          rw [located] at before
          cases before
          have member := List.mem_of_getElem? peer_found
          refine (attended.2 peer member ?_).elim
          simp only [LosesLease, role]
          exact ⟨live, by simp [located, shown, stale]⟩

theorem Inv.initial (clock : Datetime) (artifacts : JsonArtifactStore) :
    Inv (System.initial clock artifacts) where
  ledger := Ledger.initial clock artifacts
  sound index thread found := by simp [System.initial] at found

theorem Inv.claim (inv : Inv system) (worker : RuntimeQueueWorker) (claimedAt : Datetime) :
    Inv (system.claim worker claimedAt) := by
  refine ⟨inv.ledger.claim worker claimedAt, ?_⟩
  have sound : Pool.Sound exec contract
      ({ system with state := (exec (worker.claimOp claimedAt) system.state).2 } :
        System OperatorCall) :=
    inv.sound.of_rely fun _ _ _ _ => rely_of_worker fun _ _ _ held => held_claim inv.ledger _ held
  unfold System.claim
  cases taken : system.state.store.selected
      (claimRequest worker.config worker.workerId claimedAt) with
  | none => exact sound
  | some item =>
      have stored := inv.ledger.keyed.claimed_item taken
      exact sound.spawn ((phases _ worker).serve_meets worker ⟨_, stored, rfl, rfl⟩)

theorem Inv.perform (inv : Inv system)
    (attended : Attended system (.perform index)) : Inv (Pool.step exec system index) := by
  cases found : system.threads[index]? with
  | none => rwa [Pool.step_of_none exec found]
  | some thread =>
      have attended_op : ∀ op, thread.nextOp = some op → AttendedOp system op := fun op next =>
        attended op (System.nextOp_eq_some.mpr ⟨thread, found, next⟩)
      have sane : ∀ op, thread.nextOp = some op → op.Sane := by
        intro op next
        have owed := inv.sound.guar found next (contract_allowed _ _ _ _)
        cases performer : thread.info with
        | worker worker bundle =>
            rw [performer] at owed
            exact owed.1
        | operator call =>
            rw [performer] at owed
            cases op <;> first | exact owed | exact owed.elim
      refine ⟨inv.ledger.perform found sane fun op next => (attended_op op next).1, ?_⟩
      refine inv.sound.step found (fun _ _ => contract_allowed _ _ _ _) ?_
      intro other peer differ peer_found live
      refine rely_of_worker fun worker bundle role held => ?_
      cases next : thread.nextOp with
      | none => rwa [Thread.effect_of_done exec next]
      | some op =>
          rw [Thread.effect_of_nextOp exec next]
          exact held_perform inv differ found next (attended_op op next) peer_found live role held

theorem Inv.step (inv : Inv system) (scope : InScope event)
    (attended : Attended system event) : Inv (system.step OperatorCall.program event) := by
  cases event with
  | tick micros =>
      refine ⟨inv.ledger.tick _, inv.sound.of_rely fun _ _ _ _ => ?_⟩
      exact rely_of_worker fun _ _ _ held => held
  | call call => exact ⟨inv.ledger.call _ _, inv.sound.spawn (call_meets scope _)⟩
  | claim worker claimedAt =>
      by_cases past : claimedAt ≤ system.state.clock
      · simpa [System.step, past] using inv.claim worker claimedAt
      · simpa [System.step, past] using inv
  | perform index => exact inv.perform attended
  | crash index => exact ⟨inv.ledger.crash _ _, inv.sound.crash⟩

theorem Inv.own_only (inv : Inv system)
    (serves : system.Serves index worker bundle) {queueId : Text}
    {item : QueueItem} (located : system.state.items.get? queueId = some item) :
    (system.step OperatorCall.program (.perform index)).state.items.get? queueId = some item ∨
      queueId = bundle.queueItem.id ∧ Carries item bundle := by
  obtain ⟨thread, found, role⟩ := serves
  rcases System.step_state OperatorCall.program system (.perform index) with
    ⟨clock, state_eq⟩ | ⟨_, _, event_eq, -⟩ | ⟨_, op, event_eq, next, state_eq⟩
  · rw [state_eq]
    exact .inl located
  · cases event_eq
  · cases event_eq
    obtain ⟨performer, performer_found, performs⟩ := System.nextOp_eq_some.mp next
    rw [found] at performer_found
    cases performer_found
    have owed := inv.sound.guar found performs (contract_allowed _ _ _ _)
    rw [role] at owed
    rw [state_eq]
    exact owed.2 queueId item located

theorem Inv.lost (inv : Inv system) (attended : Attended system event)
    (serves : system.Serves index worker bundle) (lost : ¬Held system.state bundle) :
    ¬Held (system.step OperatorCall.program event).state bundle := by
  rintro ⟨item, located, shown⟩
  have issued := inv.ledger.issued index worker bundle serves
  rcases System.step_state OperatorCall.program system event with
    ⟨clock, state_eq⟩ | ⟨claimer, claimedAt, rfl, state_eq⟩ | ⟨_, op, rfl, next, state_eq⟩
  · rw [state_eq] at located
    exact lost ⟨item, located, shown⟩
  · rw [state_eq] at located
    have intact : ¬Overwrites system.state (claimer.claimOp claimedAt) := id
    obtain ⟨before, before_found, before_shown, -⟩ := issued.retained intact located shown
    exact lost ⟨before, before_found, before_shown⟩
  · rw [state_eq] at located
    obtain ⟨before, before_found, before_shown, -⟩ :=
      issued.retained (attended op next).1 located shown
    exact lost ⟨before, before_found, before_shown⟩

theorem Inv.silent (inv : Inv system)
    (attended : Attended system event) (differ : event ≠ .perform index)
    (serves : system.Serves index worker bundle) (held : Held system.state bundle)
    (lost : ¬Held (system.step OperatorCall.program event).state bundle) :
    system.nextOp index = none := by
  obtain ⟨peer, peer_found, role⟩ := serves
  cases next : system.nextOp index with
  | none => rfl
  | some op =>
      have live : peer.Live := by
        obtain ⟨thread, found, performs⟩ := System.nextOp_eq_some.mp next
        rw [peer_found] at found
        cases found
        simp [Thread.Live, performs]
      refine (lost ?_).elim
      rcases System.step_state OperatorCall.program system event with
        ⟨clock, state_eq⟩ | ⟨claimer, claimedAt, rfl, state_eq⟩
          | ⟨other, op, rfl, performs, state_eq⟩
      · rw [state_eq]
        exact held
      · rw [state_eq]
        exact held_claim inv.ledger _ held
      · rw [state_eq]
        obtain ⟨thread, found, performs_op⟩ := System.nextOp_eq_some.mp performs
        have other_ne : index ≠ other := fun same => differ (by rw [same])
        exact held_perform inv other_ne found performs_op (attended op performs) peer_found live
          role held

theorem Inv.fenced (inv : Inv system) (attended : Attended system event) : Fenced system event := by
  refine ⟨?_, ?_, ?_⟩
  · rintro index worker bundle rfl serves queueId item located
    exact inv.own_only serves located
  · intro index worker bundle serves lost
    exact inv.lost attended serves lost
  · intro index worker bundle differ serves held lost
    exact inv.silent attended differ serves held lost

end System

/-- In a run whose recoveries take no lease from a live worker and whose inserts land on no other
item, only the worker whose claim an item shows can change the item. -/
theorem lease_fencing (clock : Datetime) (artifacts : JsonArtifactStore)
    (events : List (Event OperatorCall))
    (scope : ∀ event ∈ events, InScope event)
    (attended : Steps (System.step OperatorCall.program) Attended
      (System.initial clock artifacts) events) :
    Steps (System.step OperatorCall.program) Fenced (System.initial clock artifacts) events := by
  have both := attended.and (steps_of_forall (System.step OperatorCall.program)
    (System.initial clock artifacts) fun _ event member => scope event member)
  exact both.of_invariant Inv (Inv.initial clock artifacts)
    (fun system event inv careful => inv.step careful.2 careful.1)
    fun system event inv careful => inv.fenced careful.1

/-- Worker `worker-a` dies, its lease runs out, and `worker-b` takes the recovered item. -/
def handover : List (Event OperatorCall) :=
  Event.call (Sample.enqueueUnauthorized "task-a" "tenant-a") :: List.replicate 4 (.perform 0) ++
    [Event.claim (Sample.worker "worker-a") Sample.clock, .perform 1, .crash 1, .tick 301000000,
      Event.call .recover, .perform 2, .perform 2,
      Event.claim (Sample.worker "worker-b") (Sample.clock + 301000000)] ++
    List.replicate 12 (Event.perform 3)

theorem lease_fencing_handover :
    Steps (System.step OperatorCall.program) Fenced (System.initial Sample.clock .empty)
      handover :=
  lease_fencing Sample.clock .empty handover (by decide) (by decide)

/-- The lease of `worker-a` runs out while it works, and `worker-b` takes the recovered item. -/
def overtaken : List (Event OperatorCall) :=
  Event.call (Sample.enqueueUnauthorized "task-a" "tenant-a") :: List.replicate 4 (.perform 0) ++
    [Event.claim (Sample.worker "worker-a") Sample.clock, .tick 301000000,
      .call .recover, .perform 2,
      .perform 2, .claim (Sample.worker "worker-b") (Sample.clock + 301000000)] ++
    List.replicate 5 (Event.perform 1)

/-- The overtaken worker's failure write takes the item away from `worker-b`. -/
theorem overtaken_not_fenced :
    (∀ event ∈ overtaken ++ [.perform 1], InScope event) ∧
      ¬Steps (System.step OperatorCall.program) Fenced (System.initial Sample.clock .empty)
        (overtaken ++ [.perform 1]) := by
  constructor
  · decide
  · intro run
    have fenced := run.last.1 1
    have broken : ((System.initial Sample.clock .empty).after OperatorCall.program overtaken
        |>.claimOf 1).any (fun bundle =>
      ((System.initial Sample.clock .empty).after OperatorCall.program overtaken
        |>.state.items.get? "queue-task-a-initial").any fun item =>
      ((System.initial Sample.clock .empty).after OperatorCall.program (overtaken ++ [.perform 1])
        |>.state.items.get? "queue-task-a-initial") ≠ some item ∧ ¬Carries item bundle) = true := by
      decide +kernel
    simp only [Option.any_eq_true, decide_eq_true_eq] at broken
    obtain ⟨bundle, claims, item, located, changed, foreign⟩ := broken
    obtain ⟨worker, serves⟩ := System.serves_of_claimOf claims
    rcases fenced worker bundle rfl serves _ item located with same | ⟨-, shown⟩
    · simp only [System.after, List.foldl_append] at changed
      exact changed same
    · exact foreign shown

end LeaseFencing

end SkillCentric
