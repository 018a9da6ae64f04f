import SkillCentric.Runtime.OperatorFootprints

/-!
# The attempt bound

The queue manager's operations one after another.  A claim counts the attempt, and only
`mark_failed_or_retry` compares the count with the maximum.  Stale recovery schedules a retry
without looking at the count, so the bound depends on what it recovers.
-/

namespace SkillCentric

open Contract Program RuntimeQueueManager

namespace AttemptBound

/-- Operations of the queue manager. -/
inductive Command where
  | tick (micros : Nat)
  | enqueue (request : EnqueueRequest)
  | claim (config : RuntimeQueueConfig) (workerId : Text)
  | heartbeat (config : RuntimeQueueConfig) (queueId : Text)
  | markRunning (queueId runId attemptId : Text)
  | markSucceeded (queueId runId : Text)
  /-- `item` is the mapping the caller passes. -/
  | markFailedOrRetry (config : RuntimeQueueConfig) (item : QueueItem) (error : PyError)
      (runId : Option Text)
  | recover
  | cancel (queueId : Text) (runId : Option Text)

/-- The program of an operation. -/
def Command.program : Command → Py Unit
  | .tick _ => return ()
  | .enqueue request => OperatorCall.program (.enqueue request)
  | .claim config workerId => do
      let _ ← claimNextAttempt config workerId
      return ()
  | .heartbeat config queueId => RuntimeQueueManager.heartbeat config queueId
  | .markRunning queueId runId attemptId => RuntimeQueueManager.markRunning queueId runId attemptId
  | .markSucceeded queueId runId => RuntimeQueueManager.markSucceeded queueId runId
  | .markFailedOrRetry config item error runId =>
      RuntimeQueueManager.markFailedOrRetry config item error runId
  | .recover => OperatorCall.program .recover
  | .cancel queueId runId => markCancelled queueId runId

/-- The plane after an operation, whether it returned or raised. -/
def step (plane : Plane) (command : Command) : Plane :=
  match command with
  | .tick micros => { plane with clock := plane.clock + micros }
  | command => (command.program.run exec plane).2

/-- Work is enqueued for at least one attempt. -/
def Proper : Command → Prop
  | .enqueue request => 1 ≤ request.maxAttempts
  | _ => True

/-- Recovery finds no exhausted item, and a failure is reported with the item's current counts,
under a dead-letter identifier that no other item uses. -/
def Careful (plane : Plane) : Command → Prop
  | .recover =>
      ∀ item ∈ plane.items.values, item.stale (isoTimestamp plane.clock) →
        (item.attempts : Int) < item.maxAttempts
  | .markFailedOrRetry _ item _ _ =>
      (∀ stored ∈ plane.items.get? item.id,
        stored.attempts = item.attempts ∧ stored.maxAttempts = item.maxAttempts) ∧
      ∀ record ∈ plane.store.runtimeDeadLetters.get? (deadLetterId item), record.queueId = item.id
  | _ => True

instance (plane : Plane) (command : Command) : Decidable (Careful plane command) := by
  unfold Careful
  rcases command with ⟨⟩ <;> infer_instance

/-- A dead letter names the item. -/
def Lettered (plane : Plane) (queueId : Text) : Prop :=
  ∃ key record, plane.store.runtimeDeadLetters.get? key = some record ∧ record.queueId = queueId

/-- No item is attempted more often than allowed, and an exhausted item that no longer executes
has succeeded, was cancelled, or is dead-lettered with a dead letter. -/
def Bounded (plane : Plane) : Prop :=
  ∀ queueId item, plane.items.get? queueId = some item →
    (item.attempts : Int) ≤ item.maxAttempts ∧
      (item.attempts = item.maxAttempts → item.status.executing = false →
        item.status = .succeeded ∨ item.status = .cancelled ∨
          item.status = .deadLettered ∧ Lettered plane item.id)

/-- What holds of one item, its dead letter apart. -/
structure Counted (item : QueueItem) : Prop where
  bound : (item.attempts : Int) ≤ item.maxAttempts
  left : item.status.claimable → (item.attempts : Int) < item.maxAttempts
  unfailed : item.status ≠ .failed

/-- The invariant; the item `pending`, if any, still lacks its dead letter. -/
structure Inv (pending : Option Text) (plane : Plane) : Prop where
  keyed : plane.Keyed
  counted : ∀ queueId item, plane.items.get? queueId = some item → Counted item
  lettered : ∀ queueId item, plane.items.get? queueId = some item →
    item.status = .deadLettered → some queueId ≠ pending → Lettered plane queueId

variable {plane : Plane}

theorem Inv.bounded (inv : Inv none plane) : Bounded plane := by
  intro queueId item found
  obtain ⟨bound, left, unfailed⟩ := inv.counted queueId item found
  refine ⟨bound, fun exhausted idle => ?_⟩
  have waiting : item.status.claimable = false := by
    by_contra claimable
    have room := left (by simpa using claimable)
    omega
  have id_eq : item.id = queueId := inv.keyed queueId item found
  cases status : item.status with
  | queued => simp [status, RuntimeQueueStatus.claimable] at waiting
  | retryScheduled => simp [status, RuntimeQueueStatus.claimable] at waiting
  | claiming => simp [status, RuntimeQueueStatus.executing] at idle
  | running => simp [status, RuntimeQueueStatus.executing] at idle
  | failed => exact (unfailed status).elim
  | succeeded => exact .inl rfl
  | cancelled => exact .inr (.inl rfl)
  | deadLettered =>
      refine .inr (.inr ⟨rfl, ?_⟩)
      rw [id_eq]
      exact inv.lettered queueId item found status (by simp)

section Operations

variable {plane : Plane} {op : Op}

/-- The item writes that keep the counts. -/
def Keeps (plane : Plane) : Op → Prop
  | .insertRuntimeQueueItem record =>
      record.status = .queued ∧ record.attempts = 0 ∧ 1 ≤ record.maxAttempts
  | .updateRuntimeQueueItem _ fields =>
      fields.status = .running ∨ fields.status = .succeeded ∨ fields.status = .cancelled
  | .recoverStaleRuntimeQueueItems now =>
      ∀ queueId item, plane.items.get? queueId = some item → item.stale now →
        (item.attempts : Int) < item.maxAttempts
  | .insertRuntimeDeadLetter _ => False
  | _ => True

theorem lettered_exec (letters : op.touchesDeadLetters = false) {queueId : Text}
    (lettered : Lettered plane queueId) : Lettered (exec op plane).2 queueId := by
  obtain ⟨key, record, found, owner⟩ := lettered
  refine ⟨key, record, ?_, owner⟩
  rw [exec_deadLetters plane letters, found]

theorem counted_exec (inv : Inv none plane) (keeps : Keeps plane op) {queueId : Text}
    {item : QueueItem} (found : (exec op plane).2.items.get? queueId = some item) :
    Counted item ∧ (item.status = .deadLettered →
      ∃ before, plane.items.get? queueId = some before ∧ before.status = .deadLettered) := by
  have change := exec_item plane op queueId
  rw [found] at change
  generalize after_eq : some item = after at change
  cases change with
  | same => exact ⟨inv.counted queueId item after_eq.symm, fun dead => ⟨item, after_eq.symm, dead⟩⟩
  | inserted _ _ =>
      cases after_eq
      obtain ⟨status, attempts, room⟩ := keeps
      constructor
      · constructor
        · rw [attempts]
          omega
        · intro _
          rw [attempts]
          omega
        · rw [status]
          decide
      · intro dead
        rw [status] at dead
        cases dead
  | updated before =>
      cases after_eq
      have counted := inv.counted queueId _ before
      rcases keeps with status | status | status
      all_goals
        refine ⟨⟨by simpa using counted.bound, ?_, ?_⟩, ?_⟩
        · intro claimable
          rw [StatusFields.apply_status, status] at claimable
          cases claimable
        · rw [StatusFields.apply_status, status]
          decide
        · intro dead
          rw [StatusFields.apply_status, status] at dead
          cases dead
  | refreshed before =>
      cases after_eq
      have counted := inv.counted queueId _ before
      exact ⟨⟨counted.bound, counted.left, counted.unfailed⟩, fun dead => ⟨_, before, dead⟩⟩
  | claimed selected id_eq before =>
      cases after_eq
      have located := inv.keyed.selected selected
      rw [id_eq, before] at located
      cases located
      have room := (inv.counted queueId _ before).left
        (InMemoryRuntimeStore.selected_spec selected).2.1
      refine ⟨⟨?_, ?_, ?_⟩, ?_⟩
      · rw [QueueItem.claimed_attempts, QueueItem.claimed_maxAttempts]
        omega
      · intro claimable
        cases claimable
      · simp
      · intro dead
        cases dead
  | recovered before stale =>
      cases after_eq
      have counted := inv.counted queueId _ before
      have room := keeps queueId _ before stale
      refine ⟨⟨counted.bound, fun _ => room, ?_⟩, ?_⟩
      · simp
      · intro dead
        cases dead

theorem Inv.exec (inv : Inv none plane) (keeps : Keeps plane op) :
    Inv none (exec op plane).2 where
  keyed := inv.keyed.exec op
  counted queueId item found := (counted_exec inv keeps found).1
  lettered queueId item found dead settled := by
    obtain ⟨before, before_found, before_dead⟩ := (counted_exec inv keeps found).2 dead
    have letters : op.touchesDeadLetters = false := by
      cases op with
      | insertRuntimeDeadLetter record => exact keeps.elim
      | _ => rfl
    exact lettered_exec letters (inv.lettered queueId before before_found before_dead settled)

end Operations

section Failure

variable {plane : Plane} {item : QueueItem}

/-- The stored item has the attempts and the bound of this one. -/
def Current (item : QueueItem) (plane : Plane) : Prop :=
  ∀ stored ∈ plane.items.get? item.id,
    stored.attempts = item.attempts ∧ stored.maxAttempts = item.maxAttempts

/-- No dead letter of another item stands under this item's key. -/
def Unshared (item : QueueItem) (plane : Plane) : Prop :=
  ∀ record ∈ plane.store.runtimeDeadLetters.get? (deadLetterId item), record.queueId = item.id

def unlettered (item : QueueItem) : Option Text :=
  if failureStatus item = .deadLettered then some item.id else none

theorem counted_failed {stored : QueueItem} (counted : Counted stored)
    (attempts : stored.attempts = item.attempts) (most : stored.maxAttempts = item.maxAttempts)
    {fields : StatusFields} (status : fields.status = failureStatus item) :
    Counted (fields.apply stored) := by
  have bound := counted.bound
  constructor
  · simpa using bound
  · intro claimable
    rw [StatusFields.apply_status, status] at claimable
    rw [StatusFields.apply_attempts, StatusFields.apply_maxAttempts, attempts, most]
    by_contra exhausted
    rw [failureStatus, if_neg exhausted] at claimable
    cases claimable
  · rw [StatusFields.apply_status, status]
    unfold failureStatus
    split <;> decide

theorem Inv.failed (inv : Inv none plane) (current : Current item plane) {fields : StatusFields}
    (status : fields.status = failureStatus item) :
    Inv (unlettered item) (SkillCentric.exec (.updateRuntimeQueueItem item.id fields) plane).2 where
  keyed := inv.keyed.exec _
  counted queueId after found := by
    have change := exec_item plane (.updateRuntimeQueueItem item.id fields) queueId
    rw [found] at change
    generalize after_eq : some after = result at change
    cases change with
    | same => exact inv.counted queueId after after_eq.symm
    | updated before =>
        cases after_eq
        obtain ⟨attempts, most⟩ := current _ before
        exact counted_failed (inv.counted _ _ before) attempts most status
  lettered queueId after found dead settled := by
    have change := exec_item plane (.updateRuntimeQueueItem item.id fields) queueId
    rw [found] at change
    generalize after_eq : some after = result at change
    cases change with
    | same =>
        exact lettered_exec rfl (inv.lettered queueId after after_eq.symm dead (by simp))
    | updated before =>
        cases after_eq
        rw [StatusFields.apply_status, status] at dead
        simp [unlettered, dead] at settled

theorem Inv.letter {record : DeadLetter} (inv : Inv (some item.id) plane)
    (unshared : Unshared item plane) (key_eq : record.id = deadLetterId item)
    (owner : record.queueId = item.id) :
    Inv none (SkillCentric.exec (.insertRuntimeDeadLetter record) plane).2 where
  keyed := inv.keyed
  counted := inv.counted
  lettered queueId after found dead _ := by
    by_cases same : queueId = item.id
    · subst same
      exact ⟨record.id, record, Dict.get?_set_self _ _ _, owner⟩
    · have pending : some queueId ≠ some item.id := by simpa using same
      obtain ⟨key, letter, located, letter_owner⟩ := inv.lettered queueId after found dead pending
      have key_ne : key ≠ record.id := by
        intro key_same
        rw [key_same, key_eq] at located
        exact same (letter_owner.symm.trans (unshared letter located))
      exact ⟨key, letter, (Dict.get?_set_ne _ _ key_ne).trans located, letter_owner⟩

theorem unshared_of_same {next : Plane} (unshared : Unshared item plane)
    (letters : next.store.runtimeDeadLetters = plane.store.runtimeDeadLetters) :
    Unshared item next := by
  unfold Unshared
  rw [letters]
  exact unshared

variable (config : RuntimeQueueConfig) (item) (error : PyError) (runId : Option Text)

/-- The plane in which the failure of an item may be reported. -/
def Reportable (plane : Plane) : Prop :=
  Inv none plane ∧ Current item plane ∧ Unshared item plane

theorem updateStatus_triple (fields : Text → StatusFields)
    (status : ∀ updatedAt, (fields updatedAt).status = failureStatus item) :
    (alone Op Plane).Triple exec (Reportable item) (updateStatus item.id fields)
      (fun _ plane => Inv (unlettered item) plane ∧ Unshared item plane)
      (fun _ plane => Inv none plane) := by
  have clock : (alone Op Plane).Triple exec (Reportable item) Py.timestamp
      (fun _ => Reportable item) (fun _ plane => Inv none plane) :=
    triple_bind (triple_op (stable_alone _) fun _ _ holds _ => ⟨trivial, holds⟩)
      fun _ => triple_pure fun _ holds => holds
  refine triple_bind clock fun updatedAt => ?_
  have written : (alone Op Plane).Triple exec (Reportable item)
      (Py.call (.updateRuntimeQueueItem item.id (fields updatedAt)))
      (fun result plane =>
        (∀ raised, result = .error raised → Inv none plane) ∧
          (∀ stored, result = .ok stored → Inv (unlettered item) plane ∧ Unshared item plane))
      (fun _ plane => Inv none plane) := by
    refine triple_op (stable_alone _) fun _ now holds _ => ⟨trivial, ?_, ?_⟩
    · intro raised result_eq
      -- only a missing item raises, and then nothing is written
      cases found : now.items.get? item.id with
      | none =>
          have same : (exec (.updateRuntimeQueueItem item.id (fields updatedAt)) now).2 = now := by
            simp [exec, InMemoryRuntimeStore.updateRuntimeQueueItem, found, Plane.withStore]
          rw [same]
          exact holds.1
      | some stored =>
          simp [exec, InMemoryRuntimeStore.updateRuntimeQueueItem, found] at result_eq
    · intro stored _
      exact ⟨holds.1.failed holds.2.1 (status updatedAt), unshared_of_same holds.2.2
        (exec_deadLetters now rfl)⟩
  refine triple_bind written fun result => ?_
  have lifted : (alone Op Plane).Triple exec
      (fun plane => (∀ raised, result = .error raised → Inv none plane) ∧
        (∀ stored, result = .ok stored → Inv (unlettered item) plane ∧ Unshared item plane))
      (Py.lift result) (fun _ plane => Inv (unlettered item) plane ∧ Unshared item plane)
      (fun _ plane => Inv none plane) :=
    triple_ofExcept (fun stored _ result_eq holds => holds.2 stored result_eq)
      fun raised _ result_eq holds => holds.1 raised result_eq
  exact triple_bind lifted fun _ => triple_pure fun _ holds => holds

theorem markFailedOrRetry_triple :
    (alone Op Plane).Triple exec (Reportable item) (markFailedOrRetry config item error runId)
      (fun _ plane => Inv none plane) (fun _ plane => Inv none plane) := by
  have clock : (alone Op Plane).Triple exec (Reportable item) (Py.call .now)
      (fun _ => Reportable item) (fun _ plane => Inv none plane) :=
    triple_op (stable_alone _) fun _ _ holds _ => ⟨trivial, holds⟩
  refine triple_bind clock fun now => ?_
  refine triple_bind (triple_ofExcept (fun _ _ _ holds => holds) fun _ _ _ holds => holds.1)
    fun scheduledAt => ?_
  refine triple_bind (updateStatus_triple item _ fun _ => rfl) fun _ => ?_
  split
  · rename_i dead
    have pending : unlettered item = some item.id := by simp [unlettered, dead]
    have clock : (alone Op Plane).Triple exec
        (fun plane => Inv (unlettered item) plane ∧ Unshared item plane) Py.timestamp
        (fun _ plane => Inv (unlettered item) plane ∧ Unshared item plane)
        (fun _ plane => Inv none plane) :=
      triple_bind (triple_op (stable_alone _) fun _ _ holds _ => ⟨trivial, holds⟩)
        fun _ => triple_pure fun _ holds => holds
    refine triple_bind clock fun createdAt => ?_
    refine triple_op (stable_alone _) fun _ plane holds _ => ⟨trivial, ?_⟩
    have inv := holds.1
    rw [pending] at inv
    exact inv.letter holds.2 rfl rfl
  · rename_i alive
    have pending : unlettered item = none := by simp [unlettered, alive]
    refine triple_pure fun plane holds => ?_
    have inv := holds.1
    rwa [pending] at inv

end Failure

/-- The operation keeps the invariant on every plane. -/
def KeepsAlways (op : Op) : Prop := ∀ plane, Keeps plane op

theorem keepsAlways_of_quiet (op : Op) (quiet : op.quiet = true) : KeepsAlways op := by
  intro plane
  cases op <;> trivial

theorem updateStatus_performs {queueId : Text} {fields : Text → StatusFields}
    (status : ∀ updatedAt, (fields updatedAt).status = .running ∨
      (fields updatedAt).status = .succeeded ∨ (fields updatedAt).status = .cancelled) :
    (updateStatus queueId fields).Performs KeepsAlways := by
  refine performs_bind (performs_timestamp (keepsAlways_of_quiet _ rfl)) fun updatedAt => ?_
  refine performs_bind (performs_call fun _ => status updatedAt) fun _ => ?_
  exact performs_bind performs_lift fun _ => performs_pure

theorem program_performs {command : Command} (proper : Proper command)
    (plain : command ≠ .recover) (reports : ∀ config item error runId,
      command ≠ .markFailedOrRetry config item error runId) :
    command.program.Performs KeepsAlways := by
  have quiet := keepsAlways_of_quiet
  cases command with
  | tick micros => exact performs_pure
  | enqueue request =>
      exact performs_bind (enqueue_performs quiet request fun _ _ _ _ _ _ => ⟨rfl, rfl, proper⟩)
        fun _ => performs_pure
  | claim config workerId =>
      refine performs_bind ?_ fun _ => performs_pure
      exact performs_bind (performs_call (quiet _ rfl)) fun _ => performs_call fun _ => trivial
  | heartbeat config queueId =>
      refine performs_bind (performs_call (quiet _ rfl)) fun now => ?_
      refine performs_bind (performs_call fun _ => trivial) fun _ => ?_
      exact performs_bind performs_lift fun _ => performs_pure
  | markRunning queueId runId attemptId => exact updateStatus_performs fun _ => .inl rfl
  | markSucceeded queueId runId => exact updateStatus_performs fun _ => .inr (.inl rfl)
  | markFailedOrRetry config item error runId => exact (reports _ _ _ _ rfl).elim
  | recover => exact (plain rfl).elim
  | cancel queueId runId =>
      exact markCancelled_performs quiet queueId runId
        (fun _ status _ _ => .inr (.inr status)) (fun _ _ _ => trivial) fun _ _ _ _ => trivial

theorem run_keeps {program : Py Unit} {pre post : Plane → Prop}
    (triple : (alone Op Plane).Triple exec pre program (fun _ => post) (fun _ => post))
    (holds : pre plane) : post (program.run exec plane).2 := by
  have ended := triple.run_alone holds
  generalize program.run exec plane = result at ended ⊢
  obtain ⟨outcome, after⟩ := result
  cases outcome <;> exact ended

theorem Inv.step (inv : Inv none plane) {command : Command}
    (proper : Proper command) (careful : Careful plane command) :
    Inv none (AttemptBound.step plane command) := by
  have of_performs : command.program.Performs KeepsAlways →
      Inv none (command.program.run SkillCentric.exec plane).2 := by
    intro performs
    refine run_keeps ((triple_of_yields performs (stable_alone _) ?_).conseq
      (fun _ holds => holds) (fun _ _ post => post.2) fun _ _ post => post) inv
    exact fun op _ now keeps holds _ => ⟨trivial, holds.exec (keeps now)⟩
  cases command with
  | tick micros => exact ⟨inv.keyed, inv.counted, inv.lettered⟩
  | recover =>
      have keeps : Keeps plane (.recoverStaleRuntimeQueueItems (isoTimestamp plane.clock)) := by
        intro queueId item found stale
        exact careful item ((Dict.mem_values_iff _ _).mpr ⟨queueId, found⟩) stale
      exact inv.exec keeps
  | markFailedOrRetry config item error runId =>
      exact run_keeps (markFailedOrRetry_triple item config error runId) ⟨inv, careful⟩
  | enqueue request => exact of_performs (program_performs proper (by simp) (by simp))
  | claim config workerId => exact of_performs (program_performs proper (by simp) (by simp))
  | heartbeat config queueId => exact of_performs (program_performs proper (by simp) (by simp))
  | markRunning queueId runId attemptId =>
      exact of_performs (program_performs proper (by simp) (by simp))
  | markSucceeded queueId runId => exact of_performs (program_performs proper (by simp) (by simp))
  | cancel queueId runId => exact of_performs (program_performs proper (by simp) (by simp))

/-- After careful commands no item is over its attempts, and exhausted work has ended. -/
theorem attempt_bound (clock : Datetime) (artifacts : JsonArtifactStore)
    (commands : List Command) (proper : ∀ command ∈ commands, Proper command)
    (careful : Steps step Careful ⟨clock, .empty, artifacts⟩ commands) :
    Bounded (commands.foldl step ⟨clock, .empty, artifacts⟩) := by
  have both := careful.and (steps_of_forall step ⟨clock, .empty, artifacts⟩
    fun _ command member => proper command member)
  have init : Inv none ⟨clock, .empty, artifacts⟩ := by
    constructor
    · intro queueId item found
      cases found
    · intro queueId item found
      cases found
    · intro queueId item found
      cases found
  have inv := both.invariant (Inv none) init fun _ _ inv checked => inv.step checked.2 checked.1
  exact inv.bounded

/-- An item with a single attempt is claimed. -/
def onlyAttempt : List Command :=
  [.enqueue
      { task := Sample.task "task-a" "tenant-a"
        compositionContextResponse := some Sample.unauthorized
        maxAttempts := 1 },
    .claim Sample.config "worker-a"]

/-- Every stored item is reported as failed. -/
def reports (plane : Plane) : List Command :=
  plane.items.values.map fun item =>
    .markFailedOrRetry Sample.config item (tenantStatusError "denied") item.runId

theorem attempt_bound_onlyAttempt :
    Bounded ((onlyAttempt ++ reports (onlyAttempt.foldl step ⟨Sample.clock, .empty, .empty⟩)).foldl
      step ⟨Sample.clock, .empty, .empty⟩) := by
  refine attempt_bound Sample.clock .empty _ ?_ (by decide)
  intro command member
  simp only [onlyAttempt, reports, List.mem_append, List.mem_cons, List.not_mem_nil, or_false,
    List.mem_map] at member
  rcases member with (rfl | rfl) | ⟨item, -, rfl⟩
  · exact le_refl _
  · trivial
  · trivial

/-- The only attempt goes stale. -/
def staleAttempt : List Command := onlyAttempt ++ [Command.tick 301000000, .recover]

/-- Recovery schedules an exhausted item for another attempt. -/
theorem staleAttempt_not_bounded :
    (∀ command ∈ staleAttempt, Proper command) ∧
      ¬Bounded (staleAttempt.foldl step ⟨Sample.clock, .empty, .empty⟩) := by
  constructor
  · simp [staleAttempt, onlyAttempt, Proper]
  · intro bounded
    have exhausted : ((staleAttempt.foldl step
        ⟨Sample.clock, .empty, .empty⟩).items.get? "queue-task-a-initial").any
          (fun item => (item.attempts : Int) = item.maxAttempts ∧ item.status = .retryScheduled) =
            true := by
      decide
    simp only [Option.any_eq_true, decide_eq_true_eq] at exhausted
    obtain ⟨item, found, attempts, status⟩ := exhausted
    have ended := (bounded _ item found).2 attempts (by rw [status]; rfl)
    rw [status] at ended
    rcases ended with succeeded | cancelled | ⟨dead, -⟩
    · cases succeeded
    · cases cancelled
    · cases dead

end AttemptBound

end SkillCentric
