import SkillCentric.Runtime.EventLogs
import SkillCentric.Runtime.Footprints

/-!
# Event log integrity

Calls of several flight recorders work on one store, operation by operation.  Indices are drawn one
after another, every row is filed under its own index, a call whose key is stored adds no event and
any other call that returns adds one, and what is stored stays.
-/

namespace SkillCentric.EventIntegrity

open SkillCentric Program InMemoryRuntimeStore

/-- The calls of flight recorders. -/
inductive RecorderCall where
  | event (redact : Json → Json) (request : EventRequest)
  | checkpoint (redact : Json → Json) (request : CheckpointRequest)

/-- What a call returns. -/
inductive Recorded where
  | event (row : RuntimeEvent)
  | checkpoint (row : RuntimeCheckpoint)
  deriving DecidableEq

/-- The program of a call. -/
def RecorderCall.program : RecorderCall → Py Recorded
  | .event redact request => do
      let row ← FlightRecorder.recordEvent redact request
      return .event row
  | .checkpoint redact request => do
      let row ← FlightRecorder.checkpoint redact request
      return .checkpoint row

/-- A call and the events that are stored when it starts. -/
structure Asked where
  call : RecorderCall
  known : List RuntimeEvent

abbrev Recorders := Pool Op.Reply Plane Asked PyError Recorded

/-- What can happen. -/
inductive RecorderStep where
  | call (call : RecorderCall)
  | advance (index : Nat)
  | raise (index : Nat) (error : PyError)
  | elsewhere (clock : Datetime) (artifacts : JsonArtifactStore)

/-- One step. -/
def perform (pool : Recorders) : RecorderStep → Recorders
  | .call asked => pool.spawn ⟨asked, pool.state.store.runtimeEvents⟩ asked.program
  | .advance index => pool.step exec index
  | .raise index error => pool.crash index (.error error)
  | .elsewhere clock artifacts => { pool with state := { pool.state with clock, artifacts } }

/-- Nothing has been called. -/
def idle (plane : Plane) : Recorders := ⟨plane, []⟩

/-- The call filed one event: it added nothing if the key was stored for the run, and this event
otherwise. -/
def OneEvent (runId : Text) (key : Option Text) (past : Past Op Plane) (answer : RuntimeEvent) :
    Prop :=
  ∃ record plane, eventLog.filings past = [(record, plane)] ∧ record.runId = runId ∧
    (∀ given ∈ key, given ≠ [] → record.idempotencyKey = given) ∧
    match storedEvent plane.store.runtimeEvents runId record.idempotencyKey with
    | some event => answer = event ∧ eventLog.added past = []
    | none => answer = record ∧ eventLog.added past = [record]

/-- The answer of a call is what it has recorded, once. -/
def Answered (past : Past Op Plane) : RecorderCall → Recorded → Prop
  | .event _ request, value => ∃ answer, value = .event answer ∧
      OneEvent request.runId request.idempotencyKey past answer ∧ checkpointLog.added past = []
  | .checkpoint _ request, value => ∃ row answer, value = .checkpoint row ∧
      row.runId = request.runId ∧ checkpointLog.added past = [row] ∧
      OneEvent request.runId
        (some (request.runId ++ (":checkpoint:" : Text) ++ decimal row.checkpointIndex)) past answer

/-- The logs of a pool that started in a plane. -/
structure Integrity (start : Plane) (pool : Recorders) : Prop where
  eventIndices : ∀ runId,
    ((pool.state.store.runtimeEvents.filter (·.runId = runId)).map (·.eventIndex)).Nodup
  checkpointIndices : ∀ runId,
    ((pool.state.store.runtimeCheckpoints.filter (·.runId = runId)).map (·.checkpointIndex)).Nodup
  drawnEvents : ∀ runId, ∃ first count,
    (pool.threads.flatMap fun thread => eventLog.drawn runId thread.past).Perm
      (List.range' first count) ∧
    (start.store.eventIndices.get? runId = none →
      (∀ event ∈ start.store.runtimeEvents, event.runId ≠ runId) → first = 0)
  drawnCheckpoints : ∀ runId, ∃ first count,
    (pool.threads.flatMap fun thread => checkpointLog.drawn runId thread.past).Perm
      (List.range' first count) ∧
    (start.store.checkpointIndices.get? runId = none →
      (∀ checkpoint ∈ start.store.runtimeCheckpoints, checkpoint.runId ≠ runId) → first = 0)
  returned : ∀ thread ∈ pool.threads, ∀ value, thread.program = .done (.ok value) →
    Answered thread.past thread.info.call value
  repeated : ∀ thread ∈ pool.threads, ∀ value, thread.program = .done (.ok value) →
    ∀ redact request, thread.info.call = .event redact request →
      ∀ key ∈ request.idempotencyKey, key ≠ [] →
        ∀ event, storedEvent thread.info.known request.runId key = some event →
          value = .event event ∧ eventLog.added thread.past = []

/-- Events and checkpoints are numbered before they are filed. -/
def Rule (past : Past Op Plane) (op : Op) : Prop :=
  eventLog.Orderly past op ∧ checkpointLog.Orderly past op

/-- Operations that touch no event and no checkpoint. -/
def Beside (op : Op) : Prop :=
  op.touchesEvents = false ∧ op.touchesCheckpoints = false

section Conduct

variable {A C : Past Op Plane → Prop} {α : Type}

theorem eventLog_rest {op : Op} (untouched : op.touchesEvents = false) :
    eventLog.draws op = none ∧ eventLog.files op = none := by
  cases op <;> first | exact ⟨rfl, rfl⟩ | cases untouched

theorem checkpointLog_rest {op : Op} (untouched : op.touchesCheckpoints = false) :
    checkpointLog.draws op = none ∧ checkpointLog.files op = none := by
  cases op <;> first | exact ⟨rfl, rfl⟩ | cases untouched

theorem rule_of_beside {past : Past Op Plane} {op : Op} (beside : Beside op) : Rule past op :=
  ⟨TicketLog.orderly_of_rest (eventLog_rest beside.1).2,
    TicketLog.orderly_of_rest (checkpointLog_rest beside.2).2⟩

/-- Assertions that only checkpoints change. -/
def OfCheckpoints (assertion : Past Op Plane → Prop) : Prop :=
  ∀ past op state, op.touchesCheckpoints = false → assertion past →
    assertion (past ++ [(op, state)])

theorem conduct_beside (kept : ∀ past op state, Beside op → A past → A (past ++ [(op, state)]))
    {program : Py α} (performs : program.Performs Beside) :
    Conduct exec Rule A program fun _ => A := fun past holds =>
  (conduct_of_yields performs (fun past op beside holds =>
    ⟨rule_of_beside beside, fun state => kept past op state beside holds⟩) past holds).mono
    fun _ _ post value same => (post value same).2

variable {redact : Json → Json}

theorem performs_writeEventPayload {parts : List Text} {payload : Option Json} :
    (FlightRecorder.writeEventPayload redact parts payload).Performs Beside := by
  unfold FlightRecorder.writeEventPayload
  split
  · exact performs_pure
  · exact performs_bind (performs_call ⟨rfl, rfl⟩) fun _ => performs_pure

theorem oneEvent_of_insert {tickets : List (Text × Nat)} {past : Past Op Plane} {plane : Plane}
    {record : RuntimeEvent} {runId : Text} {key : Option Text}
    (blank : eventLog.Blank tickets past) (owner : record.runId = runId)
    (keyed : ∀ given ∈ key, given ≠ [] → record.idempotencyKey = given) :
    OneEvent runId key (past ++ [(.insertRuntimeEvent record, plane)])
      (exec (.insertRuntimeEvent record) plane).1 := by
  refine ⟨record, plane, ?_, owner, keyed, ?_⟩
  · rw [TicketLog.filings_of_file rfl, blank.filings]
    rfl
  · rw [TicketLog.added_append, blank.added, List.nil_append]
    subst owner
    simp only [exec, eventLog, Plane.withStore]
    cases stored : storedEvent plane.store.runtimeEvents record.runId record.idempotencyKey with
    | some event =>
        rw [insertRuntimeEvent_of_stored stored]
        exact ⟨rfl, List.drop_length⟩
    | none =>
        rw [insertRuntimeEvent_of_new stored]
        exact ⟨rfl, List.drop_left⟩

theorem conduct_recordEvent (stable : OfCheckpoints C) {request : EventRequest} :
    Conduct exec Rule (fun past => eventLog.Blank [] past ∧ C past)
      (FlightRecorder.recordEvent redact request)
      fun answer past => OneEvent request.runId request.idempotencyKey past answer ∧ C past := by
  have aside (ticket : List (Text × Nat)) {op : Op} (past : Past Op Plane) (state : Plane)
      (beside : Beside op) (holds : eventLog.Blank ticket past ∧ C past) :
      eventLog.Blank ticket (past ++ [(op, state)]) ∧ C (past ++ [(op, state)]) :=
    ⟨holds.1.rest (eventLog_rest beside.1).1 (eventLog_rest beside.1).2 state,
      stable past op state beside.2 holds.2⟩
  have checked : Conduct exec Rule (fun past => eventLog.Blank [] past ∧ C past)
      (Py.lift (requireStopReason request.stopReason))
      fun _ past => eventLog.Blank [] past ∧ C past := conduct_ofExcept fun _ _ _ => id
  refine conduct_bind checked fun _ => ?_
  have draw : Conduct exec Rule (fun past => eventLog.Blank [] past ∧ C past)
      (Py.call (.allocateRuntimeEventIndex request.runId))
      fun index past => eventLog.Blank [(request.runId, index)] past ∧ C past :=
    conduct_op fun past holds => ⟨⟨TicketLog.orderly_of_rest rfl, TicketLog.orderly_of_rest rfl⟩,
      fun state => ⟨holds.1.draw rfl state, stable past _ state rfl holds.2⟩⟩
  refine conduct_bind draw fun index => ?_
  have write {α : Type} {program : Py α} (performs : program.Performs Beside) :=
    conduct_beside (fun past op state => aside [(request.runId, index)] past state) performs
  refine conduct_bind (write performs_writeEventPayload) fun plannedActionUri => ?_
  refine conduct_bind (write performs_writeEventPayload) fun executionUri => ?_
  refine conduct_bind (write performs_writeEventPayload) fun resultUri => ?_
  refine conduct_bind (write (performs_timestamp ⟨rfl, rfl⟩)) fun createdAt => ?_
  refine conduct_op fun past holds =>
    ⟨⟨holds.1.orderly rfl (List.mem_singleton.mpr rfl), TicketLog.orderly_of_rest rfl⟩,
      fun plane => ⟨oneEvent_of_insert holds.1 rfl fun given known named => ?_,
        stable past _ plane rfl holds.2⟩⟩
  dsimp only
  rw [Option.mem_def.mp known, Option.filter_some, if_pos (by simpa using named)]
  rfl

/-- The past files one checkpoint, under its number, and answers it. -/
def OneCheckpoint (runId : Text) (index : Nat) (past : Past Op Plane) (answer : RuntimeCheckpoint) :
    Prop :=
  ∃ record plane, checkpointLog.filings past = [(record, plane)] ∧ record.runId = runId ∧
    record.checkpointIndex = index ∧ answer = (plane.store.insertRuntimeCheckpoint record).1 ∧
    checkpointLog.added past =
      (plane.store.insertRuntimeCheckpoint record).2.runtimeCheckpoints.drop
        plane.store.runtimeCheckpoints.length

theorem oneCheckpoint_stable (runId : Text) (index : Nat) (answer : RuntimeCheckpoint) :
    OfCheckpoints fun past => OneCheckpoint runId index past answer := by
  rintro past op state untouched ⟨record, plane, filings, owner, drawn, returned, added⟩
  have rest := (checkpointLog_rest untouched).2
  exact ⟨record, plane, (TicketLog.filings_of_rest rest).trans filings, owner, drawn, returned,
    (TicketLog.added_of_rest rest).trans added⟩

/-- What a call answers, with the number that its checkpoint drew. -/
def Spoken (past : Past Op Plane) : RecorderCall → Recorded → Prop
  | .event _ request, value => ∃ answer, value = .event answer ∧
      OneEvent request.runId request.idempotencyKey past answer ∧ checkpointLog.added past = []
  | .checkpoint _ request, value => ∃ row answer index, value = .checkpoint row ∧
      OneCheckpoint request.runId index past row ∧
      OneEvent request.runId
        (some (request.runId ++ (":checkpoint:" : Text) ++ decimal index)) past answer

theorem conduct_checkpoint {request : CheckpointRequest} :
    Conduct exec Rule (fun past => eventLog.Blank [] past ∧ checkpointLog.Blank [] past)
      (FlightRecorder.checkpoint redact request)
      fun row past => Spoken past (.checkpoint redact request) (.checkpoint row) := by
  have draw : Conduct exec Rule (fun past => eventLog.Blank [] past ∧ checkpointLog.Blank [] past)
      (Py.call (.allocateRuntimeCheckpointIndex request.runId))
      fun index past =>
        eventLog.Blank [] past ∧ checkpointLog.Blank [(request.runId, index)] past :=
    conduct_op fun past holds => ⟨⟨TicketLog.orderly_of_rest rfl, TicketLog.orderly_of_rest rfl⟩,
      fun state => ⟨holds.1.rest rfl rfl state, holds.2.draw rfl state⟩⟩
  refine conduct_bind draw fun index => ?_
  have write {α : Type} {program : Py α} (performs : program.Performs Beside) :
      Conduct exec Rule
        (fun past => eventLog.Blank [] past ∧ checkpointLog.Blank [(request.runId, index)] past)
        program fun _ past =>
          eventLog.Blank [] past ∧ checkpointLog.Blank [(request.runId, index)] past :=
    conduct_beside (fun past op state beside holds =>
      ⟨holds.1.rest (eventLog_rest beside.1).1 (eventLog_rest beside.1).2 state,
        holds.2.rest (checkpointLog_rest beside.2).1 (checkpointLog_rest beside.2).2
          state⟩) performs
  refine conduct_bind (write (performs_call ⟨rfl, rfl⟩)) fun stateUri => ?_
  refine conduct_bind (write (performs_timestamp ⟨rfl, rfl⟩)) fun createdAt => ?_
  have insert (record : RuntimeCheckpoint) (owner : record.runId = request.runId)
      (drawn : record.checkpointIndex = index) :
      Conduct exec Rule
        (fun past => eventLog.Blank [] past ∧ checkpointLog.Blank [(request.runId, index)] past)
        (Py.call (.insertRuntimeCheckpoint record))
        fun stored past =>
          eventLog.Blank [] past ∧ OneCheckpoint request.runId index past stored := by
    refine conduct_op fun past holds => ⟨⟨TicketLog.orderly_of_rest rfl,
      holds.2.orderly rfl (List.mem_singleton.mpr (Prod.ext owner drawn))⟩, fun plane =>
        ⟨holds.1.rest rfl rfl plane, record, plane, ?_, owner, drawn, rfl, ?_⟩⟩
    · rw [TicketLog.filings_of_file rfl, holds.2.filings]
      rfl
    · rw [TicketLog.added_append, holds.2.added]
      rfl
  refine conduct_bind (insert _ rfl rfl) fun stored => ?_
  refine conduct_bind (conduct_recordEvent (oneCheckpoint_stable request.runId index stored))
    fun answer => ?_
  exact conduct_pure fun past holds => ⟨stored, answer, index, rfl, holds.2, holds.1⟩

theorem program_keeps (asked : RecorderCall) :
    asked.program.Keeps exec Rule
      (fun past outcome => ∀ value, outcome = .ok value → Spoken past asked value) [] := by
  have blank : eventLog.Blank [] [] ∧ checkpointLog.Blank [] [] :=
    ⟨TicketLog.blank_nil, TicketLog.blank_nil⟩
  cases asked with
  | event redact request =>
      have stable : OfCheckpoints (checkpointLog.Blank []) := fun past op state untouched holds =>
        holds.rest (checkpointLog_rest untouched).1 (checkpointLog_rest untouched).2 state
      have conduct : Conduct exec Rule
          (fun past => eventLog.Blank [] past ∧ checkpointLog.Blank [] past)
          (RecorderCall.event redact request).program
          fun value past => Spoken past (.event redact request) value :=
        conduct_bind (conduct_recordEvent stable) fun row => conduct_pure fun past holds =>
          ⟨row, rfl, holds.1, holds.2.added⟩
      exact conduct [] blank
  | checkpoint redact request =>
      have conduct : Conduct exec Rule
          (fun past => eventLog.Blank [] past ∧ checkpointLog.Blank [] past)
          (RecorderCall.checkpoint redact request).program
          fun value past => Spoken past (.checkpoint redact request) value :=
        conduct_bind conduct_checkpoint fun row => conduct_pure fun past holds => holds
      exact conduct [] blank

end Conduct

/-- What every step keeps. -/
structure Inv (start : Plane) (pool : Recorders) : Prop where
  events : eventLog.Ledger start pool
  checkpoints : checkpointLog.Ledger start pool
  conducted : pool.Conducted exec Rule fun asked past outcome =>
    ∀ value, outcome = .ok value → Spoken past asked.call value
  known : ∀ (index : Nat) (thread : Thread Op.Reply Plane Asked PyError Recorded),
    pool.threads[index]? = some thread →
      thread.info.known <+: pool.state.store.runtimeEvents ∧
        ∀ entry ∈ thread.past, thread.info.known <+: entry.2.store.runtimeEvents

section Runs

variable {start : Plane} {pool : Recorders}

theorem inv_idle (events : eventLog.Sound start) (checkpoints : checkpointLog.Sound start) :
    Inv start (idle start) := by
  refine ⟨TicketLog.ledger_initial events, TicketLog.ledger_initial checkpoints,
    fun index thread found => ?_, fun index thread found => ?_⟩
  · cases found
  · cases found

theorem Inv.advance (inv : Inv start pool) (index : Nat) : Inv start (pool.step exec index) := by
  have orderly {thread : Thread Op.Reply Plane Asked PyError Recorded} {op : Op}
      (found : pool.threads[index]? = some thread) (next : thread.nextOp = some op) :=
    inv.conducted.follows found next
  refine ⟨inv.events.step index fun _ _ found next => (orderly found next).1,
    inv.checkpoints.step index fun _ _ found next => (orderly found next).2,
    inv.conducted.step index, fun other thread found => ?_⟩
  have grown : pool.state.store.runtimeEvents <+:
      (pool.step exec index).state.store.runtimeEvents := by
    cases located : pool.threads[index]? with
    | none => rw [Pool.step_of_none exec located]
    | some mover =>
        rw [Pool.step_of_thread exec located]
        unfold Thread.effect
        split
        · exact List.prefix_rfl
        · exact eventLog.rows_grow _ _
  obtain ⟨old, located, info, kept, advanced⟩ := Pool.getElem?_step exec found
  obtain ⟨now, before⟩ := inv.known other old located
  rw [info]
  refine ⟨now.trans grown, fun entry listed => ?_⟩
  by_cases same : other = index
  · rw [advanced same, Thread.advance] at listed
    split at listed
    · exact before entry listed
    · rcases List.mem_append.mp listed with earlier | new
      · exact before entry earlier
      · rw [List.mem_singleton.mp new]
        exact now
  · rw [kept same] at listed
    exact before entry listed

theorem Inv.perform (inv : Inv start pool) (step : RecorderStep) :
    Inv start (perform pool step) := by
  match step with
  | .call asked =>
      refine ⟨inv.events.spawn, inv.checkpoints.spawn, inv.conducted.spawn (program_keeps asked),
        fun index thread found => ?_⟩
      rcases Pool.getElem?_spawn found with old | ⟨-, rfl⟩
      · exact inv.known index thread old
      · exact ⟨List.prefix_rfl, fun _ listed => by cases listed⟩
  | .advance index => exact inv.advance index
  | .raise index error =>
      refine ⟨inv.events.crash, inv.checkpoints.crash,
        inv.conducted.crash fun _ _ _ raised => (nomatch raised), fun other thread found => ?_⟩
      obtain ⟨old, located, info, past⟩ := Pool.crash_past found
      rw [info, past]
      exact inv.known other old located
  | .elsewhere clock artifacts =>
      exact ⟨inv.events.of_pasts rfl rfl rfl rfl, inv.checkpoints.of_pasts rfl rfl rfl rfl,
        inv.conducted, inv.known⟩

theorem inv_run (events : eventLog.Sound start) (checkpoints : checkpointLog.Sound start)
    (steps : List RecorderStep) : Inv start (steps.foldl perform (idle start)) := by
  induction steps using List.reverseRecOn with
  | nil => exact inv_idle events checkpoints
  | append_singleton steps step ih =>
      rw [List.foldl_append]
      exact ih.perform step

theorem perform_grows (pool : Recorders) (step : RecorderStep) :
    pool.state.store.runtimeEvents <+: (perform pool step).state.store.runtimeEvents ∧
      pool.state.store.runtimeCheckpoints <+:
        (perform pool step).state.store.runtimeCheckpoints := by
  cases step with
  | advance index =>
      simp only [perform]
      cases located : pool.threads[index]? with
      | none =>
          rw [Pool.step_of_none exec located]
          exact ⟨List.prefix_rfl, List.prefix_rfl⟩
      | some mover =>
          rw [Pool.step_of_thread exec located]
          unfold Thread.effect
          split
          · exact ⟨List.prefix_rfl, List.prefix_rfl⟩
          · exact ⟨eventLog.rows_grow _ _, checkpointLog.rows_grow _ _⟩
  | call _ | raise _ _ | elsewhere _ _ => exact ⟨List.prefix_rfl, List.prefix_rfl⟩

theorem run_grows (pool : Recorders) (steps : List RecorderStep) :
    pool.state.store.runtimeEvents <+: (steps.foldl perform pool).state.store.runtimeEvents ∧
      pool.state.store.runtimeCheckpoints <+:
        (steps.foldl perform pool).state.store.runtimeCheckpoints := by
  induction steps generalizing pool with
  | nil => exact ⟨List.prefix_rfl, List.prefix_rfl⟩
  | cons step rest ih =>
      have first := perform_grows pool step
      have later := ih (perform pool step)
      exact ⟨first.1.trans later.1, first.2.trans later.2⟩

theorem nextIndex_new {counters : Dict Text Nat} {runId : Text}
    (unopened : counters.get? runId = none) :
    nextIndex counters runId [] = 0 := by
  rw [nextIndex, unopened]
  rfl

theorem OneEvent.repeated {runId key : Text} {given : Option Text} {past : Past Op Plane}
    {answer event : RuntimeEvent} {known : List RuntimeEvent}
    (one : OneEvent runId given past answer)
    (asked : key ∈ given) (named : key ≠ [])
    (since : ∀ entry ∈ past, known <+: entry.2.store.runtimeEvents)
    (stored : storedEvent known runId key = some event) :
    answer = event ∧ eventLog.added past = [] := by
  obtain ⟨record, plane, filings, -, keyed, outcome⟩ := one
  have filed : (record, plane) ∈ eventLog.filings past := by
    rw [filings]
    exact List.mem_singleton.mpr rfl
  obtain ⟨entry, listed, same⟩ := TicketLog.mem_of_filing filed
  obtain ⟨later, grown⟩ := same ▸ since entry listed
  rw [keyed key asked named, ← grown, storedEvent, List.find?_append] at outcome
  rw [storedEvent] at stored
  rw [stored] at outcome
  exact outcome

theorem answered_of_spoken {past : Past Op Plane} {asked : RecorderCall} {value : Recorded}
    (fresh : ∀ filing ∈ checkpointLog.filings past, ∀ row ∈ checkpointLog.rows filing.2,
      checkpointLog.key row ≠ checkpointLog.key filing.1)
    (spoken : Spoken past asked value) : Answered past asked value := by
  cases asked with
  | event redact request => exact spoken
  | checkpoint redact request =>
      obtain ⟨row, answer, index, returned, ⟨record, plane, filings, owner, drawn, same, added⟩,
          one⟩ :=
        spoken
      have filed : (record, plane) ∈ checkpointLog.filings past := by
        rw [filings]
        exact List.mem_singleton.mpr rfl
      have new : plane.store.insertRuntimeCheckpoint record = (record,
          { plane.store with runtimeCheckpoints := plane.store.runtimeCheckpoints ++ [record] }) :=
        insertRuntimeCheckpoint_of_new fun checkpoint listed run index =>
          fresh (record, plane) filed checkpoint listed (Prod.ext run index)
      rw [new] at same added
      subst same drawn
      exact ⟨row, answer, returned, owner, added.trans List.drop_left, one⟩

theorem Inv.integrity (inv : Inv start pool) : Integrity start pool := by
  have spoken {thread : Thread Op.Reply Plane Asked PyError Recorded} {index : Nat}
      {value : Recorded} (found : pool.threads[index]? = some thread)
      (ended : thread.program = .done (.ok value)) : Spoken thread.past thread.info.call value := by
    have keeps := inv.conducted index thread found
    rw [ended] at keeps
    exact keeps value rfl
  refine ⟨inv.events.sound.indices, inv.checkpoints.sound.indices, fun runId => ?_, fun runId => ?_,
    fun thread listed value ended => ?_,
    fun thread listed value ended redact request asked key given named event stored => ?_⟩
  · obtain ⟨count, -, drawn⟩ := inv.events.drawn runId
    refine ⟨_, count, drawn, fun unopened none => ?_⟩
    have unused : start.store.runtimeEvents.filter (·.runId = runId) = [] :=
      List.filter_eq_nil_iff.mpr fun event listed same => none event listed (of_decide_eq_true same)
    simp only [eventLog, allocateRuntimeEventIndex, unused, List.map_nil]
    exact nextIndex_new unopened
  · obtain ⟨count, -, drawn⟩ := inv.checkpoints.drawn runId
    refine ⟨_, count, drawn, fun unopened none => ?_⟩
    have unused : start.store.runtimeCheckpoints.filter (·.runId = runId) = [] :=
      List.filter_eq_nil_iff.mpr fun row listed same => none row listed (of_decide_eq_true same)
    simp only [checkpointLog, allocateRuntimeCheckpointIndex, unused, List.map_nil]
    exact nextIndex_new unopened
  · obtain ⟨index, found⟩ := List.mem_iff_getElem?.mp listed
    exact answered_of_spoken (inv.checkpoints.fresh index thread found) (spoken found ended)
  · obtain ⟨index, found⟩ := List.mem_iff_getElem?.mp listed
    have said := spoken found ended
    rw [asked] at said
    obtain ⟨answer, rfl, one, -⟩ := said
    obtain ⟨rfl, added⟩ := one.repeated given named (inv.known index thread found).2 stored
    exact ⟨rfl, added⟩

end Runs

/-- Whatever flight recorders do on a store, and in whatever order, both logs keep their
integrity, and what is stored at some time is stored unchanged ever after. -/
theorem event_log_integrity {plane : Plane} (events : eventLog.Sound plane)
    (checkpoints : checkpointLog.Sound plane) (steps : List RecorderStep) :
    Integrity plane (steps.foldl perform (idle plane)) ∧
      ∀ before, before <+: steps →
        (before.foldl perform (idle plane)).state.store.runtimeEvents <+:
            (steps.foldl perform (idle plane)).state.store.runtimeEvents ∧
          (before.foldl perform (idle plane)).state.store.runtimeCheckpoints <+:
            (steps.foldl perform (idle plane)).state.store.runtimeCheckpoints := by
  refine ⟨(inv_run events checkpoints steps).integrity, ?_⟩
  rintro before ⟨later, rfl⟩
  rw [List.foldl_append]
  exact run_grows _ later

def keyedEvent (key : Text) : RecorderCall :=
  .event id
    { runId := "run-a"
      eventType := .checkpointCreated
      actorRole := .executor
      result := some (.str "done")
      idempotencyKey := some key }

/-- Two recorders draw indices before either files a row, a third call repeats a stored key, and a
fourth is left through an exception. -/
def interleaved : List RecorderStep :=
  [RecorderStep.call (keyedEvent "first"),
    .call (.checkpoint id ⟨"run-a", .planner, .null, none⟩)] ++
    (List.replicate 6 [RecorderStep.advance 0, .elsewhere 0 .empty, .advance 1]).flatten ++
    [RecorderStep.call (keyedEvent "first"), .call (keyedEvent "second"), .advance 3,
      .raise 3 ⟨.valueError, "interrupted", none⟩] ++
    List.replicate 6 (RecorderStep.advance 1) ++ List.replicate 6 (RecorderStep.advance 2)

theorem event_log_integrity_interleaved :
    Integrity .empty (interleaved.foldl perform (idle .empty)) ∧
      ∀ before, before <+: interleaved →
        (before.foldl perform (idle .empty)).state.store.runtimeEvents <+:
            (interleaved.foldl perform (idle .empty)).state.store.runtimeEvents ∧
          (before.foldl perform (idle .empty)).state.store.runtimeCheckpoints <+:
            (interleaved.foldl perform (idle .empty)).state.store.runtimeCheckpoints :=
  event_log_integrity
    { distinct := by decide
      below := fun _ (stored : _ ∈ []) => by cases stored }
    { distinct := by decide
      below := fun _ (stored : _ ∈ []) => by cases stored } interleaved

example : (interleaved.foldl perform (idle .empty)).state.store.runtimeEvents.map
    (fun event => (event.eventIndex, event.idempotencyKey)) =
    [(0, ("first" : Text)), (1, ("run-a:checkpoint:0" : Text))] := by decide

/-- The value that a call has returned. -/
def answer (thread : Thread Op.Reply Plane Asked PyError Recorded) : Option Recorded :=
  match thread.program with
  | .done (.ok value) => some value
  | _ => none

theorem program_of_answer {thread : Thread Op.Reply Plane Asked PyError Recorded} {value : Recorded}
    (returned : answer thread = some value) : thread.program = .done (.ok value) := by
  unfold answer at returned
  split at returned
  · cases returned
    assumption
  · cases returned

/-- An event under the key that the first checkpoint of the run takes. -/
def keyTaken : List RecorderStep :=
  RecorderStep.call (keyedEvent "run-a:checkpoint:0") :: List.replicate 6 (.advance 0) ++
    RecorderStep.call (.checkpoint id ⟨"run-a", .planner, .null, none⟩) ::
      List.replicate 8 (.advance 1)

/-- The checkpoint is stored and its event is not. -/
theorem keyTaken_no_event : ∃ thread ∈ (keyTaken.foldl perform (idle .empty)).threads, ∃ row,
    thread.program = .done (.ok (.checkpoint row)) ∧ checkpointLog.added thread.past = [row] ∧
      eventLog.added thread.past = [] := by
  have ran : ∃ thread ∈ (keyTaken.foldl perform (idle .empty)).threads,
      ∃ row ∈ (keyTaken.foldl perform (idle .empty)).state.store.runtimeCheckpoints,
        answer thread = some (.checkpoint row) ∧ checkpointLog.added thread.past = [row] ∧
          eventLog.added thread.past = [] := by
    decide
  obtain ⟨thread, listed, row, -, returned, checkpoint, event⟩ := ran
  exact ⟨thread, listed, row, program_of_answer returned, checkpoint, event⟩

end SkillCentric.EventIntegrity
