import SkillCentric.Runtime.Frames
import SkillCentric.Runtime.Worker

/-!
# Footprints

Which operations the recording programs perform: they read, they write artifacts below the
directories of their run, and they append rows of their run.  The footprint of a program is stated
once here and every later proof about a worker uses it instead of the program's text.
-/

namespace SkillCentric

open Program FlightRecorder

section Rules

variable {α β : Type} {p : Op → Prop}

/-- A program that performs only operations with a property. -/
def Py.Performs (p : Op → Prop) (program : Py α) : Prop :=
  program.Yields exec p fun _ => True

theorem performs_bind {program : Py α} {next : α → Py β} (first : program.Performs p)
    (second : ∀ value, (next value).Performs p) : (program >>= next).Performs p :=
  yields_bind first fun value _ => second value

theorem performs_pure {value : α} : (pure value : Py α).Performs p := yields_pure trivial

theorem performs_throw {error : PyError} : (throw error : Py α).Performs p := yields_throw

theorem performs_lift {outcome : Except PyError α} : (Py.lift outcome).Performs p :=
  yields_ofExcept fun _ _ => trivial

theorem performs_call {operation : Op} (performs : p operation) :
    (Py.call operation).Performs p :=
  yields_op performs fun _ => trivial

theorem performs_raiseIf {condition : Prop} [Decidable condition] {error : PyError} :
    (Py.raiseIf condition error).Performs p := by
  unfold Py.raiseIf
  split
  · exact performs_throw
  · exact performs_pure

theorem performs_timestamp (reads : p .now) : Py.timestamp.Performs p :=
  performs_bind (performs_call reads) fun _ => performs_pure

theorem performs_attempt {program : Py α} (performs : program.Performs p) :
    Py.Performs p (Program.attempt program) :=
  (yields_attempt performs).mono (fun _ holds => holds) fun _ _ => trivial

end Rules

/-- Artifact paths below the directories of one run, or of the sealed profiles. -/
def RunPath (runId : Text) (parts : List Text) : Prop :=
  (∃ rest, parts = ("profiles" : Text) :: rest) ∨
    ∃ root rest, parts = root :: runId :: rest ∧
      root ∈ ([("traces" : Text), ("tool_outputs" : Text), ("artifacts" : Text)] : List Text)

/-- The operations that record a run: reads, artifacts of the run, and rows of the run that are
neither its own row nor a row of the queue or the quotas. -/
def Op.RecordsFor (runId : Text) : Op → Prop
  | .now | .readJson _ | .getRuntimeQueueItem _ | .getRuntimeRun _ | .asRuntimePlaneRecordset
  | .eventsForRun _ | .checkpointsForRun _ | .updateRuntimeStep _ _ _ _ _ => True
  | .writeJson parts _ => RunPath runId parts
  | .insertRuntimeStep record => record.runId = runId
  | .allocateRuntimeEventIndex owner => owner = runId
  | .insertRuntimeEvent record => record.runId = runId
  | .allocateRuntimeCheckpointIndex owner => owner = runId
  | .insertRuntimeCheckpoint record =>
      record.runId = runId ∧ ∃ rest, record.stateUri = relativePath ("traces" :: runId :: rest)
  | .insertToolInvocation record => record.runId = runId
  | .insertValidationResult record => record.runId = runId
  | _ => False

theorem Op.RecordsFor.quiet {runId : Text} {op : Op} (records : op.RecordsFor runId) :
    op.quiet = true := by
  cases op <;> first | rfl | exact records.elim

/-- The operations of a run after its start: those that record it, and the updates of its row. -/
def Op.RunsFor (runId : Text) (op : Op) : Prop :=
  op.RecordsFor runId ∨ ∃ fields, op = .updateRuntimeRun runId fields

/-- The operations that trace a run: those that record it without touching the row of a step. -/
def Op.TracesFor (runId : Text) (op : Op) : Prop := op.RecordsFor runId ∧ op.touchesSteps = false

/-- A program that only records a run. -/
def Py.Records {α : Type} (runId : Text) (program : Py α) : Prop :=
  program.Yields exec (Op.RecordsFor runId) fun _ => True

/-- A program that only traces a run. -/
def Py.Traces {α : Type} (runId : Text) (program : Py α) : Prop :=
  program.Yields exec (Op.TracesFor runId) fun _ => True

section Traces

variable {α : Type} {runId : Text}

theorem Py.Traces.records {program : Py α} (traces : program.Traces runId) :
    program.Records runId :=
  traces.mono (fun _ holds => holds.1) fun _ => id

theorem traces_timestamp : Py.timestamp.Traces runId := performs_timestamp ⟨trivial, rfl⟩

/-- Writing below `traces`, `tool_outputs` or `artifacts` of the run. -/
theorem traces_write {root : Text} {rest : List Text} {payload : Json}
    (root_eq : root ∈
      ([("traces" : Text), ("tool_outputs" : Text), ("artifacts" : Text)] : List Text)) :
    (Py.call (.writeJson (root :: runId :: rest) payload)).Traces runId :=
  performs_call ⟨.inr ⟨root, rest, rfl, root_eq⟩, rfl⟩

theorem records_timestamp : Py.timestamp.Records runId := traces_timestamp.records

end Traces


namespace FlightRecorder

variable {runId : Text} {redact : Json → Json}

theorem startStep_records {stepIndex : Nat} {kind : RuntimeStepKind} :
    (startStep runId stepIndex kind).Records runId :=
  performs_bind records_timestamp fun _ => performs_call rfl

theorem completeStep_records {stepId : Text} {status : RuntimeStatus} {stopReason : Option Text} :
    (completeStep stepId status stopReason).Records runId :=
  performs_bind performs_lift fun _ => performs_bind records_timestamp fun _ =>
    performs_bind (performs_call trivial) fun _ => performs_lift

theorem writeEventPayload_traces {eventIndex : Nat} {eventType : RuntimeEventType} {slot : Text}
    {payload : Option Json} :
    (writeEventPayload redact (eventPayloadParts runId eventIndex eventType slot) payload).Traces
      runId := by
  unfold writeEventPayload eventPayloadParts
  cases payload with
  | none => exact performs_pure
  | some payload => exact performs_bind (traces_write (by simp)) fun _ => performs_pure

theorem recordEvent_traces {event : EventRequest} (owner : event.runId = runId) :
    (recordEvent redact event).Traces runId := by
  subst owner
  unfold recordEvent
  refine performs_bind performs_lift fun _ => ?_
  refine performs_bind (performs_call ⟨rfl, rfl⟩) fun index => ?_
  refine performs_bind writeEventPayload_traces fun _ => ?_
  refine performs_bind writeEventPayload_traces fun _ => ?_
  refine performs_bind writeEventPayload_traces fun _ => ?_
  exact performs_bind traces_timestamp fun _ => performs_call ⟨rfl, rfl⟩

theorem recordEvent_records {event : EventRequest} (owner : event.runId = runId) :
    (recordEvent redact event).Records runId :=
  (recordEvent_traces owner).records

theorem checkpoint_traces {request : CheckpointRequest} (owner : request.runId = runId) :
    (checkpoint redact request).Traces runId := by
  subst owner
  unfold checkpoint
  refine performs_bind (performs_call ⟨rfl, rfl⟩) fun index => ?_
  have written : (Py.call (.writeJson (checkpointParts request.runId index request.phase)
      (redact request.state))).Yields exec (Op.TracesFor request.runId)
      fun path => path = relativePath (checkpointParts request.runId index request.phase) :=
    yields_op ⟨.inr ⟨_, _, rfl, by simp⟩, rfl⟩ fun _ => rfl
  refine yields_bind written fun path path_eq => ?_
  refine performs_bind traces_timestamp fun _ => ?_
  refine performs_bind (performs_call ⟨⟨rfl, _, path_eq⟩, rfl⟩) fun stored => ?_
  exact performs_bind (recordEvent_traces rfl) fun _ => performs_pure

end FlightRecorder

theorem RuntimeEntryPoint.recordStart_records {components : Components} {task : JsonObject}
    {prepared : RuntimeEntryPoint.Prepared} {start : RuntimeStartResult} :
    (recordStart components task prepared start).Records start.runId := by
  unfold recordStart
  refine performs_bind (recordEvent_records rfl) fun _ => ?_
  refine performs_bind (recordEvent_records rfl) fun _ => ?_
  refine performs_bind (recordEvent_records rfl) fun _ => ?_
  refine performs_bind (recordEvent_records rfl) fun _ => ?_
  refine performs_bind (checkpoint_traces rfl).records fun _ => ?_
  exact performs_bind (recordEvent_records rfl) fun _ => performs_pure

namespace ToolGateway

variable {gateway : ToolGateway} {toolName : Text} {payload : JsonObject} {index : Nat}

theorem event_traces {eventType : RuntimeEventType} {actorRole : RuntimeActorRole}
    {plannedAction execution result : Option Json} {stopReason : Option Text} :
    (event gateway eventType actorRole plannedAction execution result stopReason).Traces
      gateway.runId :=
  recordEvent_traces rfl

theorem authorize_traces : (authorize gateway index toolName payload).Traces gateway.runId := by
  unfold authorize
  split
  · exact performs_pure
  · split
    · refine performs_bind ?_ fun _ => performs_throw
      unfold recordDeniedAccess
      refine performs_bind ?_ fun _ => performs_bind event_traces fun _ => performs_pure
      unfold writeCapabilityGap
      split
      · exact performs_pure
      · exact performs_bind (traces_write (by simp)) fun _ => performs_pure
    · exact performs_throw

theorem readHookArtifact_traces {uri : Option ArtifactPath} {runId : Text} :
    (readHookArtifact uri).Traces runId := by
  unfold readHookArtifact
  split
  · exact performs_pure
  · exact performs_bind (performs_call ⟨trivial, rfl⟩) fun _ => performs_pure

theorem evaluateAfterToolHook_traces {record : ToolInvocation} {completed : RuntimeEvent} :
    (evaluateAfterToolHook gateway record completed).Traces gateway.runId := by
  unfold evaluateAfterToolHook
  refine performs_bind readHookArtifact_traces fun _ => ?_
  refine performs_bind readHookArtifact_traces fun _ => ?_
  refine performs_bind readHookArtifact_traces fun _ => ?_
  refine performs_bind readHookArtifact_traces fun _ => ?_
  exact performs_bind event_traces fun _ => performs_raiseIf

theorem perform_traces {outcome : Except PyError JsonObject} :
    (perform gateway toolName payload index outcome).Traces gateway.runId := by
  unfold perform
  refine performs_bind (traces_write (by simp)) fun _ => ?_
  refine performs_bind traces_timestamp fun _ => ?_
  refine performs_bind event_traces fun _ => ?_
  refine performs_bind event_traces fun _ => ?_
  refine performs_bind (traces_write (by simp)) fun _ => ?_
  refine performs_bind traces_timestamp fun _ => ?_
  refine performs_bind (performs_call ⟨rfl, rfl⟩) fun _ => ?_
  refine performs_bind event_traces fun _ => ?_
  exact performs_bind evaluateAfterToolHook_traces fun _ => performs_pure

theorem invoke_traces : (invoke gateway toolName payload index).Traces gateway.runId := by
  unfold invoke
  refine performs_bind authorize_traces fun _ => ?_
  split
  · exact performs_throw
  · refine performs_bind perform_traces fun _ => ?_
    split
    · exact performs_pure
    · exact performs_throw

end ToolGateway

namespace RuntimeQueueManager

variable {runId queueId : Text} {item : QueueItem}

theorem runStatus_traces {target : Text} : (runStatus target).Traces runId := by
  unfold runStatus
  refine performs_bind (performs_call ⟨trivial, rfl⟩) fun _ => ?_
  split
  · exact performs_pure
  · exact performs_bind (performs_call ⟨trivial, rfl⟩) fun _ => performs_pure

theorem requireItem_records : (requireItem queueId).Records runId :=
  performs_bind (performs_call trivial) fun _ => performs_raiseIf

theorem storedItem_records : (storedItem queueId).Records runId := by
  unfold storedItem
  refine performs_bind (performs_call trivial) fun found => ?_
  cases found with
  | none => exact performs_throw
  | some item => exact performs_pure

theorem requireObject_records {payload : Json} {message : Text} :
    (requireObject payload message).Records runId := by
  unfold requireObject
  split
  · exact performs_pure
  · exact performs_throw

theorem loadTask_records : (loadTask item).Records runId :=
  performs_bind (performs_call trivial) fun _ =>
    performs_bind performs_lift fun _ => requireObject_records

theorem loadCompositionContext_records : (loadCompositionContext item).Records runId := by
  unfold loadCompositionContext
  split
  · exact performs_pure
  · refine performs_bind (performs_call trivial) fun _ => ?_
    refine performs_bind performs_lift fun _ => ?_
    exact performs_bind requireObject_records fun _ => performs_pure

end RuntimeQueueManager

namespace RuntimeQuotaManager

variable {redact : Json → Json} {request : ReserveRequest} {config : RuntimeQuotaConfig}

theorem quotaWindow_records {runId : Text} : quotaWindow.Records runId :=
  performs_bind records_timestamp fun _ => performs_pure

theorem assertWithinLimit_records {window : Text} {field : QuotaField} :
    (assertWithinLimit redact config request window field).Records request.runId := by
  unfold assertWithinLimit
  split
  · exact performs_pure
  · refine performs_bind (performs_call trivial) fun _ => ?_
    dsimp only
    split
    · exact performs_pure
    · exact performs_bind (recordEvent_records rfl) fun _ => performs_throw

end RuntimeQuotaManager

namespace MinimalRuntimeLoop

variable {loop : MinimalRuntimeLoop} {runId stepId : Text} {redact : Json → Json}

theorem checkCancellation_traces {queueId : Option Text} :
    (checkCancellation queueId).Traces runId := by
  unfold checkCancellation queueItemIsCancelled
  split
  · exact performs_pure
  · refine performs_bind (performs_call ⟨trivial, rfl⟩) fun _ => ?_
    split
    · exact performs_pure
    · exact performs_bind (performs_call ⟨trivial, rfl⟩) fun _ => performs_pure

theorem raiseIfCancelled_traces {target : Text} :
    (raiseIfCancelled loop target).Traces runId := by
  unfold raiseIfCancelled
  refine performs_bind RuntimeQueueManager.runStatus_traces fun _ => ?_
  refine performs_bind performs_raiseIf fun _ => ?_
  exact performs_bind checkCancellation_traces fun _ => performs_raiseIf

variable {start : RuntimeStartResult} {actorRole : RuntimeActorRole}

theorem assertProfileSeal_traces :
    (assertProfileSeal loop start).Traces runId := by
  unfold assertProfileSeal
  refine performs_bind (performs_call ⟨trivial, rfl⟩) fun _ => ?_
  refine performs_bind performs_lift fun _ => ?_
  exact performs_bind performs_raiseIf fun _ => performs_raiseIf

theorem beginStep_records {index : Nat} {kind : RuntimeStepKind} :
    (beginStep loop runId index kind).Records runId :=
  performs_bind raiseIfCancelled_traces.records fun _ =>
    performs_bind performs_lift fun _ => startStep_records

theorem stepEvent_traces {eventType : RuntimeEventType}
    {plannedAction execution result : Option Json} {stopReason : Option Text} :
    (stepEvent redact runId stepId eventType actorRole plannedAction execution result
      stopReason).Traces runId :=
  performs_bind (recordEvent_traces rfl) fun _ => performs_pure

theorem endStep_records {phase : RuntimePhase} {state : Json} :
    (endStep redact runId stepId phase actorRole state).Records runId :=
  performs_bind (checkpoint_traces rfl).records fun _ =>
    performs_bind stepEvent_traces.records fun _ => completeStep_records

theorem failStep_records {result : Json} {stopReason : Text} :
    (failStep redact runId stepId actorRole result stopReason).Records runId :=
  performs_bind stepEvent_traces.records fun _ => completeStep_records

theorem runActions_traces (gateway : ToolGateway) (same_run : gateway.runId = runId)
    (index : Nat) (actions : List Json) :
    (runActions loop gateway runId index actions).Traces runId := by
  induction actions generalizing index with
  | nil => exact performs_pure
  | cons action rest ih =>
      unfold runActions
      refine performs_bind raiseIfCancelled_traces fun _ => ?_
      split
      · refine performs_bind performs_lift fun call => ?_
        refine performs_bind (same_run ▸ ToolGateway.invoke_traces) fun _ => ?_
        exact performs_bind (ih (index + 1)) fun _ => performs_pure
      · exact ih index

theorem executorStep_records {plan : RuntimePlan} :
    (executorStep loop redact runId plan).Records runId := by
  unfold executorStep
  refine performs_bind beginStep_records fun step => ?_
  refine performs_bind stepEvent_traces.records fun _ => ?_
  have actions : (runActions loop ⟨loop.components, redact, runId, step.id⟩ runId 0
      plan.actions).Records runId :=
    (runActions_traces ⟨loop.components, redact, runId, step.id⟩ rfl 0 plan.actions).records
  refine performs_bind (performs_attempt actions) fun outcome => ?_
  cases outcome with
  | error error =>
      dsimp only
      split
      · exact performs_bind failStep_records fun _ => performs_throw
      · exact performs_throw
  | ok results => exact performs_bind endStep_records fun _ => performs_pure

theorem recordOutcomes_traces (outcomes : List ValidationOutcome) :
    (recordOutcomes loop redact runId stepId outcomes).Traces runId := by
  induction outcomes with
  | nil => exact performs_pure
  | cons outcome rest ih =>
      unfold recordOutcomes
      refine performs_bind (traces_write (by simp)) fun _ => ?_
      refine performs_bind traces_timestamp fun _ => ?_
      refine performs_bind (performs_call ⟨rfl, rfl⟩) fun _ => ?_
      exact performs_bind stepEvent_traces fun _ => ih

theorem validatorStep_records {profile : RuntimeProfile} {context : JsonObject}
    {plan : RuntimePlan} {execution : Json} :
    (validatorStep loop redact runId profile context plan execution).Records runId := by
  unfold validatorStep
  refine performs_bind beginStep_records fun step => ?_
  refine performs_bind stepEvent_traces.records fun _ => ?_
  refine performs_bind performs_lift fun response => ?_
  refine performs_bind performs_lift fun outcomes => ?_
  refine performs_bind (recordOutcomes_traces outcomes).records fun _ => ?_
  split
  · exact performs_bind endStep_records fun _ => performs_pure
  · exact performs_bind failStep_records fun _ => performs_throw

theorem steps_records {profile : RuntimeProfile} :
    (steps loop redact runId profile).Records runId := by
  unfold steps contextStep plannerStep
  refine performs_bind performs_lift fun _ => ?_
  refine performs_bind raiseIfCancelled_traces.records fun _ => ?_
  refine performs_bind ?_ fun context => ?_
  · refine performs_bind beginStep_records fun _ =>
      performs_bind stepEvent_traces.records fun _ => ?_
    exact performs_bind performs_lift fun _ => performs_bind endStep_records fun _ => performs_pure
  refine performs_bind raiseIfCancelled_traces.records fun _ => ?_
  refine performs_bind ?_ fun plan => ?_
  · refine performs_bind beginStep_records fun _ =>
      performs_bind stepEvent_traces.records fun _ => ?_
    exact performs_bind performs_lift fun _ => performs_bind endStep_records fun _ => performs_pure
  refine performs_bind raiseIfCancelled_traces.records fun _ => ?_
  refine performs_bind executorStep_records fun execution => ?_
  refine performs_bind raiseIfCancelled_traces.records fun _ => ?_
  exact performs_bind validatorStep_records fun _ => performs_pure

theorem endRun_runs {α : Type} {event : EventRequest} (owner : event.runId = runId)
    {status : RuntimeStatus} {stopReason : Text} {tokens : Int} {value : α} {returned : α → Prop}
    (holds : returned value) :
    (do
      let _ ← recordEvent redact event
      completeRun runId status stopReason tokens
      return value : Py α).Yields exec (Op.RunsFor runId) returned := by
  have recorded {β : Type} {program : Py β} (records : program.Records runId) :
      program.Yields exec (Op.RunsFor runId) fun _ => True :=
    records.mono (fun _ => .inl) fun _ => id
  refine yields_seq (recorded (recordEvent_records owner)) fun _ => ?_
  refine yields_seq ?_ fun _ => yields_pure holds
  refine yields_seq (yields_ofExcept fun _ _ => trivial) fun _ => ?_
  refine yields_seq (recorded records_timestamp) fun _ => ?_
  refine yields_seq (yields_op (.inr ⟨_, rfl⟩) fun _ => trivial) fun _ => ?_
  exact yields_ofExcept fun _ _ => trivial

theorem handleRuntimeError_runs {error : PyError} :
    (loop.handleRuntimeError redact start error).Yields exec (Op.RunsFor start.runId)
      fun _ => True := by
  unfold MinimalRuntimeLoop.handleRuntimeError
  split
  · exact endRun_runs (by rfl) trivial
  · split
    · split
      · exact endRun_runs (by rfl) trivial
      · exact yields_throw
    · exact endRun_runs (by rfl) trivial

theorem run_runs :
    (loop.run start).Yields exec (Op.RunsFor start.runId)
      fun result => result.runId = start.runId := by
  have recorded {α : Type} {program : Py α} (records : program.Records start.runId) :
      program.Yields exec (Op.RunsFor start.runId) fun _ => True :=
    records.mono (fun _ => .inl) fun _ => id
  refine yields_seq (recorded assertProfileSeal_traces.records) fun _ => ?_
  refine yields_seq ((yields_attempt (recorded steps_records)).mono (fun _ => id)
    fun _ _ => trivial) fun outcome => ?_
  cases outcome with
  | ok result => exact endRun_runs (by rfl) rfl
  | error error =>
      dsimp only
      split
      · exact endRun_runs (by rfl) rfl
      · split
        · exact yields_seq handleRuntimeError_runs fun _ => yields_throw
        · exact yields_throw

end MinimalRuntimeLoop

end SkillCentric
