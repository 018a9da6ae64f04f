import SkillCentric.Properties.ProfileSeal
import SkillCentric.Runtime.EventLogs
import SkillCentric.Runtime.MemoryCandidates
import SkillCentric.Runtime.Retention

/-!
# What a cleanup leaves behind

The planner lists the artifacts of events, checkpoints, tool invocations, validation results and
memory candidates.  The sealed profile is the artifact of none of these: every run that was started
keeps its profile, whatever is cleaned up when and whatever else goes on.
-/

namespace SkillCentric.RetentionGaps

open InMemoryRuntimeStore

open Program JsonArtifactStore FlightRecorder ArtifactNames RuntimeRetentionPlanner

section Executor

open RuntimeRetentionExecutor

variable {executor : RuntimeRetentionExecutor} {uriPrefix : Text} {plan : RuntimeRetentionPlan}
  {path : ArtifactPath}

theorem cleanUri_keeps {retained : List Text} {progress : Progress} {uri : Text}
    (elsewhere : resolveArtifactUri uriPrefix uri ≠ .ok path)
    (there : (progress.files.get? path).isSome) :
    ((executor.cleanUri uriPrefix retained progress uri).files.get? path).isSome := by
  unfold cleanUri
  split
  · exact there
  cases resolved : resolveArtifactUri uriPrefix uri with
  | error reason => exact there
  | ok other =>
      have differ : path ≠ other := by
        rintro rfl
        exact elsewhere resolved
      dsimp only
      unfold cleanPath
      split
      · exact there
      split
      · exact there
      split
      · exact there
      split
      · exact there
      · show ((progress.files.erase other).get? path).isSome
        rwa [Dict.get?_erase, if_neg differ]

variable {files : Dict ArtifactPath Artifact}

theorem clean_keeps
    (elsewhere : ∀ uri ∈ plan.expiredArtifactUris, resolveArtifactUri uriPrefix uri ≠ .ok path)
    (there : (files.get? path).isSome) :
    ((executor.clean uriPrefix plan files).files.get? path).isSome := by
  unfold clean
  generalize plan.retainedArtifactUris = retained
  have start : (({ files } : Progress).files.get? path).isSome := there
  generalize ({ files } : Progress) = progress at start
  generalize plan.expiredArtifactUris = uris at elsewhere
  induction uris generalizing progress with
  | nil => exact start
  | cons uri rest ih =>
      obtain ⟨first, later⟩ := List.forall_mem_cons.mp elsewhere
      exact ih _ (cleanUri_keeps first start) later

theorem set_keeps (other : ArtifactPath) (artifact : Artifact)
    (there : (files.get? path).isSome) : ((files.set other artifact).get? path).isSome := by
  rw [Dict.get?_set]
  split
  · rfl
  · exact there

theorem setAll_keeps (entries : List (ArtifactPath × Artifact)) (there : (files.get? path).isSome) :
    ((entries.foldl (fun files entry => files.set entry.1 entry.2) files).get? path).isSome := by
  induction entries generalizing files with
  | nil => exact there
  | cons entry rest ih => exact ih (set_keeps _ _ there)

theorem setAll_writes {entries : List (ArtifactPath × Artifact)}
    (listed : path ∈ entries.map Prod.fst) :
    ((entries.foldl (fun files entry => files.set entry.1 entry.2) files).get? path).isSome := by
  induction entries generalizing files with
  | nil => cases listed
  | cons entry rest ih =>
      rcases List.mem_cons.mp listed with rfl | later
      · refine setAll_keeps rest ?_
        rw [Dict.get?_set_self]
        rfl
      · exact ih later

theorem writeJson_keeps {store : JsonArtifactStore} (parts : List Text) (payload : Json)
    (there : (store.files.get? path).isSome) :
    ((store.writeJson parts payload).2.files.get? path).isSome :=
  set_keeps _ _ (setAll_keeps _ there)

theorem writeJson_writes {store : JsonArtifactStore} {parts : List Text} {payload : Json}
    (file : path = relativePath parts ∨
      path ∈ (store.chunkLargeStrings (safeParts parts) [] payload).2.map Prod.fst) :
    ((store.writeJson parts payload).2.files.get? path).isSome := by
  rcases file with rfl | chunk
  · unfold writeJson
    rw [Dict.get?_set_self]
    rfl
  · exact set_keeps _ _ (setAll_writes chunk)

theorem apply_keeps {now : Datetime} {artifacts : JsonArtifactStore}
    (elsewhere : ∀ uri ∈ plan.expiredArtifactUris,
      resolveArtifactUri artifacts.uriPrefix uri ≠ .ok path)
    (there : (artifacts.files.get? path).isSome) :
    ((executor.apply plan now artifacts).2.files.get? path).isSome := by
  have kept : ((executor.clean artifacts.uriPrefix plan artifacts.files).files.get? path).isSome :=
    clean_keeps elsewhere there
  unfold apply
  dsimp only
  split
  · exact writeJson_keeps _ _ kept
  · exact kept

theorem apply_uriPrefix {now : Datetime} {artifacts : JsonArtifactStore} :
    (executor.apply plan now artifacts).2.uriPrefix = artifacts.uriPrefix := by
  unfold apply
  dsimp only
  split <;> rfl

end Executor

/-- A path of the runtime that is no profile. -/
def Elsewhere (path : ArtifactPath) : Prop :=
  (∃ parts, path = relativePath parts) ∧ path.head? ≠ some ("profiles" : Text)

theorem elsewhere_of_runArtifact {runId : Text} {tools : List (Text × Nat)} {parts : List Text}
    (artifact : RunArtifact runId tools parts) : Elsewhere (relativePath parts) := by
  obtain ⟨directory, rest, -, head, differ⟩ := ProfileSeal.directory_of_runArtifact artifact
  refine ⟨⟨parts, rfl⟩, fun profile => ?_⟩
  exact differ (Option.some.inj (head.symm.trans profile))

theorem resolve_uriText {artifacts : JsonArtifactStore} {parts : List Text} {path : ArtifactPath}
    (resolved : resolveArtifactUri artifacts.uriPrefix (artifacts.uriText (relativePath parts)) =
      .ok path) : path = relativePath parts := by
  have uri_eq : artifacts.uriText (relativePath parts) =
      (artifacts.uriPrefix ++ ['/']) ++ List.intercalate ['/'] (relativePath parts) := by
    simp [uriText]
  have starts : Slug.startsWith (artifacts.uriText (relativePath parts))
      (artifacts.uriPrefix ++ ['/']) = true := by
    rw [uri_eq, Slug.startsWith_iff]
    exact List.prefix_append _ _
  unfold resolveArtifactUri at resolved
  simp only [starts, if_true] at resolved
  rw [uri_eq, List.drop_left, pathParts_intercalate (plainPart_relativePath parts)] at resolved
  split_ifs at resolved
  exact (Except.ok.inj resolved).symm

/-- The contents of the candidates lie where the extraction put them. -/
def Extracted (artifacts : JsonArtifactStore) (candidates : List JsonObject) : Prop :=
  ∀ candidate ∈ candidates, ∀ uri, Json.field? "content_uri" candidate = some (.str uri) →
    ∃ ids, uri = artifacts.uriText (relativePath (ExtractRequest.contentParts ids))

theorem elsewhere_contentParts (ids : ExtractionIds) :
    Elsewhere (relativePath (ExtractRequest.contentParts ids)) := by
  refine ⟨⟨_, rfl⟩, fun profile => ?_⟩
  have inside : safeParts [ids.run.pyStr, ("memory-candidates" : Text), ids.identifier] ≠ [] := by
    have parts : [ids.run.pyStr, ("memory-candidates" : Text), ids.identifier] =
      [ids.run.pyStr] ++ ("memory-candidates" : Text) :: [ids.identifier] := rfl
    rw [parts, safeParts_append, ProfileSeal.safeParts_cons [ids.identifier] (by decide)]
    simp
  have head : (relativePath (ExtractRequest.contentParts ids)).head? = some ("artifacts" : Text) :=
    ProfileSeal.relativePath_head? (by decide) inside
  exact absurd (head.symm.trans profile) (by decide)

theorem planned_elsewhere {fromIsoformat : Text → Except PyError Datetime}
    {policy : RuntimeRetentionPolicy} {now : Datetime} {artifacts : JsonArtifactStore}
    {records : RetentionRecords} {plan : RuntimeRetentionPlan} {path : ArtifactPath}
    (planned : RuntimeRetentionPlanner.plan fromIsoformat policy now artifacts.uriText records =
      .ok plan)
    (recorded : ∀ entry ∈ recordedArtifacts records, Elsewhere entry.2)
    (extracted : Extracted artifacts records.memoryCandidates)
    (profile : path.head? = some ("profiles" : Text)) :
    ∀ uri ∈ plan.expiredArtifactUris, resolveArtifactUri artifacts.uriPrefix uri ≠ .ok path := by
  obtain ⟨judged, -, planned⟩ := Stateful.bind_eq_ok.mp planned
  obtain ⟨uris, listed, planned⟩ := Stateful.bind_eq_ok.mp planned
  obtain ⟨candidates, passed, listed⟩ := Stateful.bind_eq_ok.mp listed
  cases planned
  cases listed
  intro uri member resolved
  obtain ⟨⟨runId, text⟩, entry, rfl⟩ := List.mem_map.mp (mem_sortedSet.mp member)
  rcases List.mem_append.mp (List.mem_of_mem_filter entry) with row | content
  · obtain ⟨⟨owner, artifact⟩, there, same⟩ := List.mem_map.mp row
    obtain ⟨-, rfl⟩ := Prod.mk.inj same
    obtain ⟨⟨parts, rfl⟩, differ⟩ := recorded _ there
    rw [resolve_uriText resolved] at profile
    exact differ profile
  · obtain ⟨found, there, same⟩ := List.mem_filterMap.mp content
    obtain rfl : found = some (runId, text) := same
    obtain ⟨candidate, listed, read⟩ := Stateful.exists_of_mapM_ok passed _ there
    unfold candidateUri at read
    split at read
    · rename_i uri found
      split at read
      · cases read
        obtain ⟨ids, rfl⟩ := extracted candidate listed _ found
        rw [resolve_uriText resolved] at profile
        exact (elsewhere_contentParts ids).2 profile
      · cases read
    · cases read

section Footprints

/-- The rows that an operation files name no profile. -/
def Filed : Op → Prop
  | .insertRuntimeRun _ => False
  | .insertRuntimeEvent record =>
      ∀ slot ∈ [record.plannedActionUri, record.executionUri, record.resultUri], ∀ uri ∈ slot,
        Elsewhere uri
  | .insertRuntimeCheckpoint record => Elsewhere record.stateUri
  | .insertToolInvocation record => Elsewhere record.inputUri ∧ Elsewhere record.outputUri
  | .insertValidationResult record => Elsewhere record.findingsUri
  | _ => True

variable {runId : Text} {redact : Json → Json} {loop : MinimalRuntimeLoop}

theorem filed_write {parts : List Text} {payload : Json}
    (artifact : ∃ tools, RunArtifact runId tools parts) :
    (Py.call (.writeJson parts payload)).Yields exec Filed Elsewhere :=
  yields_op trivial fun _ => artifact.elim fun _ => elsewhere_of_runArtifact

theorem filed_timestamp : Py.timestamp.Performs Filed := performs_timestamp trivial

theorem filed_eventPayload {eventIndex : Nat} {eventType : RuntimeEventType}
    (slot : ArtifactNames.Slot)
    {payload : Option Json} :
    (writeEventPayload redact (eventPayloadParts runId eventIndex eventType slot.text)
      payload).Yields
      exec Filed fun uri => ∀ path ∈ uri, Elsewhere path := by
  cases payload with
  | none => exact yields_pure nofun
  | some payload =>
      refine yields_bind (filed_write ⟨[], .inl ⟨(eventType, eventIndex), slot, rfl⟩⟩)
        fun path elsewhere => ?_
      refine yields_pure fun other same => ?_
      exact Option.some.inj same ▸ elsewhere

theorem filed_recordEvent {event : EventRequest} : (recordEvent redact event).Performs Filed := by
  refine performs_bind performs_lift fun _ => ?_
  refine performs_bind (performs_call trivial) fun index => ?_
  refine yields_bind (filed_eventPayload .planned) fun planned planned_elsewhere => ?_
  refine yields_bind (filed_eventPayload .execution) fun execution execution_elsewhere => ?_
  refine yields_bind (filed_eventPayload .result) fun result result_elsewhere => ?_
  refine performs_bind filed_timestamp fun _ => performs_call ?_
  exact List.forall_mem_cons.mpr ⟨planned_elsewhere,
    List.forall_mem_cons.mpr ⟨execution_elsewhere, List.forall_mem_singleton.mpr result_elsewhere⟩⟩

theorem filed_checkpoint {request : CheckpointRequest} :
    (checkpoint redact request).Performs Filed := by
  refine performs_bind (performs_call trivial) fun index => ?_
  refine yields_bind (filed_write ⟨[], .inr (.inl ⟨(request.phase, index), rfl⟩)⟩)
    fun path elsewhere => ?_
  refine performs_bind filed_timestamp fun _ => performs_bind (performs_call elsewhere) fun _ => ?_
  exact performs_bind filed_recordEvent fun _ => performs_pure

theorem filed_startStep {stepIndex : Nat} {kind : RuntimeStepKind} :
    (startStep runId stepIndex kind).Performs Filed :=
  performs_bind filed_timestamp fun _ => performs_call trivial

theorem filed_completeStep {stepId : Text} {status : RuntimeStatus} {stopReason : Option Text} :
    (completeStep stepId status stopReason).Performs Filed :=
  performs_bind performs_lift fun _ => performs_bind filed_timestamp fun _ =>
    performs_bind (performs_call trivial) fun _ => performs_lift

theorem filed_completeRun {status : RuntimeStatus} {stopReason : Text} {tokens : Int} :
    (completeRun runId status stopReason tokens).Performs Filed :=
  performs_bind performs_lift fun _ => performs_bind filed_timestamp fun _ =>
    performs_bind (performs_call trivial) fun _ => performs_lift

theorem filed_recordStart {components : Components} {task : JsonObject}
    {prepared : RuntimeEntryPoint.Prepared} {start : RuntimeStartResult} :
    (RuntimeEntryPoint.recordStart components task prepared start).Performs Filed := by
  unfold RuntimeEntryPoint.recordStart
  refine performs_bind filed_recordEvent fun _ => performs_bind filed_recordEvent fun _ => ?_
  refine performs_bind filed_recordEvent fun _ => performs_bind filed_recordEvent fun _ => ?_
  exact performs_bind filed_checkpoint fun _ =>
    performs_bind filed_recordEvent fun _ => performs_pure

end Footprints

section Tools

open ToolGateway

variable {gateway : ToolGateway} {toolName : Text} {payload : JsonObject} {index : Nat}

theorem filed_authorize : (authorize gateway index toolName payload).Performs Filed := by
  unfold authorize
  split
  · exact performs_pure
  split
  · refine performs_bind ?_ fun _ => performs_throw
    refine performs_bind ?_ fun _ => performs_bind filed_recordEvent fun _ => performs_pure
    unfold writeCapabilityGap
    split
    · exact performs_pure
    · exact performs_bind (performs_call trivial) fun _ => performs_pure
  · exact performs_throw

theorem filed_readHookArtifact {uri : Option ArtifactPath} :
    (readHookArtifact uri).Performs Filed := by
  unfold readHookArtifact
  split
  · exact performs_pure
  · exact performs_bind (performs_call trivial) fun _ => performs_pure

theorem filed_perform {outcome : Except PyError JsonObject} :
    (gateway.perform toolName payload index outcome).Performs Filed := by
  have written (port : Port) (payload : Json) :
      (Py.call (.writeJson (toolParts gateway.runId (toolName, index) port) payload)).Yields exec
        Filed Elsewhere :=
    filed_write ⟨_, .inr (.inr (.inl ⟨(toolName, index), List.mem_singleton_self _, port, rfl⟩))⟩
  refine yields_bind (written .input _) fun input input_elsewhere => ?_
  refine performs_bind filed_timestamp fun _ => ?_
  refine performs_bind filed_recordEvent fun _ => performs_bind filed_recordEvent fun _ => ?_
  refine yields_bind (written .output _) fun output output_elsewhere => ?_
  refine performs_bind filed_timestamp fun _ => ?_
  refine performs_bind (performs_call ⟨input_elsewhere, output_elsewhere⟩) fun _ => ?_
  refine performs_bind filed_recordEvent fun completed => performs_bind ?_ fun _ => performs_pure
  refine performs_bind filed_readHookArtifact fun _ =>
    performs_bind filed_readHookArtifact fun _ => ?_
  refine performs_bind filed_readHookArtifact fun _ =>
    performs_bind filed_readHookArtifact fun _ => ?_
  exact performs_bind filed_recordEvent fun _ => performs_raiseIf

theorem filed_invoke : (invoke gateway toolName payload index).Performs Filed := by
  unfold invoke
  refine performs_bind filed_authorize fun _ => ?_
  split
  · exact performs_throw
  · refine performs_bind filed_perform fun _ => ?_
    split
    · exact performs_pure
    · exact performs_throw

end Tools

section Loop

open MinimalRuntimeLoop

variable {loop : MinimalRuntimeLoop} {runId stepId : Text} {redact : Json → Json}

theorem filed_raiseIfCancelled : (loop.raiseIfCancelled runId).Performs Filed := by
  unfold raiseIfCancelled RuntimeQueueManager.runStatus checkCancellation queueItemIsCancelled
  refine performs_bind (performs_bind (performs_call trivial) fun _ => ?_) fun _ => ?_
  · split
    · exact performs_pure
    · exact performs_bind (performs_call trivial) fun _ => performs_pure
  refine performs_bind performs_raiseIf fun _ => performs_bind ?_ fun _ => performs_raiseIf
  split
  · exact performs_pure
  refine performs_bind (performs_call trivial) fun _ => ?_
  split
  · exact performs_pure
  · exact performs_bind (performs_call trivial) fun _ => performs_pure

theorem filed_beginStep {index : Nat} {kind : RuntimeStepKind} :
    (loop.beginStep runId index kind).Performs Filed :=
  performs_bind filed_raiseIfCancelled fun _ => performs_bind performs_lift fun _ => filed_startStep

variable {actorRole : RuntimeActorRole}

theorem filed_stepEvent {eventType : RuntimeEventType}
    {plannedAction execution result : Option Json} {stopReason : Option Text} :
    (stepEvent redact runId stepId eventType actorRole plannedAction execution result
      stopReason).Performs Filed :=
  performs_bind filed_recordEvent fun _ => performs_pure

theorem filed_endStep {phase : RuntimePhase} {state : Json} :
    (endStep redact runId stepId phase actorRole state).Performs Filed :=
  performs_bind filed_checkpoint fun _ => performs_bind filed_stepEvent fun _ => filed_completeStep

theorem filed_failStep {result : Json} {stopReason : Text} :
    (failStep redact runId stepId actorRole result stopReason).Performs Filed :=
  performs_bind filed_stepEvent fun _ => filed_completeStep

theorem filed_runActions (gateway : ToolGateway) (index : Nat) (actions : List Json) :
    (loop.runActions gateway runId index actions).Performs Filed := by
  induction actions generalizing index with
  | nil => exact performs_pure
  | cons action rest ih =>
      unfold runActions
      refine performs_bind filed_raiseIfCancelled fun _ => ?_
      split
      · refine performs_bind performs_lift fun call => performs_bind filed_invoke fun _ => ?_
        exact performs_bind (ih (index + 1)) fun _ => performs_pure
      · exact ih index

theorem filed_executorStep {plan : RuntimePlan} :
    (loop.executorStep redact runId plan).Performs Filed := by
  unfold executorStep
  refine performs_bind filed_beginStep fun step => performs_bind filed_stepEvent fun _ => ?_
  refine performs_bind (performs_attempt (filed_runActions _ 0 plan.actions)) fun outcome => ?_
  cases outcome with
  | error error =>
      dsimp only
      split
      · exact performs_bind filed_failStep fun _ => performs_throw
      · exact performs_throw
  | ok results => exact performs_bind filed_endStep fun _ => performs_pure

theorem filed_recordOutcomes (outcomes : List ValidationOutcome) :
    (loop.recordOutcomes redact runId stepId outcomes).Performs Filed := by
  induction outcomes with
  | nil => exact performs_pure
  | cons outcome rest ih =>
      unfold recordOutcomes
      have written (payload : Json) :
          (Py.call (.writeJson (findingsParts runId outcome.validatorId) payload)).Yields exec
            Filed Elsewhere := filed_write ⟨[], .inr (.inr (.inr ⟨outcome.validatorId, rfl⟩))⟩
      refine yields_bind (written _) fun findings elsewhere => ?_
      refine performs_bind filed_timestamp fun _ =>
        performs_bind (performs_call elsewhere) fun _ => ?_
      exact performs_bind filed_stepEvent fun _ => ih

theorem filed_validatorStep {profile : RuntimeProfile} {context : JsonObject} {plan : RuntimePlan}
    {execution : Json} :
    (loop.validatorStep redact runId profile context plan execution).Performs Filed := by
  unfold validatorStep
  refine performs_bind filed_beginStep fun step => performs_bind filed_stepEvent fun _ => ?_
  refine performs_bind performs_lift fun response => performs_bind performs_lift fun outcomes => ?_
  refine performs_bind (filed_recordOutcomes outcomes) fun _ => ?_
  split
  · exact performs_bind filed_endStep fun _ => performs_pure
  · exact performs_bind filed_failStep fun _ => performs_throw

theorem filed_steps {profile : RuntimeProfile} :
    (loop.steps redact runId profile).Performs Filed := by
  unfold steps contextStep plannerStep
  have recorded {α : Type} {computed : Except PyError α} {index : Nat} {kind : RuntimeStepKind}
      {eventType : RuntimeEventType} {actorRole : RuntimeActorRole} {planned : Option Json}
      {phase : RuntimePhase} {state : α → Json} : Py.Performs Filed (do
        let step ← loop.beginStep runId index kind
        stepEvent redact runId step.id eventType actorRole planned none none none
        let value ← Py.lift computed
        endStep redact runId step.id phase actorRole (state value)
        return value) :=
    performs_bind filed_beginStep fun _ => performs_bind filed_stepEvent fun _ =>
      performs_bind performs_lift fun _ => performs_bind filed_endStep fun _ => performs_pure
  refine performs_bind performs_lift fun _ => performs_bind filed_raiseIfCancelled fun _ => ?_
  refine performs_bind recorded fun context => performs_bind filed_raiseIfCancelled fun _ => ?_
  refine performs_bind recorded fun plan => performs_bind filed_raiseIfCancelled fun _ => ?_
  refine performs_bind filed_executorStep fun execution => ?_
  refine performs_bind filed_raiseIfCancelled fun _ => ?_
  exact performs_bind filed_validatorStep fun _ => performs_pure

theorem filed_endRun {α : Type} {event : EventRequest} {status : RuntimeStatus} {stopReason : Text}
    {tokens : Int} {value : α} : Py.Performs Filed (do
      let _ ← recordEvent redact event
      completeRun runId status stopReason tokens
      return value) :=
  performs_bind filed_recordEvent fun _ => performs_bind filed_completeRun fun _ => performs_pure

theorem filed_run {start : RuntimeStartResult} : (loop.run start).Performs Filed := by
  unfold MinimalRuntimeLoop.run assertProfileSeal
  refine performs_bind (performs_bind (performs_call trivial) fun _ => ?_) fun _ => ?_
  · exact performs_bind performs_lift fun _ =>
      performs_bind performs_raiseIf fun _ => performs_raiseIf
  refine performs_bind (performs_attempt filed_steps) fun outcome => ?_
  cases outcome with
  | ok result => exact filed_endRun
  | error error =>
      dsimp only
      split
      · exact filed_endRun
      split
      · refine performs_bind ?_ fun _ => performs_throw
        unfold handleRuntimeError
        split
        · exact filed_endRun
        split
        · split
          · exact filed_endRun
          · exact performs_throw
        · exact filed_endRun
      · exact performs_throw

end Loop
/-- The files that the operations wrote: artifacts, and the chunk files and manifests of their
strings. -/
def Wrote (past : Past Op Plane) (path : ArtifactPath) : Prop :=
  ∃ parts payload plane, (Op.writeJson parts payload, plane) ∈ past ∧
    (path = relativePath parts ∨
      path ∈ (plane.artifacts.chunkLargeStrings (safeParts parts) [] payload).2.map Prod.fst)

def begun (past : Past Op Plane) : List RuntimeRun :=
  past.filterMap fun entry =>
    match entry.1 with
    | .insertRuntimeRun record => some record
    | _ => none

/-- None of the files that the operations wrote is there. -/
def LeavesNone (past : Past Op Plane) (artifacts : JsonArtifactStore) : Prop :=
  ∀ path, Wrote past path → artifacts.files.get? path = none

/-- What is called. -/
inductive RuntimeCall where
  | execute (components : Components) (queueId : Option Text) (task : JsonObject)
      (context : Option JsonObject) (runId : Option Text) (generation : ProfileGeneration)
  | event (redact : Json → Json) (request : EventRequest)
  | checkpoint (redact : Json → Json) (request : CheckpointRequest)

/-- The program of a call. -/
def RuntimeCall.program : RuntimeCall → Py Unit
  | .execute components queueId task context runId generation => do
      let start ← RuntimeEntryPoint.start components task context runId generation
      let _ ← MinimalRuntimeLoop.run { components, queueId } start
      return ()
  | .event redact request => do
      let _ ← recordEvent redact request
      return ()
  | .checkpoint redact request => do
      let _ ← FlightRecorder.checkpoint redact request
      return ()

abbrev Calls := Pool Op.Reply Plane RuntimeCall PyError Unit

/-- A cleanup of an artifact store. -/
structure Cleanup (artifacts : JsonArtifactStore) where
  executor : RuntimeRetentionExecutor
  policy : RuntimeRetentionPolicy := {}
  fromIsoformat : Text → Except PyError Datetime
  now : Datetime
  memoryCandidates : List JsonObject := []
  extracted : Extracted artifacts memoryCandidates

namespace Cleanup

variable {artifacts : JsonArtifactStore} (cleanup : Cleanup artifacts) (plane : Plane)

/-- The plan for the records of a plane. -/
def plan : Except PyError RuntimeRetentionPlan :=
  RuntimeRetentionPlanner.plan cleanup.fromIsoformat cleanup.policy cleanup.now
    plane.artifacts.uriText (.ofStore plane.store cleanup.memoryCandidates)

/-- The artifacts after the plan is applied. -/
def applied (plan : RuntimeRetentionPlan) : JsonArtifactStore :=
  (cleanup.executor.apply plan plane.clock plane.artifacts).2

end Cleanup

def records : Op → Bool
  | .insertRuntimeRun _ | .insertRuntimeEvent _ | .insertRuntimeCheckpoint _
  | .insertToolInvocation _ | .insertValidationResult _ => true
  | _ => false

/-- What can happen. -/
inductive RuntimeStep (artifacts : JsonArtifactStore) where
  | call (call : RuntimeCall)
  | advance (index : Nat)
  | raise (index : Nat) (error : PyError)
  | other (op : Op) (apart : records op = false)
  | tick (micros : Nat)
  | cleanup (cleanup : Cleanup artifacts)

/-- One step. -/
def perform {artifacts : JsonArtifactStore} (calls : Calls) : RuntimeStep artifacts → Calls
  | .call asked => calls.spawn asked asked.program
  | .advance index => calls.step exec index
  | .raise index error => calls.crash index (.error error)
  | .other op _ => { calls with state := (exec op calls.state).2 }
  | .tick micros =>
      { calls with state := { calls.state with clock := calls.state.clock + micros } }
  | .cleanup cleanup =>
      match cleanup.plan calls.state with
      | .error _ => calls
      | .ok plan =>
          { calls with state :=
              { calls.state with artifacts := cleanup.applied calls.state plan } }

/-- No run has been recorded, nothing has been called. -/
def idle (clock : Datetime) (artifacts : JsonArtifactStore) : Calls :=
  ⟨⟨clock, .empty, artifacts⟩, []⟩

/-- The past wrote the profile. -/
def Sealed (past : Past Op Plane) (path : ArtifactPath) : Prop :=
  path.head? = some ("profiles" : Text) ∧ Wrote past path

/-- Only the row of a run names a profile, and one that was written before. -/
def Rule (past : Past Op Plane) (op : Op) : Prop :=
  Filed op ∨ (∃ record, op = .insertRuntimeRun record) ∧ ∃ path, Sealed past path

section Conduct

theorem Wrote.mono {past more : Past Op Plane} {path : ArtifactPath} (wrote : Wrote past path) :
    Wrote (past ++ more) path := by
  obtain ⟨parts, payload, plane, member, file⟩ := wrote
  exact ⟨parts, payload, plane, List.mem_append_left _ member, file⟩

theorem Sealed.mono {past more : Past Op Plane} {path : ArtifactPath} (sealed : Sealed past path) :
    Sealed (past ++ more) path :=
  ⟨sealed.1, sealed.2.mono⟩

theorem conduct_filed {α : Type} {before : Past Op Plane → Prop}
    (kept : ∀ past op state, before past → before (past ++ [(op, state)])) {program : Py α}
    (performs : program.Performs Filed) :
    Conduct exec Rule before program fun _ => before := fun past holds =>
  (conduct_of_yields performs (fun past op filed holds =>
    ⟨.inl filed, fun state => kept past op state holds⟩) past holds).mono
    fun _ _ post value same => (post value same).2

variable {components : Components} {task : JsonObject} {context : Option JsonObject}
  {runId : Option Text} {generation : ProfileGeneration}

theorem conduct_start : Conduct exec Rule (fun _ => True)
    (RuntimeEntryPoint.start components task context runId generation)
    fun _ past => ∃ path, Sealed past path := by
  have sealed_kept : ∀ (past : Past Op Plane) op state, (∃ path, Sealed past path) →
      ∃ path, Sealed (past ++ [(op, state)]) path :=
    fun past op state ⟨path, sealed⟩ => ⟨path, sealed.mono⟩
  have filed {α : Type} {program : Py α} (performs : program.Performs Filed) :=
    conduct_filed sealed_kept performs
  have prepared : Conduct exec Rule (fun _ => True)
      (Py.lift (RuntimeEntryPoint.prepare components task context generation))
      fun prepared _ => prepared.profile.id ≠ [] :=
    conduct_ofExcept fun _ _ prepares _ => ProfileSeal.prepare_profile_id prepares
  refine conduct_bind prepared fun prepared => ?_
  have write : Conduct exec Rule (fun _ => prepared.profile.id ≠ [])
      (Py.call (.writeJson (RuntimeEntryPoint.profileParts prepared.profile
        (components.profileSha256 prepared.profile.toJson)) prepared.profile.toJson))
      fun _ past => ∃ path, Sealed past path := by
    refine conduct_op fun past named => ⟨.inl trivial, fun state => ⟨_, ?_, _, _, state,
      List.mem_append_right _ (List.mem_singleton_self _), .inl rfl⟩⟩
    refine ProfileSeal.relativePath_head? (by decide) ?_
    rw [ProfileSeal.safeParts_cons _ named]
    simp
  refine conduct_bind write fun uri => ?_
  have begin_run {start : RunStart} : Conduct exec Rule (fun past => ∃ path, Sealed past path)
      (startRun start) fun _ past => ∃ path, Sealed past path := by
    refine conduct_bind (filed filed_timestamp) fun startedAt => ?_
    have insert (record : RuntimeRun) : Conduct exec Rule (fun past => ∃ path, Sealed past path)
        (Py.call (.insertRuntimeRun record)) fun _ past => ∃ path, Sealed past path :=
      conduct_op fun past sealed =>
        ⟨.inr ⟨⟨record, rfl⟩, sealed⟩, fun state => sealed_kept past _ state sealed⟩
    exact conduct_bind (insert _) fun _ => conduct_pure fun _ => id
  refine conduct_bind begin_run fun run => ?_
  exact conduct_bind (filed filed_recordStart) fun _ => conduct_pure fun _ => id

theorem program_keeps (call : RuntimeCall) :
    call.program.Keeps exec Rule (fun _ _ => True) [] := by
  have conduct : Conduct exec Rule (fun _ => True) call.program fun _ _ => True := by
    have filed {α : Type} {program : Py α} (performs : program.Performs Filed) :
        Conduct exec Rule (fun _ => True) program fun _ _ => True :=
      conduct_filed (fun _ _ _ => id) performs
    cases call with
    | execute components queueId task context runId generation =>
        refine conduct_bind conduct_start fun start => ?_
        refine conduct_bind (conduct_filed ?_ filed_run) fun _ => conduct_pure fun _ _ => trivial
        exact fun past op state ⟨path, sealed⟩ => ⟨path, sealed.mono⟩
    | event redact request => exact filed (performs_bind filed_recordEvent fun _ => performs_pure)
    | checkpoint redact request =>
        exact filed (performs_bind filed_checkpoint fun _ => performs_pure)
  exact (conduct [] trivial).mono fun _ _ _ => trivial

end Conduct
/-- The artifacts of all rows lie elsewhere. -/
structure RowsElsewhere (store : InMemoryRuntimeStore) : Prop where
  events : ∀ event ∈ store.runtimeEvents, Filed (.insertRuntimeEvent event)
  checkpoints : ∀ checkpoint ∈ store.runtimeCheckpoints, Elsewhere checkpoint.stateUri
  invocations : ∀ invocation ∈ store.toolInvocations,
    Elsewhere invocation.inputUri ∧ Elsewhere invocation.outputUri
  validations : ∀ validation ∈ store.validationResults, Elsewhere validation.findingsUri

section Rows

variable {plane : Plane} {op : Op}

theorem RowsElsewhere.recorded {store : InMemoryRuntimeStore} (rows : RowsElsewhere store)
    {candidates : List JsonObject} :
    ∀ entry ∈ recordedArtifacts (.ofStore store candidates), Elsewhere entry.2 := by
  intro entry listed
  simp only [recordedArtifacts, RetentionRecords.ofStore, List.mem_append, List.mem_flatMap,
    List.mem_map] at listed
  rcases listed with ((⟨event, member, listed⟩ | ⟨checkpoint, member, rfl⟩) |
    ⟨invocation, member, listed⟩) | ⟨validation, member, rfl⟩
  · obtain ⟨slot, member_slot, uri⟩ := List.mem_filterMap.mp listed
    obtain ⟨path, slot_eq, rfl⟩ := Option.map_eq_some_iff.mp uri
    exact rows.events event member slot member_slot path slot_eq
  · exact rows.checkpoints checkpoint member
  · obtain ⟨input, output⟩ := rows.invocations invocation member
    rcases List.mem_cons.mp listed with rfl | listed
    · exact input
    · rw [List.mem_singleton.mp listed]
      exact output
  · exact rows.validations validation member

theorem RowsElsewhere.exec (rows : RowsElsewhere plane.store)
    (filed : Filed op ∨ ∃ record, op = .insertRuntimeRun record) :
    RowsElsewhere (exec op plane).2.store := by
  have reported : (∀ invocation ∈ (SkillCentric.exec op plane).2.store.toolInvocations,
      Elsewhere invocation.inputUri ∧ Elsewhere invocation.outputUri) ∧
      ∀ validation ∈ (SkillCentric.exec op plane).2.store.validationResults,
        Elsewhere validation.findingsUri := by
    by_cases apart : op.touchesReports = false
    · obtain ⟨invocations, validations⟩ := exec_reports plane apart
      rw [invocations, validations]
      exact ⟨rows.invocations, rows.validations⟩
    · rcases filed with filed | ⟨record, rfl⟩
      · cases op with
        | insertToolInvocation record =>
            exact ⟨List.forall_mem_append.mpr
              ⟨rows.invocations, List.forall_mem_singleton.mpr filed⟩, rows.validations⟩
        | insertValidationResult record =>
            exact ⟨rows.invocations, List.forall_mem_append.mpr
              ⟨rows.validations, List.forall_mem_singleton.mpr filed⟩⟩
        | _ => exact absurd rfl apart
      · exact absurd rfl apart
  refine ⟨?_, ?_, reported.1, reported.2⟩
  · show ∀ event ∈ eventLog.rows (SkillCentric.exec op plane).2, Filed (.insertRuntimeEvent event)
    rcases eventLog.rows_exec op plane with same | ⟨record, files, grown⟩
    · rw [same]
      exact rows.events
    · have inserted : op = .insertRuntimeEvent record := by
        cases op <;> first | cases files; rfl | cases files
      subst inserted
      have elsewhere := filed.resolve_right nofun
      rw [grown]
      exact List.forall_mem_append.mpr
        ⟨rows.events, List.forall_mem_singleton.mpr elsewhere⟩
  · show ∀ checkpoint ∈ checkpointLog.rows (SkillCentric.exec op plane).2,
      Elsewhere checkpoint.stateUri
    rcases checkpointLog.rows_exec op plane with same | ⟨record, files, grown⟩
    · rw [same]
      exact rows.checkpoints
    · have inserted : op = .insertRuntimeCheckpoint record := by
        cases op <;> first | cases files; rfl | cases files
      subst inserted
      have elsewhere := filed.resolve_right nofun
      rw [grown]
      exact List.forall_mem_append.mpr
        ⟨rows.checkpoints, List.forall_mem_singleton.mpr elsewhere⟩

theorem filed_of_apart (apart : records op = false) : Filed op := by
  cases op <;> first | exact trivial | cases apart

end Rows
/-- What every step keeps. -/
structure Inv (artifacts : JsonArtifactStore) (calls : Calls) : Prop where
  uriPrefix : calls.state.artifacts.uriPrefix = artifacts.uriPrefix
  rows : RowsElsewhere calls.state.store
  conducted : calls.Conducted exec Rule fun _ _ _ => True
  began : ∀ thread ∈ calls.threads, begun thread.past ≠ [] → ∃ path, Sealed thread.past path
  kept : ∀ thread ∈ calls.threads, ∀ path, Sealed thread.past path →
    (calls.state.artifacts.files.get? path).isSome

section Runs

variable {artifacts : JsonArtifactStore} {calls : Calls} {plane : Plane} {path : ArtifactPath}

theorem exec_uriPrefix (op : Op) :
    (exec op plane).2.artifacts.uriPrefix = plane.artifacts.uriPrefix := by
  cases op <;> rfl

theorem exec_keeps (op : Op) (there : (plane.artifacts.files.get? path).isSome) :
    ((exec op plane).2.artifacts.files.get? path).isSome := by
  by_cases write : ∃ parts payload, op = .writeJson parts payload
  · obtain ⟨parts, payload, rfl⟩ := write
    exact writeJson_keeps parts payload there
  · rwa [exec_artifacts plane fun parts payload same => write ⟨parts, payload, same⟩]

theorem wrote_append {past : Past Op Plane} {op : Op}
    (wrote : Wrote (past ++ [(op, plane)]) path) :
    Wrote past path ∨ Wrote [(op, plane)] path := by
  obtain ⟨parts, payload, before, member, file⟩ := wrote
  rcases List.mem_append.mp member with earlier | now
  · exact .inl ⟨parts, payload, before, earlier, file⟩
  · exact .inr ⟨parts, payload, before, now, file⟩

theorem exec_writes {op : Op} (wrote : Wrote [(op, plane)] path) :
    ((exec op plane).2.artifacts.files.get? path).isSome := by
  obtain ⟨parts, payload, before, member, file⟩ := wrote
  obtain ⟨rfl, rfl⟩ := Prod.mk.inj (List.mem_singleton.mp member)
  exact writeJson_writes file

theorem begun_of_filed {op : Op} (filed : Filed op) : begun [(op, plane)] = [] := by
  cases op with
  | insertRuntimeRun record => exact filed.elim
  | _ => rfl

theorem Inv.advance (inv : Inv artifacts calls) (index : Nat) :
    Inv artifacts (calls.step exec index) := by
  cases found : calls.threads[index]? with
  | none =>
      rw [Pool.step_of_none exec found]
      exact inv
  | some mover =>
  have conducted := inv.conducted.step index
  rw [Pool.step_of_thread exec found] at conducted ⊢
  have listed := List.mem_of_getElem? found
  cases program : mover.program with
  | done outcome =>
      have still : mover.advance exec calls.state = mover := by rw [Thread.advance, program]
      have same : calls.threads.set index mover = calls.threads := by
        obtain ⟨bound, located⟩ := List.getElem?_eq_some_iff.mp found
        rw [← located]
        exact List.set_getElem_self bound
      rw [still, same, Thread.effect, program]
      exact inv
  | call op next =>
      have rule : Rule mover.past op := inv.conducted.follows found (by rw [Thread.nextOp, program])
      have effect : mover.effect exec calls.state = (exec op calls.state).2 := by
        rw [Thread.effect, program]
      have past : (mover.advance exec calls.state).past = mover.past ++ [(op, calls.state)] := by
        rw [Thread.advance, program]
      rw [effect] at conducted ⊢
      have each {p : Thread Op.Reply Plane RuntimeCall PyError Unit → Prop}
          (old : ∀ thread ∈ calls.threads, p thread) (new : p (mover.advance exec calls.state)) :
          ∀ thread ∈ calls.threads.set index (mover.advance exec calls.state), p thread := by
        intro thread member
        rcases List.mem_or_eq_of_mem_set member with before | rfl
        · exact old thread before
        · exact new
      refine ⟨(exec_uriPrefix op).trans inv.uriPrefix, ?_, conducted, each inv.began ?_, each ?_ ?_⟩
      · exact inv.rows.exec (rule.imp id And.left)
      · rw [past]
        intro began
        by_cases earlier : begun mover.past = []
        · rw [begun, List.filterMap_append, ← begun, earlier, List.nil_append] at began
          rcases rule with filed | ⟨-, path, sealed⟩
          · exact absurd (begun_of_filed filed) began
          · exact ⟨path, sealed.mono⟩
        · obtain ⟨path, sealed⟩ := inv.began mover listed earlier
          exact ⟨path, sealed.mono⟩
      · exact fun thread member path sealed => exec_keeps op (inv.kept thread member path sealed)
      · rw [past]
        rintro path ⟨profile, wrote⟩
        rcases wrote_append wrote with earlier | now
        · exact exec_keeps op (inv.kept mover listed path ⟨profile, earlier⟩)
        · exact exec_writes now

theorem Inv.applied (inv : Inv artifacts calls) {cleanup : Cleanup artifacts}
    {plan : RuntimeRetentionPlan} (planned : cleanup.plan calls.state = .ok plan) :
    Inv artifacts { calls with state :=
      { calls.state with artifacts := cleanup.applied calls.state plan } } := by
  have extracted : Extracted calls.state.artifacts cleanup.memoryCandidates := by
    intro candidate listed uri found
    obtain ⟨ids, same⟩ := cleanup.extracted candidate listed uri found
    exact ⟨ids, by rw [same, uriText, uriText, inv.uriPrefix]⟩
  refine ⟨apply_uriPrefix.trans inv.uriPrefix, inv.rows, inv.conducted, inv.began, ?_⟩
  intro thread listed path sealed
  refine apply_keeps ?_ (inv.kept thread listed path sealed)
  exact planned_elsewhere planned inv.rows.recorded extracted sealed.1

theorem Inv.perform (inv : Inv artifacts calls) (step : RuntimeStep artifacts) :
    Inv artifacts (perform calls step) := by
  match step with
  | .call asked =>
      have blank : ∀ path, ¬Sealed [] path := by
        rintro path ⟨-, parts, payload, plane, member, -⟩
        cases member
      refine ⟨inv.uriPrefix, inv.rows, inv.conducted.spawn (program_keeps asked), ?_, ?_⟩
      · exact List.forall_mem_append.mpr
          ⟨inv.began, List.forall_mem_singleton.mpr fun began => absurd rfl began⟩
      · refine List.forall_mem_append.mpr ⟨inv.kept, List.forall_mem_singleton.mpr ?_⟩
        exact fun path sealed => (blank path sealed).elim
  | .advance index => exact inv.advance index
  | .raise index error =>
      have past {thread : Thread Op.Reply Plane RuntimeCall PyError Unit}
          (member : thread ∈ (calls.crash index (.error error)).threads) :
          ∃ old ∈ calls.threads, thread.past = old.past := by
        obtain ⟨other, found⟩ := List.getElem?_of_mem member
        obtain ⟨old, located, -, same⟩ := Pool.crash_past found
        exact ⟨old, List.mem_of_getElem? located, same⟩
      refine ⟨inv.uriPrefix, inv.rows, inv.conducted.crash fun _ _ => trivial, ?_, ?_⟩
      · intro thread member
        obtain ⟨old, listed, same⟩ := past member
        rw [same]
        exact inv.began old listed
      · intro thread member
        obtain ⟨old, listed, same⟩ := past member
        rw [same]
        exact inv.kept old listed
  | .other op apart =>
      refine ⟨(exec_uriPrefix op).trans inv.uriPrefix, inv.rows.exec (.inl (filed_of_apart apart)),
        inv.conducted, inv.began, ?_⟩
      exact fun thread listed path sealed => exec_keeps op (inv.kept thread listed path sealed)
  | .tick micros => exact ⟨inv.uriPrefix, inv.rows, inv.conducted, inv.began, inv.kept⟩
  | .cleanup cleanup =>
      unfold RetentionGaps.perform
      dsimp only
      split
      · exact inv
      · rename_i plan planned
        exact inv.applied planned

theorem inv_idle (clock : Datetime) (artifacts : JsonArtifactStore) :
    Inv artifacts (idle clock artifacts) := by
  have rows : RowsElsewhere .empty := by constructor <;> exact List.forall_mem_nil _
  refine ⟨rfl, rows, fun index thread found => ?_, List.forall_mem_nil _, List.forall_mem_nil _⟩
  cases found

theorem inv_run (clock : Datetime) (artifacts : JsonArtifactStore)
    (steps : List (RuntimeStep artifacts)) :
    Inv artifacts (steps.foldl perform (idle clock artifacts)) := by
  induction steps using List.reverseRecOn with
  | nil => exact inv_idle clock artifacts
  | append_singleton steps step ih =>
      rw [List.foldl_append]
      exact ih.perform step

theorem Inv.left (inv : Inv artifacts calls) {cleanup : Cleanup artifacts}
    {plan : RuntimeRetentionPlan} (planned : cleanup.plan calls.state = .ok plan)
    {thread : Thread Op.Reply Plane RuntimeCall PyError Unit} (listed : thread ∈ calls.threads)
    {run : RuntimeRun} (began : run ∈ begun thread.past) :
    ¬LeavesNone thread.past (cleanup.applied calls.state plan) := by
  intro cleaned
  obtain ⟨path, sealed⟩ := inv.began thread listed (List.ne_nil_of_mem began)
  have there := (inv.applied planned).kept thread listed path sealed
  rw [cleaned path sealed.2] at there
  cases there

/-- Whatever has happened, applying a plan leaves a file of every run that has begun. -/
theorem cleanup_leaves_profiles (clock : Datetime) (artifacts : JsonArtifactStore)
    (steps : List (RuntimeStep artifacts)) (cleanup : Cleanup artifacts) :
    let calls := steps.foldl RetentionGaps.perform (idle clock artifacts)
    ∀ plan, cleanup.plan calls.state = .ok plan →
      ∀ thread ∈ calls.threads, ∀ run ∈ begun thread.past,
        ¬LeavesNone thread.past (cleanup.applied calls.state plan) :=
  fun _ planned _ listed _ began => (inv_run clock artifacts steps).left planned listed began

end Runs

section Samples

/-- A cleanup thirty days after the run, of a file system that refuses nothing. -/
def sampleCleanup : Cleanup .empty where
  executor :=
    { redactSensitiveData := id
      isDir := fun _ => false
      unlinkError := fun _ => none
      dryRun := false }
  fromIsoformat text :=
    if text = isoTimestamp Sample.clock then .ok Sample.clock
    else .error ⟨.valueError, "Invalid isoformat string", none⟩
  now := Sample.clock + 30 * 86400000000
  extracted := List.forall_mem_nil _

def sampleSteps : List (RuntimeStep .empty) :=
  .call (.execute Sample.components none (Sample.task "task-a" "tenant-a")
    (some (Sample.authorized "tenant-a")) none {}) ::
    List.replicate 136 (.advance 0) ++ [.tick (30 * 86400000000)]

def sampleCalls : Calls := sampleSteps.foldl perform (idle Sample.clock .empty)

def samplePlan : RuntimeRetentionPlan :=
  (sampleCleanup.plan sampleCalls.state).toOption.getD ⟨[], [], [], []⟩

theorem sample_checked : (sampleCleanup.plan sampleCalls.state).isOk = true ∧
    (∃ thread ∈ sampleCalls.threads, ∃ run ∈ begun thread.past,
      run.id ∈ samplePlan.expiredRunIds) ∧ samplePlan.retainedArtifactUris = [] := by
  decide +kernel

theorem sample_planned : sampleCleanup.plan sampleCalls.state = .ok samplePlan := by
  unfold samplePlan
  exact Stateful.eq_ok_of_isOk _ sample_checked.1

theorem sample_expired : ∃ thread ∈ sampleCalls.threads, ∃ run ∈ begun thread.past,
    run.id ∈ samplePlan.expiredRunIds := sample_checked.2.1

theorem cleanup_leaves_profiles_sample : ∃ thread ∈ sampleCalls.threads,
    ¬LeavesNone thread.past (sampleCleanup.applied sampleCalls.state samplePlan) := by
  obtain ⟨thread, listed, run, began, -⟩ := sample_expired
  exact ⟨thread, listed, cleanup_leaves_profiles Sample.clock .empty sampleSteps sampleCleanup
    samplePlan sample_planned thread listed run began⟩

/-- The plan of the expired run is not complete. -/
theorem expired_run_keeps_file :
    ¬∀ (clock : Datetime) (artifacts : JsonArtifactStore) (steps : List (RuntimeStep artifacts))
      (cleanup : Cleanup artifacts),
      let calls := steps.foldl perform (idle clock artifacts)
      ∀ plan, cleanup.plan calls.state = .ok plan → cleanup.executor.dryRun = false →
        (∀ uri ∈ plan.expiredArtifactUris, uri ∉ plan.retainedArtifactUris) →
        ∀ thread ∈ calls.threads, ∀ run ∈ begun thread.past, run.id ∈ plan.expiredRunIds →
          LeavesNone thread.past (cleanup.applied calls.state plan) := by
  intro complete
  obtain ⟨thread, listed, run, began, expired⟩ := sample_expired
  have shared : ∀ uri ∈ samplePlan.expiredArtifactUris, uri ∉ samplePlan.retainedArtifactUris := by
    rw [sample_checked.2.2]
    exact fun _ _ => List.not_mem_nil
  exact (inv_run Sample.clock .empty sampleSteps).left sample_planned listed began
    (complete Sample.clock .empty sampleSteps sampleCleanup samplePlan sample_planned rfl shared
      thread listed run began expired)

end Samples

end SkillCentric.RetentionGaps
