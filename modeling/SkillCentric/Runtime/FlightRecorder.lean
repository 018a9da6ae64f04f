import SkillCentric.Runtime.Operations

/-!
# The flight recorder

Runs, steps, events and checkpoints are recorded with their payloads as artifacts.  The recorder
takes the redaction of payloads as a function: `redact_sensitive_data`, or the identity when a
profile turns redaction off.
-/

namespace SkillCentric

open Datetime

/-- Stop reasons of steps, events and runs. -/
def stopReasons : List Text :=
  ["cancelled", "completed", "composer_failure", "max_data_reads", "max_duration",
    "max_memory_ops", "max_recompositions", "max_tokens", "max_tool_calls",
    "needs_recomposition", "policy_denied", "runtime_error", "tool_error", "validator_failed"]

/-- `require_choice(value, allowed, field)`; the allowed choices are given in order. -/
def requireChoice (value : Text) (allowed : List Text) (field : Text) : Except PyError Unit :=
  if allowed.contains value then .ok ()
  else .error
    ⟨.valueError,
      field ++ (" must be one of: " : Text) ++ List.intercalate (", " : Text) allowed ++
        (". Got: " : Text) ++ value ++ ['.'],
      none⟩

/-- The check of an optional stop reason. -/
def requireStopReason (stopReason : Option Text) : Except PyError Unit :=
  match stopReason with
  | none => .ok ()
  | some reason => requireChoice reason stopReasons "stop_reason"

/-- The arguments of `record_event`. -/
structure EventRequest where
  runId : Text
  eventType : RuntimeEventType
  actorRole : RuntimeActorRole
  stepId : Option Text := none
  plannedAction : Option Json := none
  execution : Option Json := none
  result : Option Json := none
  stopReason : Option Text := none
  idempotencyKey : Option Text := none

/-- The arguments of `checkpoint`. -/
structure CheckpointRequest where
  runId : Text
  phase : RuntimePhase
  state : Json
  stepId : Option Text := none

/-- What `start_run` reads of a profile, and where the profile is sealed. -/
structure RunStart where
  taskId : Text
  profileId : Text
  profileVersion : Text
  tokenBudgetTotal : Option Int
  runId : Option Text
  profileArtifactUri : ArtifactPath
  profileSha256 : Text
  profileGeneration : Int
  parentProfileId : Option Text

/-- `str.removeprefix`. -/
def removePrefix (value head : Text) : Text :=
  if head.isPrefixOf value then value.drop head.length else value

namespace FlightRecorder

/-- Path parts of an event payload. -/
def eventPayloadParts (runId : Text) (eventIndex : Nat) (eventType : RuntimeEventType)
    (slot : Text) : List Text :=
  ["traces", runId, "events", padded 3 eventIndex ++ '-' :: eventType.text ++ '-' :: slot]

/-- Path parts of a checkpoint state. -/
def checkpointParts (runId : Text) (checkpointIndex : Nat) (phase : RuntimePhase) : List Text :=
  ["traces", runId, "checkpoints", padded 3 checkpointIndex ++ '-' :: phase.text]

/-- The identifier `start_run` gives to a run. -/
def runIdentifier (start : RunStart) : Text :=
  (start.runId.filter (· ≠ [])).getD (slugId (removePrefix start.taskId "task-") "run")

/-- `start_run`, status `running`. -/
def startRun (start : RunStart) : Py RuntimeRun := do
  let startedAt ← Py.timestamp
  let record : RuntimeRun :=
    { id := runIdentifier start
      taskId := start.taskId
      profileId := start.profileId
      profileVersion := start.profileVersion
      status := .running
      startedAt
      completedAt := none
      tokenBudgetTotal := start.tokenBudgetTotal
      tokensUsedTotal := 0
      stopReason := none
      profileArtifactUri := start.profileArtifactUri
      profileSha256 := start.profileSha256
      profileGeneration := start.profileGeneration
      parentProfileId := start.parentProfileId }
  Py.call (.insertRuntimeRun record)
  return record

/-- `start_step`. -/
def startStep (runId : Text) (stepIndex : Nat) (kind : RuntimeStepKind) : Py RuntimeStep := do
  let startedAt ← Py.timestamp
  Py.call (.insertRuntimeStep
    { id := slugId (runId ++ '-' :: kind.text ++ '-' :: decimal stepIndex) "step"
      runId
      stepIndex
      kind
      status := .running
      startedAt
      completedAt := none
      stopReason := none
      tokensUsed := 0
      idempotencyKey :=
        runId ++ (":step:" : Text) ++ decimal stepIndex ++ ':' :: kind.text })

/-- `complete_step`. -/
def completeStep (stepId : Text) (status : RuntimeStatus) (stopReason : Option Text) : Py Unit := do
  Py.lift (requireStopReason stopReason)
  let completedAt ← Py.timestamp
  let result ← Py.call (.updateRuntimeStep stepId status completedAt stopReason 0)
  Py.lift result

/-- `_write_event_payload`. -/
def writeEventPayload (redact : Json → Json) (parts : List Text) (payload : Option Json) :
    Py (Option ArtifactPath) :=
  match payload with
  | none => return none
  | some payload => do
      let path ← Py.call (.writeJson parts (redact payload))
      return some path

/-- `record_event`. -/
def recordEvent (redact : Json → Json) (event : EventRequest) : Py RuntimeEvent := do
  Py.lift (requireStopReason event.stopReason)
  let eventIndex ← Py.call (.allocateRuntimeEventIndex event.runId)
  let key := (event.idempotencyKey.filter (· ≠ [])).getD
    (event.runId ++ (":event:" : Text) ++ event.eventType.text ++ ':' :: decimal eventIndex)
  let parts := eventPayloadParts event.runId eventIndex event.eventType
  let plannedActionUri ← writeEventPayload redact (parts "planned") event.plannedAction
  let executionUri ← writeEventPayload redact (parts "execution") event.execution
  let resultUri ← writeEventPayload redact (parts "result") event.result
  let createdAt ← Py.timestamp
  Py.call (.insertRuntimeEvent
    { id := slugId
        (event.runId ++ '-' :: event.eventType.text ++ '-' :: decimal eventIndex) "event"
      runId := event.runId
      stepId := event.stepId
      eventIndex
      eventType := event.eventType
      actorRole := event.actorRole
      plannedActionUri
      executionUri
      resultUri
      stopReason := event.stopReason
      idempotencyKey := key
      createdAt })

/-- The role that records the creation of a checkpoint. -/
def checkpointRole (phase : RuntimePhase) : RuntimeActorRole :=
  match phase with
  | .analysis | .composition => .composer
  | _ => .executor

/-- `checkpoint`. -/
def checkpoint (redact : Json → Json) (request : CheckpointRequest) : Py RuntimeCheckpoint := do
  let checkpointIndex ← Py.call (.allocateRuntimeCheckpointIndex request.runId)
  let stateUri ← Py.call (.writeJson
    (checkpointParts request.runId checkpointIndex request.phase) (redact request.state))
  let createdAt ← Py.timestamp
  let stored ← Py.call (.insertRuntimeCheckpoint
    { id := slugId
        (request.runId ++ '-' :: request.phase.text ++ '-' :: decimal checkpointIndex) "checkpoint"
      runId := request.runId
      stepId := request.stepId
      checkpointIndex
      phase := request.phase
      stateUri
      createdAt })
  let _ ← recordEvent redact
    { runId := request.runId
      stepId := request.stepId
      eventType := .checkpointCreated
      actorRole := checkpointRole request.phase
      result := some (.obj
        [("checkpoint_id", .str stored.id), ("phase", .str request.phase.text)])
      idempotencyKey :=
        some (request.runId ++ (":checkpoint:" : Text) ++ decimal checkpointIndex) }
  return stored

/-- `complete_run`. -/
def completeRun (runId : Text) (status : RuntimeStatus) (stopReason : Text)
    (tokensUsedTotal : Int) : Py Unit := do
  Py.lift (requireChoice stopReason stopReasons "stop_reason")
  let completedAt ← Py.timestamp
  let result ← Py.call (.updateRuntimeRun runId
    { status, completedAt, stopReason := some stopReason, tokensUsedTotal := some tokensUsedTotal })
  Py.lift result

end FlightRecorder

end SkillCentric
