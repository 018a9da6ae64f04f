import SkillCentric.Runtime.Components
import SkillCentric.Runtime.FlightRecorder

/-!
# The runtime entry point

`RuntimeEntryPoint.start`: analysis, composition context, tenant authority, profile composition,
sealing of the profile, and the first records of the run.
-/

namespace SkillCentric

open FlightRecorder

/-- The recomposition arguments of `start`. -/
structure ProfileGeneration where
  recomposition : Bool := false
  profileGeneration : Int := 1
  parentProfileId : Option Text := none
  recompositionReason : Option Text := none

/-- `RuntimeStartResult`, as far as it is read. -/
structure RuntimeStartResult where
  runId : Text
  taskId : Text
  profile : RuntimeProfile
  profileArtifactUri : ArtifactPath
  profileSha256 : Text

/-- Reasons of a recomposition. -/
def recompositionReasons : List Text :=
  ["budget_exhausted", "missing_capability", "policy_change", "task_reclassified",
    "validator_failure"]

namespace RuntimeEntryPoint

/-- `RuntimeEntryPointError(message)`. -/
def entryPointError (message : Text) : PyError := ⟨.runtimeEntryPointError, message, none⟩

/-- `_assert_profile_generation_request`. -/
def assertProfileGenerationRequest (generation : ProfileGeneration) : Except PyError Unit := do
  if generation.profileGeneration < 1 then
    throw (entryPointError "profile_generation must be greater than zero.")
  if !generation.recomposition then
    if generation.profileGeneration ≠ 1 ∨ generation.parentProfileId.isSome ∨
        (generation.recompositionReason.filter (· ≠ [])).isSome then
      throw (entryPointError "Initial composition cannot include recomposition traceability.")
  else
    match generation.parentProfileId, generation.recompositionReason with
    | some _, some reason =>
        requireChoice reason recompositionReasons "recomposition_reason"
        if generation.profileGeneration ≤ 1 then
          throw (entryPointError "Recomposition requires profile_generation greater than 1.")
    | _, _ =>
        throw (entryPointError
          "Recomposition requires parent_profile_id and recomposition_reason.")

/-- `composition_context_response or self._fetch_composition_context(request)`. -/
def contextResponse (components : Components) (task : Json) (given : Option JsonObject) :
    Except PyError JsonObject :=
  match given with
  | some (field :: rest) => .ok (field :: rest)
  | _ =>
      match components.compositionContext with
      | none => .error (entryPointError
          "RuntimeEntryPoint requires either a ControlPlaneClient or an explicit composition_context_response.")
      | some client => client (components.contextRequest task)

/-- `_profile_id`. -/
def profileId (taskId : Text) (generation : Int) : Text :=
  let base := ("profile-" : Text) ++ removePrefix taskId "task-"
  if generation ≤ 1 then base else base ++ ("-g" : Text) ++ Json.intText generation

/-- `RuntimeProfileComposer.compose`. -/
def composeProfile (components : Components) (task : Json) (analyzed : AnalyzedTask)
    (context : JsonObject) (generation : ProfileGeneration) : Except PyError RuntimeProfile := do
  let composition ← components.compose task (.obj context)
  return {
    id := profileId analyzed.taskId generation.profileGeneration
    profileVersion := "0.6.0"
    profileGeneration := generation.profileGeneration.toNat
    parentProfileId := generation.parentProfileId
    recompositionReason := generation.recompositionReason
    tenantId := analyzed.tenantId
    areaId := analyzed.areaId
    composition }

/-- What `start` computes before its first write. -/
structure Prepared where
  analyzed : AnalyzedTask
  context : JsonObject
  profile : RuntimeProfile

/-- The part of `start` before its first write. -/
def prepare (components : Components) (task : JsonObject) (context : Option JsonObject)
    (generation : ProfileGeneration) : Except PyError Prepared := do
  assertProfileGenerationRequest generation
  let analyzed ← TaskAnalyzer.analyze (.obj task)
  let context ← contextResponse components (.obj task) context
  assertRuntimeTenantIsStartable (.obj task) (.obj context)
  let profile ← composeProfile components (.obj task) analyzed context generation
  return ⟨analyzed, context, profile⟩

/-- Path parts of a sealed profile. -/
def profileParts (profile : RuntimeProfile) (profileSha256 : Text) : List Text :=
  ["profiles", profile.id, profileSha256]

/-- `run_id or _default_run_id(task_id, profile_generation)`. -/
def requestedRunId (runId : Option Text) (taskId : Text) (generation : Int) : Option Text :=
  (runId.filter (· ≠ [])).or
    (if generation ≤ 1 then none
    else some (slugId (taskId ++ ("-generation-" : Text) ++ Json.intText generation) "run"))

/-- The events and the checkpoint of a started run. -/
def recordStart (components : Components) (task : JsonObject) (prepared : Prepared)
    (start : RuntimeStartResult) : Py Unit := do
  let redact := components.redactFor prepared.profile
  let _ ← recordEvent redact
    { runId := start.runId
      eventType := .taskAnalyzed
      actorRole := .composer
      plannedAction := some (.obj [("task_id", .str start.taskId)])
      result := some (components.analysisSummary (.obj task)) }
  let _ ← recordEvent redact
    { runId := start.runId
      eventType := .candidatesDiscovered
      actorRole := .composer
      plannedAction := some (components.contextRequest (.obj task))
      result := some (.obj prepared.context) }
  let _ ← recordEvent redact
    { runId := start.runId
      eventType := .profileEmitted
      actorRole := .composer
      result := some (.obj [("profile", prepared.profile.toJson)]) }
  let _ ← recordEvent redact
    { runId := start.runId
      eventType := .profileValidated
      actorRole := .composer
      result := some (.obj
        [("profile_id", .str prepared.profile.id),
          ("validators", prepared.profile.field "validators"),
          ("module_versions", prepared.profile.field "module_versions")]) }
  let _ ← checkpoint redact
    { runId := start.runId
      phase := .composition
      state := components.profileSummary prepared.profile }
  let _ ← recordEvent redact
    { runId := start.runId
      eventType := .runtimeStarted
      actorRole := .composer
      result := some (.obj
        [("run_id", .str start.runId), ("profile_id", .str prepared.profile.id),
          ("profile_version", .str prepared.profile.profileVersion),
          ("profile_artifact_uri", components.uriOf start.profileArtifactUri),
          ("profile_sha256", .str start.profileSha256)]) }
  return ()

/-- The run record a start inserts. -/
def runStart (runId : Option Text) (generation : ProfileGeneration) (prepared : Prepared)
    (profileArtifactUri : ArtifactPath) (profileSha256 : Text) : RunStart where
  taskId := prepared.analyzed.taskId
  profileId := prepared.profile.id
  profileVersion := prepared.profile.profileVersion
  tokenBudgetTotal := some prepared.profile.maxTokens
  runId := requestedRunId runId prepared.analyzed.taskId generation.profileGeneration
  profileArtifactUri
  profileSha256
  profileGeneration := prepared.profile.profileGeneration
  parentProfileId := prepared.profile.parentProfileId

/-- `start`. -/
def start (components : Components) (task : JsonObject) (context : Option JsonObject)
    (runId : Option Text) (generation : ProfileGeneration) : Py RuntimeStartResult := do
  let prepared ← Py.lift (prepare components task context generation)
  let profileSha256 := components.profileSha256 prepared.profile.toJson
  let profileArtifactUri ← Py.call (.writeJson
    (profileParts prepared.profile profileSha256) prepared.profile.toJson)
  let run ← startRun
    (runStart runId generation prepared profileArtifactUri profileSha256)
  let result : RuntimeStartResult :=
    { runId := run.id
      taskId := prepared.analyzed.taskId
      profile := prepared.profile
      profileArtifactUri
      profileSha256 }
  recordStart components task prepared result
  return result

end RuntimeEntryPoint

end SkillCentric
