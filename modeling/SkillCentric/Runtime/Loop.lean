import SkillCentric.Runtime.EntryPoint
import SkillCentric.Runtime.QueueManager
import SkillCentric.Runtime.ToolGateway

/-!
# The runtime loop

`MinimalRuntimeLoop.run`: the seal check, the context, planner, executor and validator steps with a
cancellation check before each, and the three ends of a run.
-/

namespace SkillCentric

open FlightRecorder

/-- `RuntimeLoopResult`; a loop that returns has succeeded or was cancelled. -/
structure RuntimeLoopResult where
  runId : Text
  cancelled : Bool
  stopReason : Text
  response : JsonObject

/-- What the four steps hand to the end of the run. -/
structure StepsResult where
  plan : RuntimePlan
  execution : Json
  response : JsonObject

/-- What a loop is created with; `queueId` is the item the cancellation checker looks at. -/
structure MinimalRuntimeLoop where
  components : Components
  queueId : Option Text

namespace MinimalRuntimeLoop

variable (loop : MinimalRuntimeLoop)

/-- `RuntimeLoopError(message, stop_reason=...)`. -/
def loopError (message : Text) (stopReason : Option Text) : PyError :=
  ⟨.runtimeLoopError, message, some stopReason⟩

/-- `RuntimeCancellationError("Runtime run was cancelled.")`. -/
def cancellationError : PyError :=
  ⟨.runtimeCancellationError, "Runtime run was cancelled.", some (some "cancelled")⟩

/-- `RuntimeQueueWorker._queue_item_is_cancelled`. -/
def queueItemIsCancelled (queueId : Text) : Py Bool := do
  let found ← Py.call (.getRuntimeQueueItem queueId)
  if found.isNone then return false
  else
    let item ← Py.call (.getRuntimeQueueItem queueId)
    return item.any (·.status = .cancelled)

/-- The cancellation checker of the loop. -/
def checkCancellation (queueId : Option Text) : Py Bool :=
  match queueId with
  | none => return false
  | some queueId => queueItemIsCancelled queueId

/-- `_raise_if_cancelled`. -/
def raiseIfCancelled (runId : Text) : Py Unit := do
  let status ← RuntimeQueueManager.runStatus runId
  Py.raiseIf (status = some .cancelled) cancellationError
  let cancelled ← checkCancellation loop.queueId
  Py.raiseIf cancelled cancellationError

/-- `_assert_profile_seal`. -/
def assertProfileSeal (start : RuntimeStartResult) : Py Unit := do
  let stored ← Py.call (.readJson start.profileArtifactUri)
  let profile ← Py.lift stored
  Py.raiseIf (!profile.isMapping) (loopError "Runtime profile artifact is not a JSON object."
    (some "profile_integrity_failure"))
  Py.raiseIf (loop.components.profileSha256 profile ≠ start.profileSha256)
    (loopError "Runtime profile artifact seal does not match the recorded SHA-256."
      (some "profile_integrity_failure"))

/-- The cancellation and duration checks before a step, and the step's record. -/
def beginStep (runId : Text) (index : Nat) (kind : RuntimeStepKind) : Py RuntimeStep := do
  raiseIfCancelled loop runId
  Py.lift (loop.components.checkDuration kind)
  startStep runId index kind

/-- An event of a step. -/
def stepEvent (redact : Json → Json) (runId stepId : Text) (eventType : RuntimeEventType)
    (actorRole : RuntimeActorRole) (plannedAction execution result : Option Json)
    (stopReason : Option Text) : Py Unit := do
  let _ ← recordEvent redact
    { runId, eventType, actorRole, stepId := some stepId, plannedAction, execution, result,
      stopReason }
  return ()

/-- The checkpoint and the completion of a step. -/
def endStep (redact : Json → Json) (runId stepId : Text) (phase : RuntimePhase)
    (actorRole : RuntimeActorRole) (state : Json) : Py Unit := do
  let _ ← checkpoint redact { runId, phase, state, stepId := some stepId }
  stepEvent redact runId stepId .stepCompleted actorRole none none (some state) (some "completed")
  completeStep stepId .succeeded (some "completed")

/-- The completion of a failed step. -/
def failStep (redact : Json → Json) (runId stepId : Text) (actorRole : RuntimeActorRole)
    (result : Json) (stopReason : Text) : Py Unit := do
  stepEvent redact runId stepId .stepCompleted actorRole none none (some result) (some stopReason)
  completeStep stepId .failed (some stopReason)

/-- `_context_step`. -/
def contextStep (redact : Json → Json) (runId : Text) (profile : RuntimeProfile) :
    Py JsonObject := do
  let step ← beginStep loop runId 0 .context
  stepEvent redact runId step.id .stepStarted .contextManager
    (some (.obj [("phase", .str "context")])) none none none
  let context ← Py.lift (loop.components.loadContext profile)
  endStep redact runId step.id .context .contextManager (.obj context)
  return context

/-- `sorted(context)`. -/
def sortedKeys (context : JsonObject) : Json :=
  .arr (((context.map (·.1)).insertionSort (· ≤ ·)).map .str)

/-- `_planner_step`. -/
def plannerStep (redact : Json → Json) (runId : Text) (profile : RuntimeProfile)
    (context : JsonObject) : Py RuntimePlan := do
  let step ← beginStep loop runId 1 .planner
  stepEvent redact runId step.id .stepStarted .planner
    (some (.obj [("phase", .str "planner"), ("context_keys", sortedKeys context)])) none none none
  let plan ← Py.lift (loop.components.buildPlan profile)
  endStep redact runId step.id .planner .planner plan.toJson
  return plan

/-- `getattr(error, "stop_reason", "tool_error")` as a text. -/
def stopReasonText (error : PyError) : Text :=
  (error.stopReasonOr "tool_error").getD "None"

/-- The tool and the payload of an action. -/
def toolCall (action : JsonObject) : Except PyError (Text × JsonObject) :=
  match Json.field? "tool" action with
  | none => .error (InMemoryRuntimeStore.keyError "tool")
  | some tool =>
      match Json.field? "payload" action with
      | some (.obj payload) => .ok (tool.pyStr, payload)
      | _ => .ok (tool.pyStr, [])

/-- The recorded result of a tool call. -/
def toolResult (components : Components) (record : ToolInvocation) : Json :=
  .obj
    [("id", .str record.id), ("tool_name", .str record.toolName),
      ("status", .str record.status.text), ("output_uri", components.uriOf record.outputUri)]

/-- The tool loop of `_executor_step`; `index` counts the calls made. -/
def runActions (gateway : ToolGateway) (runId : Text) : Nat → List Json → Py (List Json)
  | _, [] => return []
  | index, action :: rest => do
      raiseIfCancelled loop runId
      match action with
      | .obj fields => do
          let (toolName, payload) ← Py.lift (toolCall fields)
          let record ← gateway.invoke toolName payload index
          let results ← runActions gateway runId (index + 1) rest
          return toolResult loop.components record :: results
      | _ => runActions gateway runId index rest

/-- Errors of a tool call that fail the executor step. -/
def isToolError (error : PyError) : Bool :=
  error.cls = .toolDeniedError || error.cls = .toolExecutionError

/-- `_executor_step`. -/
def executorStep (redact : Json → Json) (runId : Text) (plan : RuntimePlan) : Py Json := do
  let step ← beginStep loop runId 2 .executor
  stepEvent redact runId step.id .stepStarted .executor (some plan.toJson) none none none
  let gateway : ToolGateway := ⟨loop.components, redact, runId, step.id⟩
  let outcome ← (runActions loop gateway runId 0 plan.actions).attempt
  match outcome with
  | .error error =>
      if isToolError error then do
        failStep redact runId step.id .executor
          (.obj [("status", .str "failed"), ("error", .str error.message)]) (stopReasonText error)
        throw error
      else throw error
  | .ok results => do
      let execution : Json := .obj [("strategy", plan.strategy), ("tool_results", .arr results)]
      endStep redact runId step.id .executor .executor execution
      return execution

/-- The records of the validator outcomes. -/
def recordOutcomes (redact : Json → Json) (runId stepId : Text) :
    List ValidationOutcome → Py Unit
  | [] => return ()
  | outcome :: rest => do
      let findingsUri ← Py.call (.writeJson
        ["traces", runId, "validation", outcome.validatorId] (redact outcome.findings))
      let validationId := slugId (runId ++ '-' :: outcome.validatorId) "validation"
      let createdAt ← Py.timestamp
      Py.call (.insertValidationResult
        { id := validationId
          runId
          stepId
          validatorId := outcome.validatorId
          passed := outcome.passed
          findingsUri
          createdAt })
      stepEvent redact runId stepId .validatorExecuted .validator none
        (some (.obj [("validation_result_id", .str validationId)]))
        (some (.obj
          [("status", .str (if outcome.passed then "passed" else "failed")),
            ("findings_uri", loop.components.uriOf findingsUri)]))
        (if outcome.passed then none else some "validator_failed")
      recordOutcomes redact runId stepId rest

/-- `assert_validation_passed`. -/
def failedValidators (outcomes : List ValidationOutcome) : List Text :=
  (outcomes.filter (!·.passed)).map (·.validatorId)

/-- `RuntimeValidationError` of the failed validators. -/
def validationError (failed : List Text) : PyError :=
  ⟨.runtimeValidationError,
    ("Runtime validation failed: " : Text) ++ List.intercalate (", " : Text) failed ++ ['.'],
    some (some "validator_failed")⟩

/-- `_validator_step`. -/
def validatorStep (redact : Json → Json) (runId : Text) (profile : RuntimeProfile)
    (context : JsonObject) (plan : RuntimePlan) (execution : Json) : Py JsonObject := do
  let step ← beginStep loop runId 3 .validator
  stepEvent redact runId step.id .stepStarted .validator
    (some (.obj [("phase", .str "validator"), ("validators", profile.field "validators")]))
    none none none
  let response ← Py.lift (loop.components.runtimeResponse profile context plan execution)
  let outcomes ← Py.lift (loop.components.validate profile execution (.obj response))
  recordOutcomes loop redact runId step.id outcomes
  if (failedValidators outcomes).isEmpty then do
    endStep redact runId step.id .validator .validator (.obj response)
    return response
  else do
    failStep redact runId step.id .validator (.obj [("status", .str "failed")]) "validator_failed"
    throw (validationError (failedValidators outcomes))

/-- The body of the `try` statement of `run`. -/
def steps (redact : Json → Json) (runId : Text) (profile : RuntimeProfile) :
    Py StepsResult := do
  Py.lift (loop.components.validateProfile profile)
  raiseIfCancelled loop runId
  let context ← contextStep loop redact runId profile
  raiseIfCancelled loop runId
  let plan ← plannerStep loop redact runId profile context
  raiseIfCancelled loop runId
  let execution ← executorStep loop redact runId plan
  raiseIfCancelled loop runId
  let response ← validatorStep loop redact runId profile context plan execution
  return ⟨plan, execution, response⟩

/-- `_cancel_run` and the result of a cancelled run. -/
def cancelRun (redact : Json → Json) (runId : Text) : Py RuntimeLoopResult := do
  let response : JsonObject :=
    [("run_id", .str runId), ("status", .str "cancelled"), ("stop_reason", .str "cancelled")]
  let _ ← recordEvent redact
    { runId
      eventType := .runtimeCancelled
      actorRole := .runtime
      result := some (.obj response)
      stopReason := some "cancelled" }
  completeRun runId .cancelled "cancelled" loop.components.tokensUsed
  return ⟨runId, true, "cancelled", response⟩

/-- `_fail_run`. -/
def failRun (redact : Json → Json) (runId : Text) (error : PyError) : Py Text := do
  let stopReason := stopReasonText error
  let _ ← recordEvent redact
    { runId
      eventType := .runtimeFailed
      actorRole := if stopReason = ("tool_error" : Text) then .executor else .policyEngine
      result := some (.obj
        [("error", .str error.message), ("error_type", .str error.cls.name),
          ("error_classification", loop.components.classifyFailure error stopReason)])
      stopReason := some stopReason }
  completeRun runId .failed stopReason loop.components.tokensUsed
  return stopReason

/-- `_recomposition_reason` with the policy field of `_failure_policy_field`. -/
def recomposition (error : PyError) : Option (Text × Text) :=
  let stopReason := (error.stopReasonOr []).getD "None"
  if error.cls = .runtimeValidationError then some ("validator_failure", "on_validator_failure")
  else if stopReason = ("policy_denied" : Text) then
    some ("missing_capability", "on_policy_denial")
  else if ("max_" : Text).isPrefixOf stopReason then
    some ("budget_exhausted", "on_budget_exhausted")
  else none

/-- The recomposition reason, when the profile's failure policy asks for a recomposition. -/
def allowedRecomposition (profile : RuntimeProfile) (error : PyError) : Option Text :=
  match recomposition error with
  | none => none
  | some (reason, field) =>
      if ((Json.field? field profile.failurePolicy).getD .null).equal (.str "recompose_once") then
        some reason
      else none

/-- The event and the end of a run that asks for a recomposition. -/
def requestRecomposition (redact : Json → Json) (start : RuntimeStartResult) (reason : Text) :
    Py Text := do
  let _ ← recordEvent redact
    { runId := start.runId
      eventType := .recompositionRequested
      actorRole := .composer
      result := some (.obj
        [("source_run_id", .str start.runId), ("task_id", .str start.taskId),
          ("parent_profile_id", .str start.profile.id),
          ("requested_profile_generation", .int (start.profile.profileGeneration + 1)),
          ("recomposition_reason", .str reason)])
      stopReason := some "needs_recomposition" }
  completeRun start.runId .failed "needs_recomposition" loop.components.tokensUsed
  return "needs_recomposition"

/-- `_handle_runtime_error`, up to the stop reason. -/
def handleRuntimeError (redact : Json → Json) (start : RuntimeStartResult) (error : PyError) :
    Py Text :=
  match allowedRecomposition start.profile error with
  | none => failRun loop redact start.runId error
  | some reason =>
      match loop.components.recordRecompositionRequest with
      | .error budget =>
          if budget.cls = .profileEnforcementError then failRun loop redact start.runId budget
          else throw budget
      | .ok _ => requestRecomposition loop redact start reason

/-- Errors that end a run as failed. -/
def isRuntimeError (error : PyError) : Bool :=
  error.cls = .profileEnforcementError || error.cls = .runtimeValidationError ||
    isToolError error

/-- The end of a run whose steps all passed. -/
def finishRun (redact : Json → Json) (runId : Text) (result : StepsResult) :
    Py RuntimeLoopResult := do
  let response := result.response ++
    [(("error_classification" : Text),
      loop.components.classifySuccess result.plan result.execution)]
  let _ ← recordEvent redact
    { runId
      eventType := .runtimeCompleted
      actorRole := .validator
      result := some (.obj response)
      stopReason := some "completed" }
  completeRun runId .succeeded "completed" loop.components.tokensUsed
  return ⟨runId, false, "completed", response⟩

/-- `run`. -/
def run (start : RuntimeStartResult) : Py RuntimeLoopResult := do
  assertProfileSeal loop start
  let redact := loop.components.redactFor start.profile
  let outcome ← (steps loop redact start.runId start.profile).attempt
  match outcome with
  | .ok result => finishRun loop redact start.runId result
  | .error error =>
      if error.cls = .runtimeCancellationError then cancelRun loop redact start.runId
      else if isRuntimeError error then do
        let stopReason ← handleRuntimeError loop redact start error
        throw (loopError error.message (some stopReason))
      else throw error

end MinimalRuntimeLoop

end SkillCentric
