import SkillCentric.Runtime.Components
import SkillCentric.Runtime.FlightRecorder

/-!
# The tool gateway

`ToolGateway.invoke`: a tool call is authorized by the enforcer, recorded, performed by its adapter
and followed by the after-tool hook, which reads the recorded artifacts back.
-/

namespace SkillCentric

/-- What a gateway is created with. -/
structure ToolGateway where
  components : Components
  redact : Json → Json
  runId : Text
  stepId : Text

namespace ToolGateway

/-- `ToolExecutionError(message, stop_reason=...)`. -/
def toolExecutionError (message stopReason : Text) : PyError :=
  ⟨.toolExecutionError, message, some (some stopReason)⟩

variable (gateway : ToolGateway)

/-- An event of the gateway's step. -/
def event (eventType : RuntimeEventType) (actorRole : RuntimeActorRole)
    (plannedAction execution result : Option Json) (stopReason : Option Text) :
    Py RuntimeEvent :=
  FlightRecorder.recordEvent gateway.redact
    { runId := gateway.runId
      eventType
      actorRole
      stepId := some gateway.stepId
      plannedAction
      execution
      result
      stopReason }

/-- Write the capability-gap candidate of a denial. -/
def writeCapabilityGap (candidate : Option (Text × Json)) : Py JsonObject :=
  match candidate with
  | none => return []
  | some (candidateId, payload) => do
      let path ← Py.call (.writeJson
        ["artifacts", gateway.runId, "capability-gap-candidates", candidateId]
        (gateway.components.redactSensitiveData payload))
      return [("capability_gap_candidate_uri", gateway.components.uriOf path)]

/-- `_record_denied_access`. -/
def recordDeniedAccess (toolName : Text) (payload : JsonObject) (error : PyError) : Py Unit := do
  let gap ← writeCapabilityGap gateway (gateway.components.capabilityGap toolName error)
  let _ ← event gateway .accessAttempted .policyEngine
    (some (.obj [("tool_name", .str toolName), ("payload", .obj payload)])) none
    (some (.obj
      (("effect", .str "deny") :: ("reason", .str (gateway.components.errorCode error)) :: gap)))
    (error.stopReason.getD none)
  return ()

/-- The enforcement check of `invoke`. -/
def authorize (index : Nat) (toolName : Text) (payload : JsonObject) : Py Unit :=
  match gateway.components.recordToolInvocation index toolName with
  | .ok _ => return ()
  | .error error =>
      if error.cls = .profileEnforcementError then do
        recordDeniedAccess gateway toolName payload error
        throw ⟨.toolDeniedError, error.message, error.stopReason⟩
      else throw error

/-- `_read_hook_artifact`. -/
def readHookArtifact (uri : Option ArtifactPath) : Py (Option Json) :=
  match uri with
  | none => return none
  | some path => do
      let stored ← Py.call (.readJson path)
      return stored.toOption

/-- `_evaluate_runtime_after_tool_hook`. -/
def evaluateAfterToolHook (record : ToolInvocation) (completed : RuntimeEvent) : Py Unit := do
  let input ← readHookArtifact (some record.inputUri)
  let output ← readHookArtifact (some record.outputUri)
  let execution ← readHookArtifact completed.executionUri
  let result ← readHookArtifact completed.resultUri
  let (violations, evidence) := gateway.components.afterToolHook record completed
    [input, output, execution, result]
  let _ ← event gateway .runtimeAfterToolHookEvaluated .policyEngine none
    (some (.obj [("hook_id", .str "runtime-after-tool"), ("tool_invocation_id", .str record.id)]))
    (some evidence) (if violations.isEmpty then none else some "policy_denied")
  Py.raiseIf (!violations.isEmpty) (toolExecutionError
    (("runtime-after-tool hook failed: " : Text) ++ List.intercalate (", " : Text) violations)
    "policy_denied")

/-- The adapter's outcome as recorded. -/
def outputOf (outcome : Except PyError JsonObject) : JsonObject :=
  match outcome with
  | .ok output => output
  | .error error => [("error", .str error.message), ("error_type", .str error.cls.name)]

/-- The status of the adapter's outcome. -/
def statusOf (outcome : Except PyError JsonObject) : RuntimeStatus :=
  match outcome with
  | .ok _ => .succeeded
  | .error _ => .failed

/-- The recorded part of `invoke`, once the tool is authorized and has an adapter. -/
def perform (toolName : Text) (payload : JsonObject) (index : Nat)
    (outcome : Except PyError JsonObject) : Py ToolInvocation := do
  let invocationId :=
    slugId (gateway.runId ++ '-' :: toolName ++ '-' :: decimal index) "tool"
  let inputUri ← Py.call (.writeJson
    ["tool_outputs", gateway.runId, invocationId ++ ("-input" : Text)]
    (gateway.redact (.obj [("tool_name", .str toolName), ("payload", .obj payload)])))
  let startedAt ← Py.timestamp
  let planned : Json :=
    .obj [("tool_name", .str toolName), ("input_uri", gateway.components.uriOf inputUri)]
  let _ ← event gateway .accessAttempted .policyEngine (some planned) none
    (some (.obj (("effect", .str "allow") :: gateway.components.toolAccess toolName))) none
  let _ ← event gateway .toolInvocationStarted .executor (some planned) none none none
  let status := statusOf outcome
  let outputUri ← Py.call (.writeJson
    ["tool_outputs", gateway.runId, invocationId ++ ("-output" : Text)]
    (gateway.redact (.obj
      [("tool_name", .str toolName), ("status", .str status.text),
        ("output", .obj (outputOf outcome))])))
  let completedAt ← Py.timestamp
  let record : ToolInvocation :=
    { id := invocationId
      runId := gateway.runId
      stepId := gateway.stepId
      toolName
      status
      inputUri
      outputUri
      startedAt
      completedAt }
  Py.call (.insertToolInvocation record)
  let completed ← event gateway .toolInvocationCompleted .executor none
    (some (.obj [("tool_invocation_id", .str invocationId), ("status", .str status.text)]))
    (some (.obj
      [("tool_name", .str toolName), ("output_uri", gateway.components.uriOf outputUri)]))
    (if status = .succeeded then none else some "tool_error")
  evaluateAfterToolHook gateway record completed
  return record

/-- `invoke`. -/
def invoke (toolName : Text) (payload : JsonObject) (index : Nat) : Py ToolInvocation := do
  authorize gateway index toolName payload
  match gateway.components.adapter toolName with
  | none => throw (toolExecutionError
      (("No adapter is registered for tool: " : Text) ++ toolName) "tool_error")
  | some adapter => do
      let outcome := adapter index payload
      let record ← perform gateway toolName payload index outcome
      match outcome with
      | .ok _ => return record
      | .error error => throw (toolExecutionError
          (("Tool " : Text) ++ toolName ++ (" failed: " : Text) ++ error.message) "tool_error")

end ToolGateway

end SkillCentric
