import SkillCentric.Runtime.ProfileComposer
import SkillCentric.Runtime.System

/-!
# The runtime API

`RuntimeApiService`, as far as it starts runs and works on the queue: a run is queued or executed at
once, cancelled or retried for a principal.  The service looks at the mappings of the store, so
every field of an item is read from the stored row.
-/

namespace SkillCentric

open RuntimeQueueManager

/-- `RuntimeApiPrincipal`. -/
structure RuntimeApiPrincipal where
  principalId : Text
  tenantId : Text
  areaId : Text
  roles : List Text := []
  deriving DecidableEq

/-- `RuntimeApiError(message)`. -/
def apiError (message : Text) : PyError := ⟨.runtimeApiError, message, none⟩

/-- `RuntimeApiService`: the configuration of the queue, and the collaborators of a run that is
executed at once in an environment. -/
structure RuntimeApiService where
  queueConfig : RuntimeQueueConfig
  components : Text → Components

/-- What `start_run` answers, by its `response_mode`. -/
inductive StartRunResponse where
  | queued (queueItem : QueueItem)
  | immediate (result : RuntimeLoopResult) (run : RuntimeRun)

namespace RuntimeApiService

/-- `_assert_task_tenant`. -/
def assertTaskTenant (task : JsonObject) (principal : RuntimeApiPrincipal) : Except PyError Unit :=
  let auth := ((Json.obj task).item "context" (.obj [])).item "auth" (.obj [])
  if auth.item "tenant_id" ≠ .str principal.tenantId ∨
      auth.item "area_id" ≠ .str principal.areaId then
    .error (apiError "Runtime API task tenant scope does not match principal.")
  else .ok ()

/-- The idempotency key of a request. -/
def startKey (request task : JsonObject) : Except PyError Text :=
  let key := (Json.obj request).item "idempotency_key"
  if key.truthy then .ok key.pyStr
  else (RuntimeProfileComposer.subscript (.obj task) "id").map fun id =>
    id.pyStr ++ (":start" : Text)

/-- `execution.run_immediately`. -/
def runImmediately (request : JsonObject) : Bool :=
  match (Json.obj request).item "execution" (.obj []) with
  | .obj execution => ((Json.obj execution).item "run_immediately" (.bool false)).truthy
  | _ => false

/-- The environment of a request. -/
def environmentOf (request : JsonObject) (default : Text) : Text :=
  (Json.orElse ((Json.obj request).get? "environment") (.str default)).pyStr

/-- The checks of `start_run`, with the task and the composition context of the request. -/
def startChecks (principal : RuntimeApiPrincipal) (request : JsonObject) :
    Except PyError (JsonObject × Option JsonObject) :=
  match (Json.obj request).item "task" with
  | .obj task => do
      assertTaskTenant task principal
      match (Json.obj request).item "composition_context_response" with
      | .null => return (task, none)
      | .obj context => return (task, some context)
      | _ => .error (apiError "composition_context_response must be an object when provided.")
  | _ => .error (apiError "Runtime start request requires a task object.")

/-- The enqueue that `start_run` makes of a request. -/
def startRequest (config : RuntimeQueueConfig) (request task : JsonObject)
    (context : Option JsonObject) : Except PyError EnqueueRequest := do
  let key ← startKey request task
  return {
    task
    compositionContextResponse := context
    idempotencyKey := some key
    environment := environmentOf request config.environment
    queueName := config.queueName
    tenantQueuedLimits := config.tenantQueuedLimits
    disabledTenantIds := config.disabledTenantIds }

/-- `RuntimeEntryPoint.start` and `MinimalRuntimeLoop.run`. -/
def executeRun (components : Components) (task : JsonObject) (context : Option JsonObject) :
    Py StartRunResponse := do
  let start ← RuntimeEntryPoint.start components task context none {}
  let result ← MinimalRuntimeLoop.run ⟨components, none⟩ start
  let stored ← Py.call (.getRuntimeRun start.runId)
  match stored with
  | none => throw (InMemoryRuntimeStore.keyError "id")
  | some run => return .immediate result run

/-- The queueing half of `start_run`. -/
def queueRun (config : RuntimeQueueConfig) (request task : JsonObject)
    (context : Option JsonObject) : Py StartRunResponse := do
  let queued ← Py.lift (startRequest config request task context)
  let item ← enqueue queued
  return .queued item

/-- `start_run`. -/
def startRun (service : RuntimeApiService) (principal : RuntimeApiPrincipal)
    (request : JsonObject) : Py StartRunResponse := do
  let (task, context) ← Py.lift (startChecks principal request)
  if runImmediately request then
    executeRun (service.components (environmentOf request "dev")) task context
  else queueRun service.queueConfig request task context

/-- `_queue_item_for_run_or_queue_id`, as the identifier of the mapping it returns. -/
def queueItemForRunOrQueueId (value : Text) : Py Text := do
  let found ← Py.call (.getRuntimeQueueItem value)
  match found with
  | some item => return item.id
  | none => do
      let recordset ← Py.call .asRuntimePlaneRecordset
      match recordset.runtimeQueueItems.find? (·.runId = some value) with
      | some item => return item.id
      | none => throw (apiError "Runtime queue item was not found.")

/-- `_assert_queue_tenant`. -/
def assertQueueTenant (queueId : Text) (principal : RuntimeApiPrincipal) : Py Unit := do
  let item ← storedItem queueId
  Py.raiseIf (item.tenantId ≠ principal.tenantId)
    (apiError "Runtime API queue access was denied by tenant scope.")
  let item ← storedItem queueId
  Py.raiseIf (item.areaId ≠ principal.areaId)
    (apiError "Runtime API queue access was denied by area scope.")

/-- `cancel_run`. -/
def cancelRun (principal : RuntimeApiPrincipal) (runOrQueueId : Text) : Py QueueItem := do
  let queueId ← queueItemForRunOrQueueId runOrQueueId
  assertQueueTenant queueId principal
  let _previous ← storedItem queueId
  markCancelled queueId none
  storedItem queueId

/-- `retry_run`. -/
def retryRun (principal : RuntimeApiPrincipal) (runOrQueueId : Text) : Py QueueItem := do
  let queueId ← queueItemForRunOrQueueId runOrQueueId
  assertQueueTenant queueId principal
  retry { queueId }

end RuntimeApiService

/-- Calls of the API for principals, and the calls that others make beside it. -/
inductive ApiCall where
  | startRun (service : RuntimeApiService) (principal : RuntimeApiPrincipal) (request : JsonObject)
  | cancelRun (principal : RuntimeApiPrincipal) (runOrQueueId : Text)
  | retryRun (principal : RuntimeApiPrincipal) (runOrQueueId : Text)
  | operator (call : OperatorCall)

namespace ApiCall

/-- The program of a call, its answer dropped. -/
def program : ApiCall → Py Unit
  | .startRun service principal request => do
      let _ ← service.startRun principal request
      return ()
  | .cancelRun principal runOrQueueId => do
      let _ ← RuntimeApiService.cancelRun principal runOrQueueId
      return ()
  | .retryRun principal runOrQueueId => do
      let _ ← RuntimeApiService.retryRun principal runOrQueueId
      return ()
  | .operator call => call.program

end ApiCall

end SkillCentric
