import SkillCentric.Library.Pool
import SkillCentric.Library.Runs
import SkillCentric.Runtime.Worker

/-!
# The runtime plane under concurrency

Workers and operators work on one plane.  A system is the pool of their threads; an event lets time
pass, starts a call, lets a worker claim, performs the next operation of a thread, or kills a
thread.  `Call` is the type of the calls other than a worker's.
-/

namespace SkillCentric

open RuntimeQueueManager

/-- Calls of an operator. -/
inductive OperatorCall where
  | enqueue (request : EnqueueRequest)
  | cancel (queueId : Text) (runId : Option Text)
  | retry (request : RetryRequest)
  | heartbeat (config : RuntimeQueueConfig) (queueId : Text)
  | recover

namespace OperatorCall

/-- The program of a call. -/
def program : OperatorCall → Py Unit
  | .enqueue request => do
      let _ ← RuntimeQueueManager.enqueue request
      return ()
  | .cancel queueId runId => markCancelled queueId runId
  | .retry request => do
      let _ ← RuntimeQueueManager.retry request
      return ()
  | .heartbeat config queueId => RuntimeQueueManager.heartbeat config queueId
  | .recover => do
      let _ ← recoverStaleClaims
      return ()

end OperatorCall

/-- What a thread works on. -/
inductive Role (Call : Type) where
  | worker (worker : RuntimeQueueWorker) (bundle : ClaimBundle)
  | operator (call : Call)

/-- The claim of a worker. -/
def Role.claim {Call : Type} : Role Call → Option ClaimBundle
  | .worker _ bundle => some bundle
  | .operator _ => none

/-- A plane and the threads that work on it. -/
abbrev System (Call : Type) := Pool Op.Reply Plane (Role Call) PyError Unit

/-- What can happen next. -/
inductive Event (Call : Type) where
  | tick (micros : Nat)
  | call (call : Call)
  /-- A worker that read the clock at `claimedAt` claims. -/
  | claim (worker : RuntimeQueueWorker) (claimedAt : Datetime)
  | perform (index : Nat)
  | crash (index : Nat)

namespace RuntimeQueueWorker

/-- The worker's program after a claim, its result dropped. -/
def serve (worker : RuntimeQueueWorker) (bundle : ClaimBundle) : Py Unit := do
  let _ ← worker.processClaim bundle
  return ()

/-- The operation that claims for a worker. -/
def claimOp (worker : RuntimeQueueWorker) (claimedAt : Datetime) : Op :=
  .claimNextRuntimeQueueAttempt (claimRequest worker.config worker.workerId claimedAt)

end RuntimeQueueWorker

namespace System

variable {Call : Type}

/-- A system without threads, with an empty store. -/
def initial (clock : Datetime) (artifacts : JsonArtifactStore) : System Call where
  state := ⟨clock, .empty, artifacts⟩
  threads := []

/-- Let a worker claim; a claimed item starts the worker's thread. -/
def claim (system : System Call) (worker : RuntimeQueueWorker) (claimedAt : Datetime) :
    System Call :=
  let claimed : System Call :=
    { system with state := (exec (worker.claimOp claimedAt) system.state).2 }
  match system.state.store.selected (claimRequest worker.config worker.workerId claimedAt) with
  | none => claimed
  | some item =>
      let bundle := item.bundle (claimRequest worker.config worker.workerId claimedAt)
      claimed.spawn (.worker worker bundle) (worker.serve bundle)

/-- One event. -/
def step (program : Call → Py Unit) (system : System Call) : Event Call → System Call
  | .tick micros =>
    { system with state := { system.state with clock := system.state.clock + micros } }
  | .call call => system.spawn (.operator call) (program call)
  | .claim worker claimedAt =>
      if claimedAt ≤ system.state.clock then system.claim worker claimedAt else system
  | .perform index => Pool.step exec system index
  | .crash index => system.crash index (.ok ())

/-- The operation a thread performs next. -/
def nextOp (system : System Call) (index : Nat) : Option Op :=
  system.threads[index]?.bind Thread.nextOp

theorem nextOp_eq_some {system : System Call} {index : Nat} {op : Op} :
    system.nextOp index = some op ↔
      ∃ thread, system.threads[index]? = some thread ∧ thread.nextOp = some op := by
  simp [nextOp, Option.bind_eq_some_iff]

theorem step_state (program : Call → Py Unit) (system : System Call) (event : Event Call) :
    (∃ clock, (system.step program event).state = { system.state with clock }) ∨
    (∃ worker claimedAt, event = .claim worker claimedAt ∧ (system.step program event).state =
      (exec (RuntimeQueueWorker.claimOp worker claimedAt) system.state).2) ∨
    ∃ index op, event = .perform index ∧ system.nextOp index = some op ∧
      (system.step program event).state = (exec op system.state).2 := by
  cases event with
  | tick micros => exact .inl ⟨_, rfl⟩
  | call call => exact .inl ⟨_, rfl⟩
  | crash index => exact .inl ⟨_, rfl⟩
  | claim worker claimedAt =>
      by_cases past : claimedAt ≤ system.state.clock
      · refine .inr (.inl ⟨worker, claimedAt, rfl, ?_⟩)
        simp only [step, past, if_true, claim]
        split <;> rfl
      · exact .inl ⟨system.state.clock, by simp [step, past]⟩
  | perform index =>
      cases found : system.threads[index]? with
      | none => exact .inl ⟨system.state.clock, by simp [step, Pool.step_of_none exec found]⟩
      | some thread =>
          have state_eq : (system.step program (.perform index)).state =
              thread.effect exec system.state := by
            simp [step, Pool.step_of_thread exec found]
          cases next : thread.nextOp with
          | none =>
              rw [Thread.effect_of_done exec next] at state_eq
              exact .inl ⟨system.state.clock, state_eq⟩
          | some op =>
              rw [Thread.effect_of_nextOp exec next] at state_eq
              exact .inr (.inr ⟨index, op, rfl, nextOp_eq_some.mpr ⟨thread, found, next⟩, state_eq⟩)

/-- The claim a worker thread serves. -/
def claimOf (system : System Call) (index : Nat) : Option ClaimBundle :=
  system.threads[index]?.bind (·.info.claim)

/-- The system after a run. -/
def after (program : Call → Py Unit) (system : System Call) (events : List (Event Call)) :
    System Call :=
  events.foldl (step program) system

theorem after_append (program : Call → Py Unit) (system : System Call)
    (before later : List (Event Call)) :
    system.after program (before ++ later) = (system.after program before).after program later := by
  rw [after, List.foldl_append]
  rfl

end System

/-! ### A small deployment

Collaborators that select nothing, call no tool and validate nothing, for runs on fixed inputs. -/

namespace Sample

/-- Collaborators of a run without tools and validators. -/
def components : Components where
  artifactRootUri := "hetzner://runtime"
  redactSensitiveData := id
  profileSha256 := fun _ => "0"
  contextRequest := id
  analysisSummary := id
  compositionContext := none
  compose := fun _ _ => .ok ⟨false, [], []⟩
  redacts := fun _ => false
  profileSummary := fun _ => .null
  validateProfile := fun _ => .ok ()
  checkDuration := fun _ => .ok ()
  loadContext := fun _ => .ok []
  buildPlan := fun _ => .ok ⟨.str "direct", [], []⟩
  recordToolInvocation := fun _ _ => .ok ()
  toolAccess := fun _ => []
  errorCode := fun _ => []
  capabilityGap := fun _ _ => none
  adapter := fun _ => none
  afterToolHook := fun _ _ _ => ([], .null)
  runtimeResponse := fun _ _ _ _ => .ok []
  validate := fun _ _ _ => .ok []
  classifySuccess := fun _ _ => .null
  classifyFailure := fun _ _ => .null
  recordRecompositionRequest := .ok ()
  tokensUsed := 0

/-- The default settings. -/
def config : RuntimeQueueConfig := { retryAt := RuntimeQueueConfig.defaultRetryAt }

/-- A worker with the default settings. -/
def worker (workerId : Text) : RuntimeQueueWorker := ⟨workerId, config, components⟩

/-- A task of a tenant, with the tenant as its area. -/
def task (id tenant : Text) : JsonObject :=
  [("id", .str id), ("request", .str "review"),
    ("context", .obj [("auth", .obj [("tenant_id", .str tenant), ("area_id", .str tenant)])])]

/-- A composition context without tenant authority: it is queued, and its start is refused. -/
def unauthorized : JsonObject := [("composition_status", .str "ready")]

/-- A composition context with the authority of a tenant. -/
def authorized (tenant : Text) : JsonObject :=
  [("composition_status", .str "ready"), ("tenant_authority",
    .obj [("tenant_id", .str tenant), ("area_id", .str tenant), ("status", .str "active")])]

/-- Enqueue a task that starts. -/
def enqueue (id tenant : Text) (priority : Int := 0) : OperatorCall :=
  .enqueue
    { task := task id tenant
      compositionContextResponse := some (authorized tenant)
      priority }

/-- Enqueue a task whose start is refused. -/
def enqueueUnauthorized (id tenant : Text) : OperatorCall :=
  .enqueue { task := task id tenant, compositionContextResponse := some unauthorized }

/-- Nine o'clock on 1 July 2026. -/
def clock : Datetime := 63918493200000000

end Sample

end SkillCentric
