import SkillCentric.Runtime.Footprints
import SkillCentric.Runtime.Sequential
import SkillCentric.Runtime.System

/-!
# Closed runs

One `run` of the loop with nothing beside it.  The handlers of `run` end the run record for the
errors they name; a step is completed only by the code of the step itself.  So a run is left closed
exactly when it ends between two steps, or inside a step by a failure the step completes itself,
and with an error the handlers can record.
-/

namespace SkillCentric

open Program MinimalRuntimeLoop FlightRecorder

/-! ### The judge

`apply_optional_llm_judge` stands between the classification of a failure and its record.  Its
verdict is part of the classification; here it is also allowed to raise. -/

namespace MinimalRuntimeLoop

variable (loop : MinimalRuntimeLoop) (judge : PyError → Text → Except PyError Unit)

/-- `_fail_run` under a judge. -/
def failRunJudged (redact : Json → Json) (runId : Text) (error : PyError) : Py Text := do
  Py.lift (judge error (stopReasonText error))
  failRun loop redact runId error

/-- `_handle_runtime_error` under a judge. -/
def handleRuntimeErrorJudged (redact : Json → Json) (start : RuntimeStartResult)
    (error : PyError) : Py Text :=
  match allowedRecomposition start.profile error with
  | none => failRunJudged loop judge redact start.runId error
  | some reason =>
      match loop.components.recordRecompositionRequest with
      | .error budget =>
          if budget.cls = .profileEnforcementError then
            failRunJudged loop judge redact start.runId budget
          else throw budget
      | .ok _ => requestRecomposition loop redact start reason

/-- `run` under a judge. -/
def runJudged (start : RuntimeStartResult) : Py RuntimeLoopResult := do
  assertProfileSeal loop start
  let redact := loop.components.redactFor start.profile
  let outcome ← (steps loop redact start.runId start.profile).attempt
  match outcome with
  | .ok result => finishRun loop redact start.runId result
  | .error error =>
      if error.cls = .runtimeCancellationError then cancelRun loop redact start.runId
      else if isRuntimeError error then do
        let stopReason ← handleRuntimeErrorJudged loop judge redact start error
        throw (loopError error.message (some stopReason))
      else throw error

end MinimalRuntimeLoop

namespace RunClosure

section Planes

variable (runId : Text) (plane : Plane)

abbrev stepRows : Dict Text RuntimeStep := plane.store.runtimeSteps

/-- Every step stands under its own identifier. -/
def StepsKeyed : Prop := ∀ stepId step, (stepRows plane).get? stepId = some step → step.id = stepId

/-- The run has ended, and says when. -/
def RunClosed : Prop :=
  ∃ run, plane.runs.get? runId = some run ∧ run.status.terminal ∧ run.completedAt.isSome

/-- No step of the run is left running. -/
def Idle : Prop :=
  ∀ stepId step, (stepRows plane).get? stepId = some step → step.runId = runId →
    step.status ≠ .running

/-- The run is closed and its steps are. -/
def Closed : Prop := RunClosed runId plane ∧ Idle runId plane

/-- No step of the run is recorded yet. -/
def Unstarted : Prop :=
  ∀ stepId step, (stepRows plane).get? stepId = some step → step.runId ≠ runId

theorem Unstarted.idle {runId : Text} {plane : Plane} (unstarted : Unstarted runId plane) :
    Idle runId plane :=
  fun stepId step stored owner => absurd owner (unstarted stepId step stored)

end Planes

theorem StepsKeyed.exec {plane : Plane} (keyed : StepsKeyed plane) (op : Op) :
    StepsKeyed (exec op plane).2 := by
  by_cases untouched : op.touchesSteps = false
  · intro stepId step stored
    rw [stepRows, exec_steps plane untouched] at stored
    exact keyed stepId step stored
  · intro stepId step stored
    cases op <;> first
      | exact absurd rfl untouched
      | skip
    case insertRuntimeStep record =>
      simp only [SkillCentric.exec, InMemoryRuntimeStore.insertRuntimeStep] at stored
      split at stored
      · exact keyed stepId step stored
      · simp only [stepRows, Plane.withStore, Dict.get?_set] at stored
        split at stored
        · cases stored
          exact Eq.symm ‹_›
        · exact keyed stepId step stored
    case updateRuntimeStep target status completedAt stopReason tokensUsed =>
      simp only [SkillCentric.exec, InMemoryRuntimeStore.updateRuntimeStep] at stored
      split at stored
      · exact keyed stepId step stored
      · simp only [stepRows, Plane.withStore, Dict.get?_modify] at stored
        split at stored
        · cases found : plane.store.runtimeSteps.get? stepId with
          | none => simp [found] at stored
          | some before =>
              simp only [found, Option.map_some, Option.some.injEq] at stored
              rw [← stored]
              exact keyed stepId before found
        · exact keyed stepId step stored

theorem stepsKeyed_of_reachable {plane : Plane} (reached : plane.Reachable) : StepsKeyed plane := by
  induction reached with
  | empty clock artifacts =>
      intro stepId step stored
      cases stored
  | exec op reached ih => exact ih.exec op
  | tick clock reached ih => exact ih

/-- Items, runs and steps are the same. -/
structure Same (plane after : Plane) : Prop where
  items : after.items = plane.items
  runs : after.runs = plane.runs
  steps : stepRows after = stepRows plane

theorem Same.refl (plane : Plane) : Same plane plane := ⟨rfl, rfl, rfl⟩

theorem Same.trans {plane middle after : Plane} (first : Same plane middle)
    (second : Same middle after) : Same plane after :=
  ⟨second.items.trans first.items, second.runs.trans first.runs, second.steps.trans first.steps⟩

theorem same_exec {op : Op} (quiet : op.quiet = true) (untouched : op.touchesSteps = false)
    (plane : Plane) : Same plane (exec op plane).2 := by
  simp only [Op.quiet, Bool.not_eq_true', Bool.or_eq_false_iff] at quiet
  obtain ⟨⟨⟨⟨⟨items, runs⟩, -⟩, -⟩, -⟩, -⟩ := quiet
  exact ⟨exec_items plane items, exec_runs plane runs, exec_steps plane untouched⟩

section Programs

variable {α β : Type} {runId : Text} {redact : Json → Json}

theorem same_of_traces {program : Py α} (traces : program.Traces runId) (plane : Plane) :
    Same plane (program.run exec plane).2 :=
  traces.run_invariant (Same plane)
    (fun _ middle traced same => same.trans (same_exec traced.1.quiet traced.2 middle))
    (Same.refl plane)

/-- The program returns, and leaves items, runs and steps alone. -/
def Passes (program : Py α) : Prop :=
  ∀ plane, ∃ value after, program.run exec plane = (.ok value, after) ∧ Same plane after

theorem passes_pure (value : α) : Passes (pure value : Py α) :=
  fun plane => ⟨value, plane, rfl, Same.refl plane⟩

theorem passes_bind {program : Py α} {next : α → Py β} (first : Passes program)
    (second : ∀ value, Passes (next value)) : Passes (program >>= next) := by
  intro plane
  obtain ⟨value, middle, ran, same⟩ := first plane
  obtain ⟨result, after, finished, same_after⟩ := second value middle
  refine ⟨result, after, ?_, same.trans same_after⟩
  rw [run_bind, ran]
  exact finished

theorem passes_call {op : Op} (quiet : op.quiet = true) (untouched : op.touchesSteps = false) :
    Passes (Py.call op) :=
  fun plane => ⟨_, _, rfl, same_exec quiet untouched plane⟩

theorem passes_lift {outcome : Except PyError α} {value : α} (ok : outcome = .ok value) :
    Passes (Py.lift outcome) := by
  subst ok
  exact passes_pure value

theorem passes_timestamp : Passes Py.timestamp :=
  passes_bind (passes_call rfl rfl) fun _ => passes_pure _

/-- A stop reason of the contract. -/
def Listed (stopReason : Text) : Prop := stopReasons.contains stopReason = true

instance (stopReason : Text) : Decidable (Listed stopReason) :=
  inferInstanceAs (Decidable (_ = true))

theorem requireChoice_of_listed {stopReason : Text} (listed : Listed stopReason) :
    requireChoice stopReason stopReasons "stop_reason" = .ok () := if_pos listed

theorem requireChoice_of_unlisted {stopReason : Text} (unlisted : ¬Listed stopReason) :
    ∃ error, requireChoice stopReason stopReasons "stop_reason" = .error error :=
  ⟨_, if_neg unlisted⟩

theorem requireStopReason_of_listed {stopReason : Option Text}
    (listed : ∀ reason, stopReason = some reason → Listed reason) :
    requireStopReason stopReason = .ok () := by
  cases stopReason with
  | none => rfl
  | some reason => exact requireChoice_of_listed (listed reason rfl)

theorem writeEventPayload_passes (parts : List Text) (payload : Option Json) :
    Passes (writeEventPayload redact parts payload) := by
  cases payload with
  | none => exact passes_pure none
  | some payload => exact passes_bind (passes_call rfl rfl) fun _ => passes_pure _

theorem recordEvent_passes {event : EventRequest}
    (listed : ∀ reason, event.stopReason = some reason → Listed reason) :
    Passes (recordEvent redact event) := by
  refine passes_bind (passes_lift (requireStopReason_of_listed listed)) fun _ => ?_
  refine passes_bind (passes_call rfl rfl) fun index => ?_
  refine passes_bind (writeEventPayload_passes _ _) fun _ => ?_
  refine passes_bind (writeEventPayload_passes _ _) fun _ => ?_
  refine passes_bind (writeEventPayload_passes _ _) fun _ => ?_
  exact passes_bind passes_timestamp fun _ => passes_call rfl rfl

theorem checkpoint_passes (request : CheckpointRequest) :
    Passes (checkpoint redact request) := by
  refine passes_bind (passes_call rfl rfl) fun index => ?_
  refine passes_bind (passes_call rfl rfl) fun _ => ?_
  refine passes_bind passes_timestamp fun _ => ?_
  refine passes_bind (passes_call rfl rfl) fun stored => ?_
  exact passes_bind (recordEvent_passes fun _ absent => nomatch absent) fun _ => passes_pure _

theorem stepEvent_passes {stepId : Text} {eventType : RuntimeEventType}
    {actorRole : RuntimeActorRole} {plannedAction execution result : Option Json}
    {stopReason : Option Text} (listed : ∀ reason, stopReason = some reason → Listed reason) :
    Passes (stepEvent redact runId stepId eventType actorRole plannedAction execution result
      stopReason) :=
  passes_bind (recordEvent_passes listed) fun _ => passes_pure _

theorem recordOutcomes_passes (loop : MinimalRuntimeLoop) {stepId : Text}
    (outcomes : List ValidationOutcome) :
    Passes (recordOutcomes loop redact runId stepId outcomes) := by
  induction outcomes with
  | nil => exact passes_pure _
  | cons outcome rest ih =>
      refine passes_bind (passes_call rfl rfl) fun findingsUri => ?_
      refine passes_bind passes_timestamp fun createdAt => ?_
      refine passes_bind (passes_call rfl rfl) fun _ => ?_
      refine passes_bind (stepEvent_passes fun reason stopped => ?_) fun _ => ih
      split at stopped
      · cases stopped
      · cases stopped
        decide

end Programs

def indexOf : RuntimeStepKind → Nat
  | .context => 0
  | .planner => 1
  | .executor => 2
  | .validator => 3

def stepKey (runId : Text) (kind : RuntimeStepKind) : Text :=
  runId ++ (":step:" : Text) ++ decimal (indexOf kind) ++ ':' :: kind.text

theorem stepKey_injective (runId : Text) {kind other : RuntimeStepKind}
    (same : stepKey runId kind = stepKey runId other) : kind = other := by
  simp only [stepKey, List.append_assoc, List.append_cancel_left_eq] at same
  revert same
  cases kind <;> cases other <;> decide

/-- No step from this one on was recorded. -/
def UnrecordedFrom (runId : Text) (index : Nat) (plane : Plane) : Prop :=
  ∀ kind, index ≤ indexOf kind → ∀ stepId step, (stepRows plane).get? stepId = some step →
    step.runId = runId → step.idempotencyKey ≠ stepKey runId kind

/-- Between two steps: as the run found it, but for the records of its steps, none of them
running. -/
structure Ready (runId : Text) (initial : Plane) (index : Nat) (plane : Plane) : Prop where
  items : plane.items = initial.items
  runs : plane.runs = initial.runs
  keyed : StepsKeyed plane
  idle : Idle runId plane
  unrecorded : Unstarted runId initial → UnrecordedFrom runId index plane

/-- Inside a step: it may be running, and it is if the run began with this loop. -/
structure Open (runId : Text) (initial : Plane) (index : Nat) (stepId : Text) (plane : Plane) :
    Prop where
  items : plane.items = initial.items
  runs : plane.runs = initial.runs
  keyed : StepsKeyed plane
  stored : ∃ step, (stepRows plane).get? stepId = some step
  others : ∀ otherId step, otherId ≠ stepId → (stepRows plane).get? otherId = some step →
    step.runId = runId → step.status ≠ .running
  running : Unstarted runId initial → ¬Idle runId plane
  unrecorded : Unstarted runId initial → UnrecordedFrom runId (index + 1) plane

/-- After a break: the runs are as before, and a step is open or not. -/
structure Broken (runId : Text) (initial : Plane) (leftOpen : Bool) (plane : Plane) : Prop where
  runs : plane.runs = initial.runs
  idle : leftOpen = false → Idle runId plane
  running : leftOpen = true → Unstarted runId initial → ¬Idle runId plane

section Steps

variable {runId stepId : Text} {initial plane after : Plane} {index : Nat}

theorem Ready.init (keyed : StepsKeyed plane) (idle : Idle runId plane) :
    Ready runId plane 0 plane :=
  ⟨rfl, rfl, keyed, idle, fun unstarted _ _ stepId step stored owner =>
    absurd owner (unstarted stepId step stored)⟩

theorem Open.same (opened : Open runId initial index stepId plane) (same : Same plane after) :
    Open runId initial index stepId after where
  items := same.items.trans opened.items
  runs := same.runs.trans opened.runs
  keyed := by
    simp only [StepsKeyed, same.steps]
    exact opened.keyed
  stored := by
    rw [same.steps]
    exact opened.stored
  others := by
    rw [same.steps]
    exact opened.others
  running := by
    simp only [Idle, same.steps]
    exact opened.running
  unrecorded := by
    simp only [UnrecordedFrom, same.steps]
    exact opened.unrecorded

theorem Ready.broken (ready : Ready runId initial index plane) :
    Broken runId initial false plane :=
  ⟨ready.runs, fun _ => ready.idle, nofun⟩

theorem Open.broken (opened : Open runId initial index stepId plane) :
    Broken runId initial true plane :=
  ⟨opened.runs, nofun, fun _ => opened.running⟩

theorem run_startStep {kind : RuntimeStepKind} (ready : Ready runId initial (indexOf kind) plane) :
    ∃ step after, (startStep runId (indexOf kind) kind).run exec plane =
        (.ok step, after) ∧ Open runId initial (indexOf kind) step.id after := by
  let record : RuntimeStep :=
    { id := slugId (runId ++ '-' :: kind.text ++ '-' :: decimal (indexOf kind)) "step"
      runId
      stepIndex := indexOf kind
      kind
      status := .running
      startedAt := isoTimestamp plane.clock
      completedAt := none
      stopReason := none
      tokensUsed := 0
      idempotencyKey := stepKey runId kind }
  have ran : (startStep runId (indexOf kind) kind).run exec plane =
      (.ok (exec (.insertRuntimeStep record) plane).1,
        (exec (.insertRuntimeStep record) plane).2) :=
    rfl
  refine ⟨_, _, ran, ?_⟩
  have narrow : UnrecordedFrom runId (indexOf kind) plane →
      UnrecordedFrom runId (indexOf kind + 1) plane :=
    fun unrecorded other later => unrecorded other (by omega)
  cases found : (stepRows plane).values.find? fun step =>
      step.runId = record.runId ∧ step.idempotencyKey = record.idempotencyKey with
  | some existing =>
      have reply : exec (.insertRuntimeStep record) plane = (existing, plane) := by
        simp only [exec, InMemoryRuntimeStore.insertRuntimeStep, found]
        rfl
      rw [reply]
      obtain ⟨stepId, stored⟩ := (Dict.mem_values_iff _ _).mp (List.mem_of_find?_eq_some found)
      have named : existing.id = stepId := ready.keyed stepId existing stored
      have matched := List.find?_some found
      simp only [decide_eq_true_eq] at matched
      refine ⟨ready.items, ready.runs, ready.keyed, ⟨existing, named ▸ stored⟩,
        fun otherId step _ => ready.idle otherId step, ?_, fun unstarted =>
          narrow (ready.unrecorded unstarted)⟩
      exact fun unstarted => absurd matched.2
        (ready.unrecorded unstarted kind le_rfl stepId existing stored matched.1)
  | none =>
      have reply : exec (.insertRuntimeStep record) plane = (record, plane.withStore
          { plane.store with runtimeSteps := (stepRows plane).set record.id record }) := by
        simp only [exec, InMemoryRuntimeStore.insertRuntimeStep, found]
        rfl
      rw [reply]
      refine ⟨ready.items, ready.runs, ?_, ⟨record, Dict.get?_set_self _ _ _⟩, ?_, ?_, ?_⟩
      · have keyed := ready.keyed.exec (.insertRuntimeStep record)
        rwa [reply] at keyed
      · intro otherId step differ stored
        exact ready.idle otherId step ((Dict.get?_set_ne _ _ differ).symm.trans stored)
      · intro _ idle
        exact idle record.id record (Dict.get?_set_self _ _ _) rfl rfl
      · intro unstarted other later stepId step stored owner
        by_cases same : stepId = record.id
        · rw [same] at stored
          have recorded : step = record :=
            (Option.some.inj ((Dict.get?_set_self _ _ _).symm.trans stored)).symm
          intro keys
          rw [recorded] at keys
          have kinds := stepKey_injective runId keys
          subst kinds
          omega
        · exact narrow (ready.unrecorded unstarted) other later stepId step
            ((Dict.get?_set_ne _ _ same).symm.trans stored) owner

theorem run_completeStep (opened : Open runId initial index stepId plane) (status : RuntimeStatus)
    (ended : status ≠ .running) (stopReason : Text) (listed : Listed stopReason) :
    ∃ after, (completeStep stepId status (some stopReason)).run exec plane =
        (.ok (), after) ∧ Ready runId initial (index + 1) after := by
  obtain ⟨row, stored⟩ := opened.stored
  let fields : RuntimeStep → RuntimeStep := fun step =>
    { step with
      status
      completedAt := some (isoTimestamp plane.clock)
      stopReason := some stopReason
      tokensUsed := 0 }
  let rows := (stepRows plane).modify stepId fields
  have reply : exec (.updateRuntimeStep stepId status (isoTimestamp plane.clock)
      (some stopReason) 0) plane =
      (.ok (), plane.withStore { plane.store with runtimeSteps := rows }) := by
    simp only [exec, InMemoryRuntimeStore.updateRuntimeStep, stored]
    rfl
  have ran : (completeStep stepId status (some stopReason)).run exec plane =
      (.ok (), plane.withStore { plane.store with runtimeSteps := rows }) := by
    have accepted : requireStopReason (some stopReason) = .ok () := requireChoice_of_listed listed
    simp only [completeStep, accepted, Py.lift, Py.call, run_bind, run_ofExcept,
      run_timestamp, run_op, reply]
  have rows_of : ∀ otherId step, rows.get? otherId = some step →
      ∃ before, (stepRows plane).get? otherId = some before ∧
        step = if otherId = stepId then fields before else before := by
    intro otherId step found
    rw [Dict.get?_modify] at found
    split_ifs at found with same
    · obtain ⟨before, before_eq, rfl⟩ := Option.map_eq_some_iff.mp found
      exact ⟨before, before_eq, (if_pos same).symm⟩
    · exact ⟨step, found, (if_neg same).symm⟩
  refine ⟨_, ran, opened.items, opened.runs, ?_, ?_, ?_⟩
  · have keyed := opened.keyed.exec (.updateRuntimeStep stepId status
      (isoTimestamp plane.clock) (some stopReason) 0)
    rwa [reply] at keyed
  · intro otherId step found owner
    obtain ⟨before, before_eq, rfl⟩ := rows_of otherId step found
    split_ifs at owner ⊢ with same
    · exact ended
    · exact opened.others otherId before same before_eq owner
  · intro unstarted kind later otherId step found owner
    obtain ⟨before, before_eq, rfl⟩ := rows_of otherId step found
    have unrecorded := opened.unrecorded unstarted kind later otherId before before_eq
    split_ifs at owner ⊢ with same
    · exact unrecorded owner
    · exact unrecorded owner

end Steps

/-- The break of a run: its error, and whether a step is open. -/
structure Break where
  error : PyError
  leftOpen : Bool

def between {α : Type} (outcome : Except PyError α) : Except Break α :=
  outcome.mapError (⟨·, false⟩)

def inside {α : Type} (outcome : Except PyError α) : Except Break α :=
  outcome.mapError (⟨·, true⟩)

section Walk

variable (loop : MinimalRuntimeLoop) (start : RuntimeStartResult) (plane : Plane)

/-- The run or its queue item is cancelled. -/
def cancelled : Bool :=
  decide ((plane.runs.get? start.runId).map (·.status) = some .cancelled) ||
    loop.queueId.any fun queueId => (plane.items.get? queueId).any (·.status = .cancelled)

def beforeTools : Py (ToolGateway × RuntimePlan) := do
  let redact := loop.components.redactFor start.profile
  let context ← contextStep loop redact start.runId start.profile
  let plan ← plannerStep loop redact start.runId start.profile context
  let step ← beginStep loop start.runId 2 .executor
  stepEvent redact start.runId step.id .stepStarted .executor (some plan.toJson) none none none
  return (⟨loop.components, redact, start.runId, step.id⟩, plan)

def toolCalls : Except PyError (List Json) :=
  match (beforeTools loop start).run exec plane with
  | (.error error, _) => .error error
  | (.ok (gateway, plan), opened) =>
      ((runActions loop gateway start.runId 0 plan.actions).run exec opened).1

/-- The end of the executor step: an error of a tool completes it, when its reason is listed. -/
def executed (plan : RuntimePlan) : Except PyError (List Json) → Except Break Json
  | .ok results => .ok (.obj [("strategy", plan.strategy), ("tool_results", .arr results)])
  | .error error =>
      if isToolError error then
        match requireChoice (stopReasonText error) stopReasons "stop_reason" with
        | .ok _ => .error ⟨error, false⟩
        | .error unlisted => .error ⟨unlisted, true⟩
      else .error ⟨error, true⟩

def validated (outcomes : List ValidationOutcome) : Except Break Unit :=
  if (failedValidators outcomes).isEmpty then .ok ()
  else .error ⟨validationError (failedValidators outcomes), false⟩

def uncancelled (isCancelled : Bool) : Except Break Unit :=
  if isCancelled then .error ⟨cancellationError, false⟩ else .ok ()

def walk (isCancelled : Bool) (tools : Except PyError (List Json)) :
    Except Break StepsResult := do
  between (loop.components.validateProfile start.profile)
  uncancelled isCancelled
  between (loop.components.checkDuration .context)
  let context ← inside (loop.components.loadContext start.profile)
  between (loop.components.checkDuration .planner)
  let plan ← inside (loop.components.buildPlan start.profile)
  between (loop.components.checkDuration .executor)
  let execution ← executed plan tools
  between (loop.components.checkDuration .validator)
  let response ← inside (loop.components.runtimeResponse start.profile context plan execution)
  let outcomes ← inside (loop.components.validate start.profile execution (.obj response))
  validated outcomes
  return ⟨plan, execution, response⟩

end Walk

section Foretold

variable {α β : Type} {loop : MinimalRuntimeLoop} {start : RuntimeStartResult} {runId stepId : Text}
  {initial plane : Plane} {index : Nat} {redact : Json → Json}

/-- The program ends as foretold, and leaves the run ready or broken. -/
def Foretold (runId : Text) (initial : Plane) (index : Nat) (program : Py α)
    (ending : Except Break α) (plane : Plane) : Prop :=
  match ending with
  | .ok value =>
    ∃ after, program.run exec plane = (.ok value, after) ∧ Ready runId initial index after
  | .error stop => ∃ after, program.run exec plane = (.error stop.error, after) ∧
      Broken runId initial stop.leftOpen after

variable {next : α → Py β}

theorem foretold_bind {program : Py α} {ending : Except Break α}
    {endings : α → Except Break β} {later : Nat}
    (first : Foretold runId initial index program ending plane)
    (second : ∀ value after, ending = .ok value → program.run exec plane = (.ok value, after) →
      Ready runId initial index after →
      Foretold runId initial later (next value) (endings value) after) :
    Foretold runId initial later (program >>= next) (ending >>= endings) plane := by
  cases ending with
  | ok value =>
      obtain ⟨after, ran, ready⟩ := first
      have rest := second value after rfl ran ready
      have joined : (program >>= next).run exec plane = (next value).run exec after := by
        rw [run_bind, ran]
      simp only [Foretold, joined]
      exact rest
  | error stop =>
      obtain ⟨after, ran, broken⟩ := first
      refine ⟨after, ?_, broken⟩
      rw [run_bind, ran]

theorem foretold_between (ready : Ready runId initial index plane) (outcome : Except PyError α) :
    Foretold runId initial index (Py.lift outcome) (between outcome) plane := by
  cases outcome with
  | ok value => exact ⟨plane, rfl, ready⟩
  | error error => exact ⟨plane, rfl, ready.broken⟩

theorem cancelled_of_ready (ready : Ready start.runId initial index plane) :
    cancelled loop start plane = cancelled loop start initial := by
  unfold cancelled
  rw [ready.items, ready.runs]

theorem run_raiseIfCancelled :
    (raiseIfCancelled loop start.runId).run exec plane =
      (if cancelled loop start plane then .error cancellationError else .ok (), plane) := by
  unfold raiseIfCancelled
  refine (run_bind exec _ _ _).trans ?_
  rw [run_runStatus]
  dsimp only
  by_cases ended : (plane.runs.get? start.runId).map (·.status) = some .cancelled
  · simp [cancelled, ended, Py.raiseIf, run_bind]
  · have checked : (checkCancellation loop.queueId).run exec plane = (.ok (loop.queueId.any
        fun queueId => (plane.items.get? queueId).any (·.status = .cancelled)), plane) := by
      cases loop.queueId with
      | none => rfl
      | some queueId =>
          have reply : exec (.getRuntimeQueueItem queueId) plane =
            (plane.items.get? queueId, plane) := rfl
          simp only [checkCancellation, queueItemIsCancelled, Py.call, run_bind, run_op, reply]
          cases found : plane.items.get? queueId with
          | none => simp [found]
          | some item => simp [run_bind, reply, found]
    have by_item : cancelled loop start plane = loop.queueId.any
        fun queueId => (plane.items.get? queueId).any (·.status = .cancelled) := by
      simp [cancelled, ended]
    simp only [Py.raiseIf, if_neg ended, run_bind, run_pure, checked, ← by_item]
    split <;> rfl

theorem run_raiseIfCancelled_of_not (quiet : cancelled loop start plane = false) :
    (raiseIfCancelled loop start.runId).run exec plane = (.ok (), plane) := by
  rw [run_raiseIfCancelled, quiet]
  rfl

theorem foretold_uncancelled (ready : Ready start.runId initial index plane) :
    Foretold start.runId initial index (raiseIfCancelled loop start.runId)
      (uncancelled (cancelled loop start initial)) plane := by
  rw [← cancelled_of_ready ready, uncancelled]
  split
  · exact ⟨plane, by simp [run_raiseIfCancelled, *], ready.broken⟩
  · exact ⟨plane, by simp [run_raiseIfCancelled, *], ready⟩

theorem foretold_after {program : Py α} {ending : Except Break β} {value : α}
    {after : Plane} (ran : program.run exec plane = (.ok value, after))
    (rest : Foretold runId initial index (next value) ending after) :
    Foretold runId initial index (program >>= next) ending plane := by
  have joined : (program >>= next).run exec plane = (next value).run exec after := by
    rw [run_bind, ran]
  simp only [Foretold, joined]
  exact rest

theorem run_endStep (redact : Json → Json) (opened : Open runId initial index stepId plane)
    (phase : RuntimePhase)
    (actorRole : RuntimeActorRole) (state : Json) :
    ∃ after, (endStep redact runId stepId phase actorRole state).run exec plane =
      (.ok (), after) ∧ Ready runId initial (index + 1) after := by
  have checkpoints : Passes (checkpoint redact
      { runId, phase, state, stepId := some stepId }) := checkpoint_passes _
  have notes : Passes (stepEvent redact runId stepId .stepCompleted actorRole none none (some state)
      (some "completed")) :=
    stepEvent_passes fun reason stopped => by cases stopped; decide
  obtain ⟨_, checkpointed, wrote, same⟩ := checkpoints plane
  obtain ⟨_, noted, recorded, same_noted⟩ := notes checkpointed
  obtain ⟨after, completed, ready⟩ :=
    run_completeStep ((opened.same same).same same_noted) .succeeded nofun "completed" (by decide)
  refine ⟨after, ?_, ready⟩
  simp only [endStep, run_bind, wrote, recorded, completed]

theorem run_failStep (redact : Json → Json) (opened : Open runId initial index stepId plane)
    (actorRole : RuntimeActorRole)
    (result : Json) {stopReason : Text} (listed : Listed stopReason) :
    ∃ after, (failStep redact runId stepId actorRole result stopReason).run exec plane =
      (.ok (), after) ∧ Ready runId initial (index + 1) after := by
  have notes : Passes (stepEvent redact runId stepId .stepCompleted actorRole none none
      (some result) (some stopReason)) :=
    stepEvent_passes fun reason stopped => Option.some.inj stopped ▸ listed
  obtain ⟨_, noted, recorded, same⟩ := notes plane
  obtain ⟨after, completed, ready⟩ :=
    run_completeStep (opened.same same) .failed nofun stopReason listed
  refine ⟨after, ?_, ready⟩
  simp only [failStep, run_bind, recorded, completed]

theorem foretold_end (opened : Open runId initial index stepId plane) (phase : RuntimePhase)
    (actorRole : RuntimeActorRole) (state : Json) (value : α) :
    Foretold runId initial (index + 1)
      (do endStep redact runId stepId phase actorRole state; return value : Py α) (.ok value)
      plane := by
  obtain ⟨after, ran, ready⟩ := run_endStep redact opened phase actorRole state
  exact ⟨after, by simp only [run_bind, ran, run_pure], ready⟩

theorem foretold_fail (opened : Open runId initial index stepId plane)
    (actorRole : RuntimeActorRole) (result : Json) {stopReason : Text} (listed : Listed stopReason)
    (error : PyError) :
    Foretold runId initial (index + 1)
      (do failStep redact runId stepId actorRole result stopReason; throw error : Py α)
      (.error ⟨error, false⟩) plane := by
  obtain ⟨after, ran, ready⟩ := run_failStep redact opened actorRole result listed
  exact ⟨after, by simp only [run_bind, ran, run_throw], ready.broken⟩

theorem foretold_inside (opened : Open runId initial index stepId plane)
    (outcome : Except PyError α) {endings : α → Except Break β} {later : Nat}
    (rest : ∀ value, outcome = .ok value →
      Foretold runId initial later (next value) (endings value) plane) :
    Foretold runId initial later (Py.lift outcome >>= next) (inside outcome >>= endings) plane := by
  cases outcome with
  | ok value => exact foretold_after rfl (rest value rfl)
  | error error => exact ⟨plane, rfl, opened.broken⟩

theorem foretold_step (kind : RuntimeStepKind) (quiet : cancelled loop start initial = false)
    (ready : Ready start.runId initial (indexOf kind) plane) {started : RuntimeStep → Py Unit}
    (passes : ∀ step, Passes (started step)) {body : RuntimeStep → Py α}
    {ending : Except Break α} {later : Nat}
    (inner : ∀ step middle opened,
      (beginStep loop start.runId (indexOf kind) kind).run exec plane = (.ok step, middle) →
      (started step).run exec middle = (.ok (), opened) →
      Open start.runId initial (indexOf kind) step.id opened →
      Foretold start.runId initial later (body step) ending opened) :
    Foretold start.runId initial later
      (do
        let step ← beginStep loop start.runId (indexOf kind) kind
        started step
        body step)
      (do
        between (loop.components.checkDuration kind)
        ending) plane := by
  have unchecked := run_raiseIfCancelled_of_not ((cancelled_of_ready ready).trans quiet)
  cases checked : loop.components.checkDuration kind with
  | error error =>
      refine ⟨plane, ?_, ready.broken⟩
      simp only [beginStep, run_bind, unchecked, checked, Py.lift, run_ofExcept]
  | ok _ =>
      obtain ⟨step, middle, opened_by, opened⟩ := run_startStep ready
      have began : (beginStep loop start.runId (indexOf kind) kind).run exec plane =
          (.ok step, middle) := by
        simp only [beginStep, run_bind, unchecked, checked, Py.lift, run_ofExcept, opened_by]
      obtain ⟨_, inner_plane, ran, same⟩ := passes step middle
      refine foretold_after began (foretold_after ran ?_)
      exact inner step middle inner_plane began ran (opened.same same)

theorem unstopped_passes {eventType : RuntimeEventType} {actorRole : RuntimeActorRole}
    {plannedAction : Option Json} (step : RuntimeStep) :
    Passes (stepEvent redact runId step.id eventType actorRole plannedAction none none none) :=
  stepEvent_passes nofun

theorem contextStep_foretold (quiet : cancelled loop start initial = false)
    (ready : Ready start.runId initial 0 plane) :
    Foretold start.runId initial 1 (contextStep loop redact start.runId start.profile)
      (do
        between (loop.components.checkDuration .context)
        inside (loop.components.loadContext start.profile)) plane := by
  refine foretold_step .context quiet ready unstopped_passes fun step _ _ _ _ opened => ?_
  rw [← bind_pure (inside _)]
  exact foretold_inside opened _ fun context _ => foretold_end opened _ _ _ _

theorem plannerStep_foretold (quiet : cancelled loop start initial = false)
    (ready : Ready start.runId initial 1 plane) (context : JsonObject) :
    Foretold start.runId initial 2 (plannerStep loop redact start.runId start.profile context)
      (do
        between (loop.components.checkDuration .planner)
        inside (loop.components.buildPlan start.profile)) plane := by
  refine foretold_step .planner quiet ready unstopped_passes fun step _ _ _ _ opened => ?_
  rw [← bind_pure (inside _)]
  exact foretold_inside opened _ fun plan _ => foretold_end opened _ _ _ _

theorem executorStep_foretold (quiet : cancelled loop start initial = false)
    (ready : Ready start.runId initial 2 plane) (plan : RuntimePlan)
    {tools : Except PyError (List Json)}
    (called : ∀ step middle opened, (beginStep loop start.runId 2 .executor).run exec plane =
        (.ok step, middle) →
      (stepEvent redact start.runId step.id .stepStarted .executor (some plan.toJson) none none
        none).run exec middle = (.ok (), opened) →
      ((runActions loop ⟨loop.components, redact, start.runId, step.id⟩ start.runId 0
        plan.actions).run exec opened).1 = tools) :
    Foretold start.runId initial 3 (executorStep loop redact start.runId plan)
      (do
        between (loop.components.checkDuration .executor)
        executed plan tools) plane := by
  refine foretold_step .executor quiet ready unstopped_passes
    fun step middle inner began noted opened => ?_
  have traces : (runActions loop ⟨loop.components, redact, start.runId, step.id⟩ start.runId 0
      plan.actions).Traces start.runId :=
    runActions_traces ⟨loop.components, redact, start.runId, step.id⟩ rfl 0 plan.actions
  have still := opened.same (same_of_traces traces inner)
  refine foretold_after (run_attempt exec _ _) ?_
  rw [called step middle inner began noted]
  cases tools with
  | ok results => exact foretold_end still _ _ _ _
  | error error =>
      simp only [executed]
      split_ifs with by_tool
      · by_cases listed : Listed (stopReasonText error)
        · rw [requireChoice_of_listed listed]
          exact foretold_fail still _ _ listed error
        · have refused : requireStopReason (some (stopReasonText error)) =
              requireChoice (stopReasonText error) stopReasons "stop_reason" := rfl
          obtain ⟨unlisted, raised⟩ := requireChoice_of_unlisted listed
          rw [raised]
          refine ⟨_, ?_, still.broken⟩
          simp only [failStep, stepEvent, recordEvent, run_bind, Py.lift,
            run_ofExcept, refused, raised]
      · exact ⟨_, rfl, still.broken⟩

theorem validatorStep_foretold (redact : Json → Json) (quiet : cancelled loop start initial = false)
    (ready : Ready start.runId initial 3 plane) (context : JsonObject) (plan : RuntimePlan)
    (execution : Json) :
    Foretold start.runId initial 4
      (validatorStep loop redact start.runId start.profile context plan execution)
      (do
        between (loop.components.checkDuration .validator)
        let response ← inside
          (loop.components.runtimeResponse start.profile context plan execution)
        let outcomes ← inside (loop.components.validate start.profile execution (.obj response))
        validated outcomes
        return response) plane := by
  refine foretold_step .validator quiet ready unstopped_passes
    fun step _ inner _ _ opened => ?_
  refine foretold_inside opened _ fun response _ => ?_
  refine foretold_inside opened _ fun outcomes _ => ?_
  have records : Passes (recordOutcomes loop redact start.runId step.id outcomes) :=
    recordOutcomes_passes loop outcomes
  obtain ⟨_, recorded, ran, same⟩ := records inner
  refine foretold_after ran ?_
  have still := opened.same same
  simp only [validated]
  split_ifs with passed
  · exact foretold_end still _ _ _ _
  · exact foretold_fail still _ _ (by decide) _

theorem steps_foretold (loop : MinimalRuntimeLoop) (keyed : StepsKeyed plane)
    (idle : Idle start.runId plane) :
    Foretold start.runId plane 4
      (steps loop (loop.components.redactFor start.profile) start.runId start.profile)
      (walk loop start (cancelled loop start plane) (toolCalls loop start plane)) plane := by
  have ready := Ready.init keyed idle
  unfold steps walk
  refine foretold_bind (foretold_between ready _) fun _ after _ lifted _ => ?_
  obtain rfl : plane = after := congrArg Prod.snd lifted
  refine foretold_bind (foretold_uncancelled ready) fun _ after checked passed _ => ?_
  have quiet : cancelled loop start plane = false := by
    cases isCancelled : cancelled loop start plane with
    | false => rfl
    | true => simp [uncancelled, isCancelled] at checked
  have uncancelled_at : ∀ {index later}, Ready start.runId plane index later →
      (raiseIfCancelled loop start.runId).run exec later = (.ok (), later) :=
    fun ready => run_raiseIfCancelled_of_not ((cancelled_of_ready ready).trans quiet)
  obtain rfl : plane = after := by
    rw [uncancelled_at ready] at passed
    exact congrArg Prod.snd passed
  rw [← bind_assoc]
  refine foretold_bind (contextStep_foretold quiet ready)
    fun context loaded _ ran_context ready_context => ?_
  refine foretold_after (uncancelled_at ready_context) ?_
  rw [← bind_assoc]
  refine foretold_bind (plannerStep_foretold quiet ready_context context)
    fun plan planned _ ran_plan ready_plan => ?_
  refine foretold_after (uncancelled_at ready_plan) ?_
  rw [← bind_assoc]
  have called : ∀ step middle opened, (beginStep loop start.runId 2 .executor).run exec planned =
        (.ok step, middle) →
      (stepEvent (loop.components.redactFor start.profile) start.runId step.id .stepStarted
        .executor (some plan.toJson) none none none).run exec middle = (.ok (), opened) →
      ((runActions loop ⟨loop.components, loop.components.redactFor start.profile, start.runId,
        step.id⟩ start.runId 0 plan.actions).run exec opened).1 = toolCalls loop start plane := by
    intro step middle opened began noted
    simp only [toolCalls, beforeTools, run_bind, ran_context, ran_plan, began, noted, run_pure]
  refine foretold_bind (executorStep_foretold quiet ready_plan plan called)
    fun execution executed _ _ ready_executed => ?_
  refine foretold_after (uncancelled_at ready_executed) ?_
  let result : JsonObject → StepsResult := fun response => ⟨plan, execution, response⟩
  have returned : ∀ response after, Ready start.runId plane 4 after →
      Foretold start.runId plane 4 (pure (result response) : Py StepsResult)
        (.ok (result response)) after :=
    fun response after ready => ⟨after, rfl, ready⟩
  have joined := foretold_bind
    (validatorStep_foretold (loop.components.redactFor start.profile) quiet ready_executed context
      plan execution)
    fun response after _ _ ready => returned response after ready
  simp only [bind_assoc] at joined
  exact joined

end Foretold

section Ends

variable (loop : MinimalRuntimeLoop) (judge : PyError → Text → Except PyError Unit)
  (start : RuntimeStartResult)

/-- `_fail_run` completes the run: the judge raises nothing and the stop reason is listed. -/
def FailsClosed (error : PyError) : Prop :=
  (judge error (stopReasonText error)).isOk ∧ Listed (stopReasonText error)

/-- The handlers of `run` complete the run. -/
def Settles (error : PyError) : Prop :=
  if error.cls = .runtimeCancellationError then True
  else if isRuntimeError error then
    match allowedRecomposition start.profile error, loop.components.recordRecompositionRequest with
    | none, _ => FailsClosed judge error
    | some _, .ok _ => True
    | some _, .error budget => budget.cls = .profileEnforcementError ∧ FailsClosed judge budget
  else False

def sealHolds (plane : Plane) : Bool :=
  match plane.artifacts.readJson start.profileArtifactUri with
  | .ok profile =>
      profile.isMapping && decide (loop.components.profileSha256 profile = start.profileSha256)
  | .error _ => false

/-- When `run` leaves a run closed: it breaks off between two steps or inside one that completes
itself, with an error the handlers complete the run for, unless the run was complete before. -/
def Closes (plane : Plane) : Prop :=
  if sealHolds loop start plane then
    match walk loop start (cancelled loop start plane) (toolCalls loop start plane) with
    | .ok _ => True
    | .error stop => stop.leftOpen = false ∧
        (RunClosed start.runId plane ∨ Settles loop judge start stop.error)
  else RunClosed start.runId plane

/-- The end of a run touches no step; it completes the run when it settles. -/
structure Ends (runId : Text) (settles : Prop) (plane after : Plane) : Prop where
  steps : stepRows after = stepRows plane
  closed : RunClosed runId after ↔ RunClosed runId plane ∨ settles

end Ends

section Endings

variable {α : Type} {loop : MinimalRuntimeLoop} {judge : PyError → Text → Except PyError Unit}
  {start : RuntimeStartResult} {runId : Text} {plane after : Plane} {redact : Json → Json}

variable {settles : Prop}

theorem ends_of_same (same : Same plane after) (unsettled : ¬settles) :
    Ends runId settles plane after := by
  refine ⟨same.steps, ?_⟩
  simp only [RunClosed, same.runs, unsettled, or_false]

theorem endRun_ends {program : Py α} {event : EventRequest} {status : RuntimeStatus}
    {stopReason : Text} {tokens : Int} {value : α} (shape : program = do
      let _ ← recordEvent redact event
      completeRun runId status stopReason tokens
      return value) (terminal : status.terminal) (listed : Listed stopReason)
    (event_stop : event.stopReason = some stopReason)
    (recorded : (plane.runs.get? runId).isSome) (holds : settles) :
    Ends runId settles plane (program.run exec plane).2 := by
  have notes : Passes (recordEvent redact event) :=
    recordEvent_passes fun reason stopped =>
      Option.some.inj (event_stop.symm.trans stopped) ▸ listed
  obtain ⟨_, noted, ran, same⟩ := notes plane
  obtain ⟨run, found⟩ := Option.isSome_iff_exists.mp recorded
  have found_noted : noted.runs.get? runId = some run := by rw [same.runs, found]
  let fields : RunFields :=
    { status
      completedAt := isoTimestamp noted.clock
      stopReason := some stopReason
      tokensUsedTotal := some tokens }
  have finished : program.run exec plane =
      (.ok value, noted.setRuns (noted.runs.modify runId fields.apply)) := by
    simp only [shape, completeRun, run_bind, ran, Py.lift, Py.call, run_ofExcept,
      run_op, run_pure, run_timestamp, requireChoice_of_listed listed,
      run_updateRun noted found_noted]
    rfl
  have closed : RunClosed runId (noted.setRuns (noted.runs.modify runId fields.apply)) :=
    ⟨fields.apply run, (Dict.get?_modify_self _ _ _).trans (congrArg _ found_noted), terminal, rfl⟩
  rw [finished]
  exact ⟨same.steps, iff_of_true closed (.inr holds)⟩

theorem cancelRun_ends (recorded : (plane.runs.get? runId).isSome) (holds : settles) :
    Ends runId settles plane ((cancelRun loop redact runId).run exec plane).2 :=
  endRun_ends rfl rfl (by decide) rfl recorded holds

theorem finishRun_ends (result : StepsResult) (recorded : (plane.runs.get? runId).isSome)
    (holds : settles) :
    Ends runId settles plane ((finishRun loop redact runId result).run exec plane).2 :=
  endRun_ends rfl rfl (by decide) rfl recorded holds

theorem requestRecomposition_ends (reason : Text)
    (recorded : (plane.runs.get? start.runId).isSome) (holds : settles) :
    Ends start.runId settles plane
      ((requestRecomposition loop redact start reason).run exec plane).2 :=
  endRun_ends rfl rfl (by decide) rfl recorded holds

theorem failRunJudged_ends (error : PyError) (recorded : (plane.runs.get? runId).isSome) :
    Ends runId (FailsClosed judge error) plane
      ((failRunJudged loop judge redact runId error).run exec plane).2 := by
  cases judged : judge error (stopReasonText error) with
  | error raised =>
      have ran : (failRunJudged loop judge redact runId error).run exec plane =
          (.error raised, plane) := by
        simp only [failRunJudged, run_bind, Py.lift, run_ofExcept, judged]
      rw [ran]
      refine ends_of_same (Same.refl plane) fun closes => ?_
      rw [FailsClosed, judged] at closes
      exact Bool.false_ne_true closes.1
  | ok _ =>
      have ran : (failRunJudged loop judge redact runId error).run exec plane =
          (failRun loop redact runId error).run exec plane := by
        simp only [failRunJudged, run_bind, Py.lift, run_ofExcept, judged]
      rw [ran]
      by_cases listed : Listed (stopReasonText error)
      · have holds : FailsClosed judge error := ⟨by rw [judged]; rfl, listed⟩
        exact endRun_ends rfl rfl listed rfl recorded holds
      · obtain ⟨unlisted, refused⟩ := requireChoice_of_unlisted listed
        have raised : requireStopReason (some (stopReasonText error)) = .error unlisted := refused
        have stopped : (failRun loop redact runId error).run exec plane =
            (.error unlisted, plane) := by
          simp only [failRun, recordEvent, run_bind, Py.lift, run_ofExcept, raised]
        rw [stopped]
        exact ends_of_same (Same.refl plane) fun closes => listed closes.2

theorem handleRuntimeErrorJudged_ends (error : PyError)
    (recorded : (plane.runs.get? start.runId).isSome)
    (uncancelled : error.cls ≠ .runtimeCancellationError) (caught : isRuntimeError error) :
    Ends start.runId (Settles loop judge start error) plane
      ((handleRuntimeErrorJudged loop judge redact start error).run exec plane).2 := by
  unfold handleRuntimeErrorJudged
  rw [Settles, if_neg uncancelled, if_pos caught]
  cases allowedRecomposition start.profile error with
  | none => exact failRunJudged_ends error recorded
  | some reason =>
      cases loop.components.recordRecompositionRequest with
      | ok _ => exact requestRecomposition_ends reason recorded trivial
      | error budget =>
          dsimp only
          split_ifs with enforced
          · simp only [enforced, true_and]
            exact failRunJudged_ends budget recorded
          · exact ends_of_same (Same.refl plane) fun settles => enforced settles.1

theorem handlers_end (error : PyError) (recorded : (plane.runs.get? start.runId).isSome) :
    Ends start.runId (Settles loop judge start error) plane
      ((if error.cls = .runtimeCancellationError then cancelRun loop redact start.runId
        else if isRuntimeError error then do
          let stopReason ← handleRuntimeErrorJudged loop judge redact start error
          throw (loopError error.message (some stopReason))
        else throw error : Py RuntimeLoopResult).run exec plane).2 := by
  split_ifs with cancelled caught
  · exact cancelRun_ends recorded (by rw [Settles, if_pos cancelled]; trivial)
  · have handled : Ends start.runId (Settles loop judge start error) plane
        ((handleRuntimeErrorJudged loop judge redact start error).run exec plane).2 :=
      handleRuntimeErrorJudged_ends error recorded cancelled caught
    rw [run_bind]
    split
    · rename_i reason after ran
      rw [ran] at handled
      exact handled
    · rename_i raised after ran
      rw [ran] at handled
      exact handled
  · refine ends_of_same (Same.refl plane) fun settles => ?_
    rwa [Settles, if_neg cancelled, if_neg caught] at settles

theorem run_assertProfileSeal (loop : MinimalRuntimeLoop) (start : RuntimeStartResult)
    (plane : Plane) :
    ∃ outcome, (assertProfileSeal loop start).run exec plane = (outcome, plane) ∧
      outcome.isOk = sealHolds loop start plane := by
  have reply : exec (.readJson start.profileArtifactUri) plane =
    (plane.artifacts.readJson start.profileArtifactUri, plane) := rfl
  simp only [assertProfileSeal, sealHolds, Py.call, Py.lift, run_bind, run_op, reply, run_ofExcept]
  cases plane.artifacts.readJson start.profileArtifactUri with
  | error error => exact ⟨_, rfl, rfl⟩
  | ok profile =>
      simp only [Py.raiseIf]
      cases profile.isMapping with
      | false => exact ⟨_, rfl, rfl⟩
      | true =>
          by_cases same : loop.components.profileSha256 profile = start.profileSha256
          · simp [same, Except.isOk, Except.toBool]
          · simp [same, Except.isOk, Except.toBool]

theorem run_leaves (loop : MinimalRuntimeLoop)
    (judge : PyError → Text → Except PyError Unit) (keyed : StepsKeyed plane)
    (idle : Idle start.runId plane)
    (recorded : (plane.runs.get? start.runId).isSome)
    (ran : ((runJudged loop judge start).run exec plane).2 = after) :
    if sealHolds loop start plane then
      match walk loop start (cancelled loop start plane) (toolCalls loop start plane) with
      | .ok _ => Closed start.runId after
      | .error stop => ∃ broken, Broken start.runId plane stop.leftOpen broken ∧
          Ends start.runId (Settles loop judge start stop.error) broken after
    else after = plane := by
  obtain ⟨outcome, checked, holds⟩ := run_assertProfileSeal loop start plane
  rw [runJudged, run_bind, checked] at ran
  cases outcome with
  | error error =>
      rw [← holds]
      exact ran.symm
  | ok _ =>
      have foretold := steps_foretold loop keyed idle
      have attempted := run_attempt exec
        (steps loop (loop.components.redactFor start.profile) start.runId start.profile) plane
      simp only [run_bind, attempted] at ran
      have sealed : sealHolds loop start plane = true := holds.symm
      rw [if_pos sealed]
      cases walked : walk loop start (cancelled loop start plane) (toolCalls loop start plane) with
      | ok result =>
          rw [walked] at foretold
          obtain ⟨middle, stepped, ready⟩ := foretold
          rw [stepped] at ran
          have recorded_middle : (middle.runs.get? start.runId).isSome := by rwa [ready.runs]
          have ends : Ends start.runId True middle after :=
            ran ▸ finishRun_ends result recorded_middle trivial
          refine ⟨ends.closed.mpr (.inr trivial), ?_⟩
          simp only [Idle, ends.steps]
          exact ready.idle
      | error stop =>
          rw [walked] at foretold
          obtain ⟨broken, stepped, breaks⟩ := foretold
          rw [stepped] at ran
          have recorded_broken : (broken.runs.get? start.runId).isSome := by rwa [breaks.runs]
          exact ⟨broken, breaks, ran ▸ handlers_end stop.error recorded_broken⟩

theorem closed_of_closes (keyed : StepsKeyed plane) (idle : Idle start.runId plane)
    (recorded : (plane.runs.get? start.runId).isSome) (closes : Closes loop judge start plane) :
    Closed start.runId ((runJudged loop judge start).run exec plane).2 := by
  have leaves := run_leaves loop judge keyed idle recorded rfl
  rw [Closes] at closes
  split_ifs at closes leaves with sealed
  · cases walked : walk loop start (cancelled loop start plane) (toolCalls loop start plane) with
    | ok result =>
        rw [walked] at leaves
        exact leaves
    | error stop =>
        rw [walked] at leaves closes
        obtain ⟨broken, breaks, ends⟩ := leaves
        have idle_broken := breaks.idle closes.1
        refine ⟨ends.closed.mpr ?_, ?_⟩
        · simpa only [RunClosed, breaks.runs] using closes.2
        · simp only [Idle, ends.steps]
          exact idle_broken
  · rw [leaves]
    exact ⟨closes, idle⟩

theorem closes_of_closed (keyed : StepsKeyed plane) (unstarted : Unstarted start.runId plane)
    (recorded : (plane.runs.get? start.runId).isSome)
    (closed : Closed start.runId ((runJudged loop judge start).run exec plane).2) :
    Closes loop judge start plane := by
  have leaves := run_leaves loop judge keyed unstarted.idle recorded rfl
  rw [Closes]
  split_ifs at leaves ⊢ with sealed
  · cases walked : walk loop start (cancelled loop start plane) (toolCalls loop start plane) with
    | ok result => trivial
    | error stop =>
        rw [walked] at leaves
        obtain ⟨broken, breaks, ends⟩ := leaves
        have idle_broken : Idle start.runId broken := by
          have idle_after := closed.2
          simp only [Idle, ends.steps] at idle_after
          exact idle_after
        constructor
        · cases left_open : stop.leftOpen with
          | false => rfl
          | true => exact absurd idle_broken (breaks.running left_open unstarted)
        · simpa only [RunClosed, breaks.runs] using ends.closed.mp closed.1
  · rw [leaves] at closed
    exact closed.1

end Endings

/-- A profile that selects nothing. -/
def profile : RuntimeProfile := ⟨"profile-a", "0.6.0", 1, none, none, [], [], ⟨false, [], []⟩⟩

def sealedPlane : ArtifactPath × Plane :=
  exec (.writeJson ["profiles", "profile-a", "0"] profile.toJson) ⟨Sample.clock, .empty, .empty⟩

/-- The start of a run. -/
def startResult : RuntimeStartResult := ⟨"run-a", "task-a", profile, sealedPlane.1, "0"⟩

/-- The plane of the started run. -/
def startedPlane : Plane :=
  ((startRun
    { taskId := "task-a"
      profileId := profile.id
      profileVersion := profile.profileVersion
      tokenBudgetTotal := some profile.maxTokens
      runId := some "run-a"
      profileArtifactUri := sealedPlane.1
      profileSha256 := "0"
      profileGeneration := 1
      parentProfileId := none }).run exec sealedPlane.2).2

theorem startedPlane_reachable : startedPlane.Reachable :=
  Plane.Reachable.run (.exec _ (.empty Sample.clock .empty)) _

theorem startedPlane_recorded : (startedPlane.runs.get? startResult.runId).isSome := by
  decide

theorem startedPlane_unstarted : Unstarted startResult.runId startedPlane := by
  intro stepId step stored
  have no_steps : stepRows startedPlane = .empty := rfl
  rw [no_steps] at stored
  cases stored

theorem startedPlane_uncancelled (components : Components) :
    cancelled ⟨components, none⟩ startResult startedPlane = false := by
  change cancelled ⟨Sample.components, none⟩ startResult startedPlane = false
  decide

theorem startedPlane_sealed :
    sealHolds ⟨Sample.components, none⟩ startResult startedPlane = true := by
  decide

def refusing : Components :=
  { Sample.components with
    validateProfile := fun _ => .error
      ⟨.profileEnforcementError, "Profile generation exceeds the recomposition budget.",
        some (some "max_recompositions")⟩ }

def unbounded : Components :=
  { Sample.components with
    loadContext := fun _ => .error
      ⟨.profileEnforcementError,
        "Retrieval response included scopes outside the active runtime profile.",
        some (some "policy_denied")⟩ }

end RunClosure

end SkillCentric
