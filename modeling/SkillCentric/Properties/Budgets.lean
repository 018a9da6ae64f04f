import SkillCentric.Runtime.EnforcedRuns
import SkillCentric.Runtime.System

/-!
# Budgets

Every operation of an enforcer moves its counters up and keeps them within their limits, whether it
returns or raises.  Every adapter a gateway invokes was charged as a tool call first.
-/

namespace SkillCentric

open RuntimeProfileEnforcer Stateful Check

namespace Budgets

/-- Every counter is within its limit. -/
def Within (enforcer : RuntimeProfileEnforcer) : Prop :=
  ∀ counter bound, limit enforcer.profile counter.limitName = .ok bound →
    enforcer.count counter ≤ bound

/-- What an operation may do to an enforcer. -/
structure Advance (before after : RuntimeProfileEnforcer) : Prop where
  profile : after.profile = before.profile
  grows : ∀ counter, before.count counter ≤ after.count counter
  within : Within before → Within after

namespace Advance

theorem refl (enforcer : RuntimeProfileEnforcer) : Advance enforcer enforcer :=
  ⟨rfl, fun _ => le_rfl, id⟩

theorem trans ⦃first second third : RuntimeProfileEnforcer⦄ (head : Advance first second)
    (tail : Advance second third) : Advance first third where
  profile := tail.profile.trans head.profile
  grows counter := (head.grows counter).trans (tail.grows counter)
  within start := tail.within (head.within start)

end Advance

/-- The operation only moves the counters forward. -/
abbrev Advances {α : Type} (op : Enforce α) : Prop := Moves Advance op

section Operations

variable {α : Type}

@[simp]
theorem perform_check (checked : JsonObject → Check α) (enforcer : RuntimeProfileEnforcer) :
    perform (check checked) enforcer = (checked enforcer.profile, enforcer) := rfl

theorem check_advances (checked : JsonObject → Check α) : Advances (check checked) :=
  fun enforcer => Advance.refl enforcer

variable {enforcer after : RuntimeProfileEnforcer} {counter : Counter}

theorem incrementLimit_ok {amount : Int}
    (ran : perform (incrementLimit counter amount) enforcer = (.ok (), after)) :
    0 ≤ amount ∧
      (∃ bound, limit enforcer.profile counter.limitName = .ok bound ∧
        enforcer.count counter + amount ≤ bound) ∧
      after = { enforcer with
        count := Function.update enforcer.count counter (enforcer.count counter + amount) } := by
  unfold incrementLimit at ran
  by_cases negative : amount < 0
  · rw [if_pos negative] at ran
    cases ran
  rw [if_neg negative] at ran
  obtain ⟨_, middle, found, ran⟩ := perform_bind_ok ran
  cases found
  obtain ⟨_, middle, checked, ran⟩ := perform_bind_ok ran
  rw [perform_check] at checked
  obtain ⟨returned, same⟩ := Prod.mk.inj checked
  subst same
  obtain ⟨bound, bounded, below⟩ := bind_eq_ok.mp returned
  rw [denyFor_eq_ok, decide_eq_false_iff_not, not_lt] at below
  rw [perform_modify] at ran
  exact ⟨by omega, ⟨bound, lift_eq_ok.mp bounded, below⟩, (Prod.mk.inj ran).2.symm⟩

theorem incrementLimit_of_le {amount bound : Int}
    {enforcer : RuntimeProfileEnforcer} (nonneg : 0 ≤ amount)
    (bounded : limit enforcer.profile counter.limitName = .ok bound)
    (below : enforcer.count counter + amount ≤ bound) :
    perform (incrementLimit counter amount) enforcer = (.ok (), { enforcer with
      count := Function.update enforcer.count counter (enforcer.count counter + amount) }) := by
  unfold incrementLimit
  rw [if_neg (not_lt.mpr nonneg), perform_bind, perform_get]
  refine (perform_bind _ _ _).trans ?_
  have checked : perform (check fun profile => do
      let limit ← Check.lift (limit profile counter.limitName)
      Check.denyFor (limit < enforcer.count counter + amount)
        (("Runtime profile limit exceeded: " : Text) ++ counter.limitName ++ ("." : Text))
        counter.limitName (counter.limitName ++ ("_exceeded" : Text))) enforcer =
      (.ok (), enforcer) := by
    rw [perform_check, Prod.mk.injEq, bind_eq_ok]
    exact ⟨⟨bound, lift_eq_ok.mpr bounded, denyFor_eq_ok.mpr (by simpa using below)⟩, rfl⟩
  rw [checked]
  rfl

theorem incrementLimit_error {amount : Int} {error : EnforcerError}
    (ran : perform (incrementLimit counter amount) enforcer = (.error error, after)) :
    after = enforcer := by
  unfold incrementLimit at ran
  by_cases negative : amount < 0
  · rw [if_pos negative] at ran
    exact (Prod.mk.inj ran).2.symm
  rw [if_neg negative] at ran
  simp only [perform_bind, perform_get, perform_check] at ran
  split at ran
  · rw [perform_modify] at ran
    cases ran
  · rename_i checked
    exact ((Prod.mk.inj checked).2.trans (Prod.mk.inj ran).2).symm

theorem incrementLimit_advances (counter : Counter) (amount : Int) :
    Advances (incrementLimit counter amount) := by
  intro enforcer
  cases ran : perform (incrementLimit counter amount) enforcer with
  | mk outcome after =>
      cases outcome with
      | error error =>
          rw [incrementLimit_error ran]
          exact Advance.refl enforcer
      | ok value =>
          obtain ⟨amount_nonneg, ⟨bound, bounded, below⟩, rfl⟩ := incrementLimit_ok ran
          refine ⟨rfl, fun other => ?_, fun within other limit found => ?_⟩
          · by_cases same : other = counter
            · subst same
              simp only [Function.update_self]
              omega
            · simp [Function.update_of_ne same]
          · by_cases same : other = counter
            · subst same
              have bound_eq := Except.ok.inj (bounded.symm.trans found)
              simp only [Function.update_self]
              omega
            · simpa [Function.update_of_ne same] using within other limit found

/-- The elapsed time is within the budget of the profile. -/
def InTime (profile : JsonObject) (elapsed : Nat) : Prop :=
  ∃ seconds, limit profile "max_duration_seconds" = .ok seconds ∧
    (elapsed : Int) ≤ seconds * 1000000000

theorem checkDuration_ok {elapsed : Nat} :
    perform (checkDuration elapsed) enforcer = (.ok (), after) ↔
      InTime enforcer.profile elapsed ∧ enforcer = after := by
  rw [checkDuration, perform_check, Prod.mk.injEq, bind_eq_ok, InTime]
  simp only [lift_eq_ok, denyFor_eq_ok, decide_eq_false_iff_not, not_lt]

theorem checkDuration_advances (elapsed : Nat) : Advances (checkDuration elapsed) :=
  check_advances _

theorem consumeTokens_advances (elapsed : Nat) (tokens : Int) :
    Advances (consumeTokens elapsed tokens) := by
  unfold consumeTokens
  split_ifs
  · exact moves_throw Advance.refl _
  · exact moves_bind Advance.trans (checkDuration_advances elapsed) fun _ =>
      incrementLimit_advances _ _

theorem recordToolInvocation_advances (elapsed : Nat) (toolName : Text)
    (scopes policies : List Text) (risk : Text) :
    Advances (recordToolInvocation elapsed toolName scopes policies risk) := by
  unfold recordToolInvocation
  refine moves_bind Advance.trans (checkDuration_advances elapsed) fun _ => ?_
  refine moves_bind Advance.trans (check_advances _) fun _ => ?_
  refine moves_bind Advance.trans (check_advances _) fun _ => ?_
  refine moves_bind Advance.trans
    (moves_forM Advance.refl Advance.trans policies fun _ => check_advances _) fun _ => ?_
  refine moves_bind Advance.trans (incrementLimit_advances _ _) fun _ => ?_
  split_ifs
  · exact moves_bind Advance.trans (check_advances _) fun _ => incrementLimit_advances _ _
  · exact moves_pure Advance.refl _

theorem call_advances (call : EnforcerCall) : Advances call.operation := by
  cases call with
  | recordToolInvocation elapsed toolName scopes policies risk =>
      exact recordToolInvocation_advances elapsed toolName scopes policies risk
  | consumeTokens elapsed tokens => exact consumeTokens_advances elapsed tokens
  | recordDataRead count => exact incrementLimit_advances _ _
  | recordMemoryOp count => exact incrementLimit_advances _ _
  | recordRecompositionRequest => exact incrementLimit_advances _ _

/-- A field of the profile contains the name. -/
def Lists (profile : JsonObject) (field name : Text) : Prop :=
  ((Json.obj profile).item field (.arr [])).contains name = .ok true

/-- A field of the profile lists the scope. -/
def Scoped (profile : JsonObject) (field scope : Text) : Prop :=
  ∃ allowed, ((Json.obj profile).item field (.arr [])).iterate = .ok allowed ∧
    scope ∈ allowed.map Json.pyStr

theorem requireIn_ok {field kind code name : Text} :
    perform (requireIn field kind code name) enforcer = (.ok (), after) ↔
      Lists enforcer.profile field name ∧ enforcer = after := by
  rw [requireIn, perform_check, Prod.mk.injEq, bind_eq_ok]
  simp only [lift_eq_ok, denyIf_eq_ok, Bool.not_eq_false']
  constructor
  · rintro ⟨⟨present, found, rfl⟩, rfl⟩
    exact ⟨found, rfl⟩
  · rintro ⟨found, rfl⟩
    exact ⟨⟨true, found, rfl⟩, rfl⟩

theorem requireToolRisk_ok {toolName risk : Text} :
    perform (requireToolRisk toolName risk) enforcer = (.ok (), after) ↔
      riskRank risk ≤ riskRank (profileRiskLevel enforcer.profile) ∧ enforcer = after := by
  rw [requireToolRisk, perform_check, Prod.mk.injEq, denyIf_eq_ok, decide_eq_false_iff_not, not_lt]

theorem requireScopes_ok {field kind : Text} {requested : List Text}
    :
    perform (requireScopes field kind requested) enforcer = (.ok (), after) ↔
      (∃ allowed, ((Json.obj enforcer.profile).item field (.arr [])).iterate = .ok allowed ∧
        ∀ scope ∈ requested, scope ∈ allowed.map Json.pyStr) ∧ enforcer = after := by
  rw [requireScopes, perform_check, Prod.mk.injEq, bind_eq_ok]
  simp only [lift_eq_ok, denyIf_eq_ok, Bool.not_eq_false', List.isEmpty_iff, Json.missing_eq_nil]

theorem forM_requirePolicy_ok {policies : List Text}
    (ran : perform (policies.forM requirePolicy) enforcer = (.ok (), after)) :
    (∀ policy ∈ policies, Lists enforcer.profile "policies" policy) ∧ enforcer = after := by
  induction policies with
  | nil =>
      cases ran
      simp
  | cons policy rest ih =>
      obtain ⟨_, middle, first, later⟩ := perform_bind_ok ran
      obtain ⟨listed, rfl⟩ := requireIn_ok.mp first
      obtain ⟨others, rfl⟩ := ih later
      exact ⟨by simpa using ⟨listed, others⟩, rfl⟩

/-- What a recorded tool invocation has passed. -/
structure Permitted (profile : JsonObject) (toolName : Text) (scopes policies : List Text)
    (risk : Text) : Prop where
  tool : Lists profile "tools" toolName
  policies : ∀ policy ∈ policies, Lists profile "policies" policy
  scopes : ∀ scope ∈ scopes, Scoped profile "data_scopes" scope
  risk : riskRank risk ≤ riskRank (profileRiskLevel profile)

theorem recordToolInvocation_ok {elapsed : Nat} {toolName : Text} {scopes policies : List Text}
    {risk : Text}
    (ran : perform (recordToolInvocation elapsed toolName scopes policies risk) enforcer =
      (.ok (), after)) :
    Permitted enforcer.profile toolName scopes policies risk ∧
      enforcer.count .toolCalls + 1 ≤ after.count .toolCalls ∧
      (∃ bound, limit enforcer.profile Counter.toolCalls.limitName = .ok bound ∧
        enforcer.count .toolCalls + 1 ≤ bound) ∧
      InTime enforcer.profile elapsed := by
  unfold recordToolInvocation at ran
  obtain ⟨_, middle, timely, onTime⟩ := perform_bind_ok ran
  obtain ⟨inTime, rfl⟩ := checkDuration_ok.mp timely
  obtain ⟨_, middle, allowed, tooled⟩ := perform_bind_ok onTime
  obtain ⟨tool, rfl⟩ := requireIn_ok.mp allowed
  obtain ⟨_, middle, compared, ranked⟩ := perform_bind_ok tooled
  obtain ⟨risk_le, rfl⟩ := requireToolRisk_ok.mp compared
  obtain ⟨_, middle, listed, authorized⟩ := perform_bind_ok ranked
  obtain ⟨every, rfl⟩ := forM_requirePolicy_ok listed
  obtain ⟨_, middle, counted, rest⟩ := perform_bind_ok authorized
  obtain ⟨-, bounded, middle_eq⟩ := incrementLimit_ok counted
  have same_profile : middle.profile = enforcer.profile := by rw [middle_eq]
  have added : middle.count .toolCalls = enforcer.count .toolCalls + 1 := by
    simp [middle_eq]
  have later : (∀ scope ∈ scopes, Scoped middle.profile "data_scopes" scope) ∧
      middle.count .toolCalls ≤ after.count .toolCalls := by
    by_cases none : scopes = []
    · rw [if_neg (not_not.mpr none)] at rest
      cases rest
      exact ⟨by simp [none], le_rfl⟩
    · rw [if_pos none] at rest
      obtain ⟨_, read, granted, counted⟩ := perform_bind_ok rest
      obtain ⟨⟨found, iterated, each⟩, rfl⟩ := requireScopes_ok.mp granted
      refine ⟨fun scope member => ⟨found, iterated, each scope member⟩, ?_⟩
      have grown := (incrementLimit_advances .dataReads 1 middle).grows .toolCalls
      unfold recordDataRead at counted
      rwa [counted] at grown
  rw [same_profile] at later
  exact ⟨⟨tool, every, later.1, risk_le⟩, by omega, bounded, inTime⟩

end Operations

section Runs

variable {profile : JsonObject} {enforcer : RuntimeProfileEnforcer}

/-- The tool passed the checks of its invocation. -/
abbrev Invocable (profile : JsonObject) (toolName : Text) : Prop :=
  Permitted profile toolName (toolRequiredDataScopes toolName) (toolRequiredPolicies toolName)
    (toolRiskLevel toolName)

/-- Every adapter invocation was charged and permitted. -/
structure Charged (run : EnforcedRun) : Prop where
  counted : (run.invoked.length : Int) ≤ run.enforcer.count .toolCalls
  permitted : ∀ toolName ∈ run.invoked, Invocable run.enforcer.profile toolName

theorem step_advances (run : EnforcedRun) (step : EnforcedStep) :
    Advance run.enforcer (run.step step).enforcer := by
  cases step with
  | charge call => exact call_advances call run.enforcer
  | invoke gateway elapsed toolName payload =>
      exact call_advances (ToolGateway.invocation elapsed toolName) run.enforcer

theorem step_charged {run : EnforcedRun} (charged : Charged run) (step : EnforcedStep) :
    Charged (run.step step) := by
  have advance := step_advances run step
  have grown := advance.grows .toolCalls
  have kept : ∀ toolName ∈ run.invoked, Invocable (run.step step).enforcer.profile toolName := by
    rw [advance.profile]
    exact charged.permitted
  have counted := charged.counted
  cases step with
  | charge call => exact ⟨counted.trans grown, kept⟩
  | invoke gateway elapsed toolName payload =>
      let call := (ToolGateway.invocation elapsed toolName).operation
      let answer := (perform call run.enforcer).1
      have invoked_eq : (run.step (.invoke gateway elapsed toolName payload)).invoked =
          run.invoked ++ if gateway.reachesAdapter answer toolName then [toolName] else [] := rfl
      by_cases reaches : gateway.reachesAdapter answer toolName = true
      · rw [if_pos reaches] at invoked_eq
        have returned : perform call run.enforcer = (.ok (), (perform call run.enforcer).2) := by
          cases outcome : answer with
          | error error =>
              rw [outcome] at reaches
              simp [ToolGateway.reachesAdapter, Except.toBool] at reaches
          | ok value => exact Prod.ext outcome rfl
        obtain ⟨permitted, added, -, -⟩ := recordToolInvocation_ok returned
        have counts : run.enforcer.count .toolCalls + 1 ≤
            (run.step (.invoke gateway elapsed toolName payload)).enforcer.count .toolCalls := added
        constructor
        · rw [invoked_eq, List.length_append, List.length_singleton]
          omega
        · intro other member
          rw [invoked_eq, List.mem_append, List.mem_singleton] at member
          rcases member with earlier | rfl
          · exact kept other earlier
          · rw [advance.profile]
            exact permitted
      · rw [if_neg reaches, List.append_nil] at invoked_eq
        rw [← invoked_eq] at counted kept
        exact ⟨counted.trans grown, kept⟩

theorem run_advances (steps : List EnforcedStep) (run : EnforcedRun) :
    Advance run.enforcer (steps.foldl EnforcedRun.step run).enforcer := by
  induction steps generalizing run with
  | nil => exact Advance.refl run.enforcer
  | cons step rest ih => exact (step_advances run step).trans (ih (run.step step))

theorem run_charged (steps : List EnforcedStep) {run : EnforcedRun} (charged : Charged run) :
    Charged (steps.foldl EnforcedRun.step run) := by
  induction steps generalizing run with
  | nil => exact charged
  | cons step rest ih => exact ih (step_charged charged step)

theorem create_within (accepted : validateProfileForRuntime profile = .ok ())
    (nonneg : ∀ counter : Counter, ∀ bound, limit profile counter.limitName = .ok bound → 0 ≤ bound)
    (created : create profile = .ok enforcer) :
    enforcer.profile = profile ∧ enforcer.count .toolCalls = 0 ∧ Within enforcer := by
  obtain ⟨-, ⟨generation, bound, generated, bounded, below⟩, -⟩ :=
    validateProfileForRuntime_ok.mp accepted
  rw [create, generated] at created
  cases created
  refine ⟨rfl, rfl, fun counter limit found => ?_⟩
  by_cases recomposition : counter = .recompositionRequests
  · subst recomposition
    have bound_eq := Except.ok.inj (bounded.symm.trans found)
    simpa [← bound_eq] using below
  · simpa [recomposition] using nonneg counter limit found

/-- Counters never decrease and never exceed their limits, and every adapter invocation is one of
the at most `max_tool_calls` tool calls the profile permits. -/
theorem budgets_hold (accepted : validateProfileForRuntime profile = .ok ())
    (nonneg : ∀ counter : Counter, ∀ bound, limit profile counter.limitName = .ok bound → 0 ≤ bound)
    (created : create profile = .ok enforcer) (plane : Plane) (first later : List EnforcedStep) :
    let before := first.foldl EnforcedRun.step (.initial enforcer plane)
    let after := later.foldl EnforcedRun.step before
    (∀ counter, before.enforcer.count counter ≤ after.enforcer.count counter) ∧
      (∀ counter : Counter, ∀ bound, limit profile counter.limitName = .ok bound →
        after.enforcer.count counter ≤ bound) ∧
      (∀ bound, limit profile "max_tool_calls" = .ok bound → after.invoked.length ≤ bound) ∧
      ∀ toolName ∈ after.invoked, Invocable profile toolName := by
  obtain ⟨rfl, zero, within⟩ := create_within accepted nonneg created
  intro before after
  have start : Charged (.initial enforcer plane) := ⟨by simp [EnforcedRun.initial, zero], by
    simp [EnforcedRun.initial]⟩
  have head : Advance enforcer before.enforcer := run_advances first (.initial enforcer plane)
  have tail := run_advances later before
  have whole := head.trans tail
  have charged : Charged after := run_charged later (run_charged first start)
  have bounded := whole.within within
  rw [Within, whole.profile] at bounded
  refine ⟨tail.grows, bounded, fun bound found => ?_, ?_⟩
  · exact charged.counted.trans (bounded .toolCalls bound found)
  · have permitted := charged.permitted
    rwa [whole.profile] at permitted

end Runs

/-- A profile of the global tenant with one tool and two tool calls. -/
def sampleProfile : JsonObject :=
  [("tenant_context", .obj [("tenant_id", .str "global")]), ("risk_level", .str "medium"),
    ("tools", .arr [.str "git-read"]), ("data_scopes", .arr [.str "repository-readonly"]),
    ("module_versions", .obj [("git-read", .str "0.1.0"), ("repository-readonly", .str "0.1.0")]),
    ("limits", .obj [("max_tool_calls", .int 2), ("max_data_reads", .int 5),
      ("max_duration_seconds", .int 900)])]

def sampleEnforcer : RuntimeProfileEnforcer :=
  ⟨sampleProfile, fun counter => if counter = .recompositionRequests then max 0 (1 - 1) else 0⟩

def sampleGateway : ToolGateway where
  components :=
    { Sample.components with adapter := fun _ => some fun _ _ => .ok [("status", .str "clean")] }
  redact := id
  runId := "run-task-a"
  stepId := "run-task-a-executor"

def sampleSteps : List EnforcedStep :=
  [.invoke sampleGateway 1 "git-read" [], .invoke sampleGateway 2 "filesystem-write" [],
    .invoke sampleGateway 3 "git-read" [], .invoke sampleGateway 4 "git-read" []]

/-- The steps from the start of a run. -/
def sampleRun : EnforcedRun :=
  sampleSteps.foldl EnforcedRun.step (.initial sampleEnforcer ⟨Sample.clock, .empty, .empty⟩)

theorem budgets_hold_two_calls :
    (sampleRun.invoked.length : Int) ≤ 2 ∧
      ∀ toolName ∈ sampleRun.invoked, Invocable sampleProfile toolName := by
  have nonneg : ∀ counter : Counter, ∀ bound,
      limit sampleProfile counter.limitName = .ok bound → 0 ≤ bound := by
    intro counter bound found
    cases counter with
    | toolCalls => exact Except.ok.inj found ▸ (by decide : (0 : Int) ≤ 2)
    | tokensUsed => exact Except.ok.inj found ▸ le_rfl
    | dataReads => exact Except.ok.inj found ▸ (by decide : (0 : Int) ≤ 5)
    | memoryOps => exact Except.ok.inj found ▸ le_rfl
    | recompositionRequests => exact Except.ok.inj found ▸ le_rfl
  have held := @budgets_hold sampleProfile sampleEnforcer
    (by decide) nonneg (by rfl) ⟨Sample.clock, .empty, .empty⟩ [] sampleSteps
  exact ⟨held.2.2.1 2 (by decide), held.2.2.2⟩

end Budgets

end SkillCentric
