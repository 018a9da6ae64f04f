import SkillCentric.Properties.Budgets

/-!
# Denied tool calls

A tool invocation is counted before its data scopes are checked and its data read is counted.  A
denial at one of these keeps the tool call that was counted.
-/

namespace SkillCentric.DeniedCalls

open SkillCentric RuntimeProfileEnforcer Stateful Budgets

/-- The arguments of `record_tool_invocation`. -/
structure Invocation where
  elapsed : Nat
  toolName : Text
  requiredDataScopes : List Text
  requiredPolicies : List Text
  toolRiskLevel : Text

namespace Invocation

variable (invocation : Invocation)

def permit : Enforce Unit := do
  checkDuration invocation.elapsed
  requireTool invocation.toolName
  requireToolRisk invocation.toolName invocation.toolRiskLevel
  invocation.requiredPolicies.forM requirePolicy

/-- `record_tool_invocation`. -/
def record : Enforce Unit :=
  recordToolInvocation invocation.elapsed invocation.toolName invocation.requiredDataScopes
    invocation.requiredPolicies invocation.toolRiskLevel

end Invocation

/-- One more call is within the limit of the counter. -/
def HasRoom (enforcer : RuntimeProfileEnforcer) (counter : Counter) : Prop :=
  ∃ bound, limit enforcer.profile counter.limitName = .ok bound ∧ enforcer.count counter + 1 ≤ bound

/-- The checks before the tool call is counted pass. -/
structure Cleared (profile : JsonObject) (invocation : Invocation) : Prop where
  inTime : InTime profile invocation.elapsed
  tool : Lists profile "tools" invocation.toolName
  risk : riskRank invocation.toolRiskLevel ≤ riskRank (profileRiskLevel profile)
  policies : ∀ policy ∈ invocation.requiredPolicies, Lists profile "policies" policy

/-- The data scopes can be read and contain the required ones. -/
def Covered (profile : JsonObject) (invocation : Invocation) : Prop :=
  ∃ allowed, ((Json.obj profile).item "data_scopes" (.arr [])).iterate = .ok allowed ∧
    ∀ scope ∈ invocation.requiredDataScopes, scope ∈ allowed.map Json.pyStr

/-- A call that raises leaves every counter as it was. -/
def Free (enforcer : RuntimeProfileEnforcer) (invocation : Invocation) : Prop :=
  ∀ error after, perform invocation.record enforcer = (.error error, after) →
    ∀ counter, after.count counter = enforcer.count counter

/-- A call that is counted as a tool call and needs data scopes has them, and room for a read. -/
def Careful (enforcer : RuntimeProfileEnforcer) (invocation : Invocation) : Prop :=
  Cleared enforcer.profile invocation → HasRoom enforcer .toolCalls →
    invocation.requiredDataScopes ≠ [] →
      Covered enforcer.profile invocation ∧ HasRoom enforcer .dataReads

section Operations

variable {enforcer : RuntimeProfileEnforcer} {invocation : Invocation}

def counted (enforcer : RuntimeProfileEnforcer) (counter : Counter) : RuntimeProfileEnforcer :=
  { enforcer with
    count := Function.update enforcer.count counter (enforcer.count counter + 1) }

theorem incrementLimit_atomic (enforcer : RuntimeProfileEnforcer) (counter : Counter) :
    Atomic (HasRoom enforcer counter) (incrementLimit counter 1) enforcer
      (counted enforcer counter) := by
  rcases ran : perform (incrementLimit counter 1) enforcer with ⟨outcome, after⟩
  cases outcome with
  | error error =>
      refine .inr ⟨fun ⟨bound, bounded, below⟩ => ?_, error, ?_⟩
      · rw [incrementLimit_of_le (by decide) bounded below] at ran
        cases ran
      · rw [ran, incrementLimit_error ran]
  | ok value =>
      obtain ⟨-, room, after_eq⟩ := incrementLimit_ok ran
      exact .inl ⟨room, by rw [ran, after_eq]; rfl⟩

theorem requireIn_atomic (enforcer : RuntimeProfileEnforcer) (field kind code name : Text) :
    Atomic (Lists enforcer.profile field name) (requireIn field kind code name) enforcer enforcer :=
  .of_returns (fun _ => requireIn_ok) rfl

theorem admit_atomic (enforcer : RuntimeProfileEnforcer) (invocation : Invocation) :
    Atomic (Cleared enforcer.profile invocation) invocation.permit enforcer enforcer := by
  have duration : Atomic (InTime enforcer.profile invocation.elapsed)
      (checkDuration invocation.elapsed) enforcer enforcer :=
    .of_returns (fun _ => checkDuration_ok) rfl
  have risk :
      Atomic (riskRank invocation.toolRiskLevel ≤ riskRank (profileRiskLevel enforcer.profile))
      (requireToolRisk invocation.toolName invocation.toolRiskLevel) enforcer enforcer :=
    .of_returns (fun _ => requireToolRisk_ok) rfl
  have policies := Atomic.forM invocation.requiredPolicies fun policy =>
    requireIn_atomic enforcer "policies" "Policy" "policy_not_in_runtime_profile" policy
  have tool := requireIn_atomic enforcer "tools" "Tool" "tool_not_in_runtime_profile"
    invocation.toolName
  have together := duration.bind (tool.bind (risk.bind policies))
  rwa [show (_ ∧ _ ∧ _ ∧ _) = Cleared enforcer.profile invocation from
    propext ⟨fun ⟨inTime, tool, risk, policies⟩ => ⟨inTime, tool, risk, policies⟩,
      fun ⟨inTime, tool, risk, policies⟩ => ⟨inTime, tool, risk, policies⟩⟩] at together

theorem read_atomic (enforcer : RuntimeProfileEnforcer) (invocation : Invocation) :
    Atomic (Covered enforcer.profile invocation ∧ HasRoom enforcer .dataReads)
      (requireDataScopes invocation.requiredDataScopes >>= fun _ => recordDataRead) enforcer
      (counted enforcer .dataReads) := by
  have scopes : Atomic (Covered enforcer.profile invocation)
      (requireDataScopes invocation.requiredDataScopes) enforcer enforcer :=
    .of_returns (fun _ => requireScopes_ok) rfl
  exact scopes.bind (incrementLimit_atomic enforcer .dataReads)

theorem record_eq : invocation.record = (do
    invocation.permit
    incrementLimit .toolCalls 1
    if invocation.requiredDataScopes ≠ [] then
      requireDataScopes invocation.requiredDataScopes
      recordDataRead) := by
  simp only [Invocation.record, Invocation.permit, recordToolInvocation, bind_assoc]

theorem perform_record_of_uncounted
    (uncounted : ¬(Cleared enforcer.profile invocation ∧ HasRoom enforcer .toolCalls)) :
    ∃ error, perform invocation.record enforcer = (.error error, enforcer) := by
  have first := (admit_atomic enforcer invocation).bind (incrementLimit_atomic enforcer .toolCalls)
  rcases first with ⟨counted, -⟩ | ⟨-, error, raised⟩
  · exact absurd counted uncounted
  · refine ⟨error, ?_⟩
    rw [record_eq, ← bind_assoc, perform_bind, raised]

theorem perform_record_of_counted (cleared : Cleared enforcer.profile invocation)
    (room : HasRoom enforcer .toolCalls) :
    perform invocation.record enforcer =
      perform (if invocation.requiredDataScopes ≠ [] then
          requireDataScopes invocation.requiredDataScopes >>= fun _ => recordDataRead
        else pure ()) (counted enforcer .toolCalls) := by
  have first := (admit_atomic enforcer invocation).bind (incrementLimit_atomic enforcer .toolCalls)
  rcases first with ⟨-, returned⟩ | ⟨uncounted, -⟩
  · rw [record_eq, ← bind_assoc, perform_bind, returned]
  · exact absurd ⟨cleared, room⟩ uncounted

end Operations

/-- A tool invocation that raises is free exactly when it is not one that is counted and then denied
its data scopes or its data read. -/
theorem denied_calls_free (enforcer : RuntimeProfileEnforcer) (invocation : Invocation) :
    Free enforcer invocation ↔ Careful enforcer invocation := by
  by_cases counts : Cleared enforcer.profile invocation ∧ HasRoom enforcer .toolCalls
  · obtain ⟨cleared, room⟩ := counts
    simp only [Free, perform_record_of_counted cleared room, Careful, cleared, room, true_implies]
    by_cases none : invocation.requiredDataScopes = []
    · simp [none]
    · simp only [none, ne_eq, not_false_eq_true, if_true, true_implies]
      have same_room :
          HasRoom (counted enforcer .toolCalls) .dataReads ↔ HasRoom enforcer .dataReads := by
        simp [HasRoom, counted]
      rcases read_atomic (counted enforcer .toolCalls) invocation with
        ⟨readable, returned⟩ | ⟨unreadable, error, raised⟩
      · rw [same_room] at readable
        rw [returned]
        exact iff_of_true (fun _ _ raised => by cases raised) readable
      · rw [same_room] at unreadable
        refine iff_of_false (fun free => ?_) unreadable
        have charged := free error _ raised .toolCalls
        simp [counted] at charged
  · obtain ⟨error, raised⟩ := perform_record_of_uncounted counts
    refine iff_of_true (fun other after ran => ?_) fun cleared room => absurd ⟨cleared, room⟩ counts
    rw [raised] at ran
    cases ran
    exact fun _ => rfl

/-- A profile with a tool but without its data scope. -/
def unscopedProfile : JsonObject :=
  [("risk_level", .str "low"), ("tools", .arr [.str "git-read"]), ("data_scopes", .arr []),
    ("policies", .arr []),
    ("limits", .obj [("max_tool_calls", .int 2), ("max_data_reads", .int 5),
      ("max_duration_seconds", .int 900)])]

/-- A call whose data scope is denied has cost a tool call. -/
theorem denied_scope_charged :
    ¬Free ⟨unscopedProfile, fun _ => 0⟩ ⟨0, "git-read", ["repository-readonly"], [], "low"⟩ := by
  let invocation : Invocation := ⟨0, "git-read", ["repository-readonly"], [], "low"⟩
  let result := perform invocation.record ⟨unscopedProfile, fun _ => 0⟩
  have denied : ∃ error, result.1 = .error error :=
    ⟨.denied "Requested data scopes are not allowed: repository-readonly." "policy_denied"
      "data_scope_not_in_runtime_profile", by decide⟩
  have charged : result.2.count .toolCalls = 1 := by decide
  obtain ⟨error, raised⟩ := denied
  intro free
  have unchanged := free error result.2 (Prod.ext raised rfl) .toolCalls
  rw [charged] at unchanged
  cases unchanged

end SkillCentric.DeniedCalls
