import SkillCentric.Runtime.Enforcement
import SkillCentric.Runtime.ToolGateway

/-!
# Runs under an enforcer

One enforcer serves a run: the loop and the context manager charge it directly, tool gateways
charge it before they call an adapter.  A run is any sequence of such steps, and goes on after a
step that raises.
-/

namespace SkillCentric

/-- `tool_required_data_scopes`. -/
def toolRequiredDataScopes (toolName : Text) : List Text :=
  if toolName ∈ (["filesystem-read", "filesystem-list", "git-read", "test-runner"] : List Text) then
    ["repository-readonly"]
  else if toolName = ("filesystem-write" : Text) then ["repository-write"]
  else []

/-- `tool_required_policies`. -/
def toolRequiredPolicies (toolName : Text) : List Text :=
  if toolName = ("filesystem-write" : Text) then ["write-approval-required"] else []

/-- `tool_risk_level`. -/
def toolRiskLevel (toolName : Text) : Text :=
  if toolName ∈ (["filesystem-read", "filesystem-list", "git-read"] : List Text) then "low"
  else if toolName = ("test-runner" : Text) then "medium"
  else "high"

/-- Calls of the operations that charge an enforcer. -/
inductive EnforcerCall where
  | recordToolInvocation (elapsed : Nat) (toolName : Text)
      (requiredDataScopes requiredPolicies : List Text) (toolRiskLevel : Text)
  | consumeTokens (elapsed : Nat) (tokens : Int)
  | recordDataRead (count : Int)
  | recordMemoryOp (count : Int)
  | recordRecompositionRequest

namespace EnforcerCall

/-- The operation of a call. -/
def operation : EnforcerCall → Enforce Unit
  | .recordToolInvocation elapsed toolName scopes policies risk =>
      RuntimeProfileEnforcer.recordToolInvocation elapsed toolName scopes policies risk
  | .consumeTokens elapsed tokens => RuntimeProfileEnforcer.consumeTokens elapsed tokens
  | .recordDataRead count => RuntimeProfileEnforcer.recordDataRead count
  | .recordMemoryOp count => RuntimeProfileEnforcer.recordMemoryOp count
  | .recordRecompositionRequest => RuntimeProfileEnforcer.recordRecompositionRequest

end EnforcerCall

namespace ToolGateway

/-- The enforcer call of `invoke`. -/
def invocation (elapsed : Nat) (toolName : Text) : EnforcerCall :=
  .recordToolInvocation elapsed toolName (toolRequiredDataScopes toolName)
    (toolRequiredPolicies toolName) (toolRiskLevel toolName)

/-- The gateway, with what its enforcer answers to the call at hand. -/
def answering (gateway : ToolGateway) (answer : Check Unit) : ToolGateway :=
  { gateway with
    components :=
      { gateway.components with
        recordToolInvocation := fun _ _ => answer.mapError EnforcerError.error } }

/-- `invoke` gets to the adapter. -/
def reachesAdapter (gateway : ToolGateway) (answer : Check Unit) (toolName : Text) : Bool :=
  answer.toBool && (gateway.components.adapter toolName).isSome

end ToolGateway

/-- One run under an enforcer. -/
structure EnforcedRun where
  enforcer : RuntimeProfileEnforcer
  plane : Plane
  invoked : List Text

/-- Steps of a run under an enforcer. -/
inductive EnforcedStep where
  | charge (call : EnforcerCall)
  /-- `ToolGateway.invoke`. -/
  | invoke (gateway : ToolGateway) (elapsed : Nat) (toolName : Text) (payload : JsonObject)

namespace EnforcedRun

/-- The run before its first step. -/
def initial (enforcer : RuntimeProfileEnforcer) (plane : Plane) : EnforcedRun :=
  ⟨enforcer, plane, []⟩

/-- `invoke` under the run's enforcer: what it returns or raises, and the run after it.  The
adapters invoked so far are the index of the next invocation. -/
def invoke (gateway : ToolGateway) (elapsed : Nat) (toolName : Text) (payload : JsonObject)
    (run : EnforcedRun) : Except PyError ToolInvocation × EnforcedRun :=
  let (answer, enforcer) :=
    Stateful.perform (ToolGateway.invocation elapsed toolName).operation run.enforcer
  let (outcome, plane) :=
    ((gateway.answering answer).invoke toolName payload run.invoked.length).run exec run.plane
  let invoked := if gateway.reachesAdapter answer toolName then [toolName] else []
  (outcome, ⟨enforcer, plane, run.invoked ++ invoked⟩)

/-- One step. -/
def step (run : EnforcedRun) : EnforcedStep → EnforcedRun
  | .charge call => { run with enforcer := (Stateful.perform call.operation run.enforcer).2 }
  | .invoke gateway elapsed toolName payload => (invoke gateway elapsed toolName payload run).2

end EnforcedRun

end SkillCentric
