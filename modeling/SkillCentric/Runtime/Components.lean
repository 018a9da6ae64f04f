import SkillCentric.Runtime.Records
import SkillCentric.Runtime.TenantStatus

/-!
# Profiles and collaborators

A runtime profile as the composer builds it, and the collaborators a run calls: redaction, hashing,
the control plane, the composer's module selection, the enforcer, the context manager, the
planner, the tools and the validators.  A run takes them as functions that return a value or raise.
-/

namespace SkillCentric

/-- What the composer selects for a profile: whether human review is required, and the fields that
no runtime decision reads. -/
structure Composition where
  humanReview : Bool
  tenantContext : JsonObject
  fields : JsonObject

/-- A runtime agent profile. -/
structure RuntimeProfile where
  id : Text
  profileVersion : Text
  profileGeneration : Nat
  parentProfileId : Option Text
  recompositionReason : Option Text
  /-- `tenant_context.tenant_id`. -/
  tenantId : Text
  /-- `tenant_context.area_id`. -/
  areaId : Text
  composition : Composition

namespace RuntimeProfile

/-- An optional text as a JSON value. -/
def optional (value : Option Text) : Json := (value.map Json.str).getD .null

/-- `limits.max_tokens`. -/
def maxTokens (_ : RuntimeProfile) : Int := 60000

/-- `limits.max_tool_calls`. -/
def maxToolCalls (profile : RuntimeProfile) : Int :=
  if profile.composition.humanReview then 0 else 30

/-- `limits`. -/
def limits (profile : RuntimeProfile) : Json :=
  let unlessReview (limit : Int) : Json :=
    .int (if profile.composition.humanReview then 0 else limit)
  .obj
    [("max_tool_calls", .int profile.maxToolCalls), ("max_tokens", .int profile.maxTokens),
      ("max_duration_seconds", .int 900), ("max_data_reads", unlessReview 120),
      ("max_memory_ops", unlessReview 10), ("max_recompositions", unlessReview 1)]

/-- `failure_policy`. -/
def failurePolicy (profile : RuntimeProfile) : JsonObject :=
  if profile.composition.humanReview then
    [("on_composer_failure", .str "fail_closed"), ("on_validator_failure", .str "fail_closed"),
      ("on_policy_denial", .str "fail_closed"), ("on_budget_exhausted", .str "return_error")]
  else
    [("on_composer_failure", .str "request_clarification"),
      ("on_validator_failure", .str "fail_closed"), ("on_policy_denial", .str "return_error"),
      ("on_budget_exhausted", .str "return_error")]

/-- `tenant_context`. -/
def tenantContext (profile : RuntimeProfile) : JsonObject :=
  ("tenant_id", .str profile.tenantId) :: ("area_id", .str profile.areaId) ::
    profile.composition.tenantContext

/-- The profile as a JSON object. -/
def toJson (profile : RuntimeProfile) : Json :=
  .obj (
    ("id", .str profile.id) :: ("profile_version", .str profile.profileVersion) ::
    ("profile_generation", .int profile.profileGeneration) ::
    ("parent_profile_id", optional profile.parentProfileId) ::
    ("recomposition_reason", optional profile.recompositionReason) ::
    ("tenant_context", .obj profile.tenantContext) :: ("limits", profile.limits) ::
    ("failure_policy", .obj profile.failurePolicy) :: profile.composition.fields)

/-- A field of the profile, `None` when absent. -/
def field (profile : RuntimeProfile) (key : Text) : Json := (profile.toJson.get? key).getD .null

end RuntimeProfile

/-- A runtime plan. -/
structure RuntimePlan where
  strategy : Json
  actions : List Json
  fields : JsonObject

namespace RuntimePlan

/-- The plan as a JSON object. -/
def toJson (plan : RuntimePlan) : Json :=
  .obj (("strategy", plan.strategy) :: ("actions", .arr plan.actions) :: plan.fields)

end RuntimePlan

/-- `RuntimeValidationOutcome`. -/
structure ValidationOutcome where
  validatorId : Text
  passed : Bool
  findings : Json

/-- The collaborators of one run. -/
structure Components where
  /-- `JsonArtifactStore.root_uri`. -/
  artifactRootUri : Text
  /-- `redact_sensitive_data`. -/
  redactSensitiveData : Json → Json
  profileSha256 : Json → Text
  /-- `AnalyzedTask.to_composition_context_request`. -/
  contextRequest : Json → Json
  analysisSummary : Json → Json
  /-- `ControlPlaneClient.composition_context`, when there is a client. -/
  compositionContext : Option (Json → Except PyError JsonObject)
  /-- The checks and the module selection of `RuntimeProfileComposer.compose`. -/
  compose : Json → Json → Except PyError Composition
  /-- `profile_redacts_sensitive_data`. -/
  redacts : RuntimeProfile → Bool
  /-- `profile_summary`. -/
  profileSummary : RuntimeProfile → Json
  /-- `RuntimeProfileEnforcer.validate_profile_for_runtime`. -/
  validateProfile : RuntimeProfile → Except PyError Unit
  /-- `RuntimeProfileEnforcer.check_duration` at the start of a step. -/
  checkDuration : RuntimeStepKind → Except PyError Unit
  /-- `RuntimeContextManager.load`. -/
  loadContext : RuntimeProfile → Except PyError JsonObject
  /-- `build_runtime_plan`. -/
  buildPlan : RuntimeProfile → Except PyError RuntimePlan
  /-- `RuntimeProfileEnforcer.record_tool_invocation` of the indexed tool call. -/
  recordToolInvocation : Nat → Text → Except PyError Unit
  toolAccess : Text → JsonObject
  /-- The `code` of an enforcement error. -/
  errorCode : PyError → Text
  capabilityGap : Text → PyError → Option (Text × Json)
  adapter : Text → Option (Nat → JsonObject → Except PyError JsonObject)
  afterToolHook : ToolInvocation → RuntimeEvent → List (Option Json) → List Text × Json
  /-- `runtime_response`. -/
  runtimeResponse : RuntimeProfile → JsonObject → RuntimePlan → Json → Except PyError JsonObject
  /-- `RuntimeValidatorFramework.validate`. -/
  validate : RuntimeProfile → Json → Json → Except PyError (List ValidationOutcome)
  /-- `classify_runtime_success(...).as_dict()`. -/
  classifySuccess : RuntimePlan → Json → Json
  /-- `classify_runtime_failure(...).as_dict()`. -/
  classifyFailure : PyError → Text → Json
  /-- `RuntimeProfileEnforcer.record_recomposition_request`. -/
  recordRecompositionRequest : Except PyError Unit
  /-- `RuntimeProfileEnforcer.tokens_used` when the run ends. -/
  tokensUsed : Int

namespace Components

/-- The stored URI of an artifact path. -/
def uriOf (components : Components) (path : ArtifactPath) : Json :=
  .str (components.artifactRootUri ++ '/' :: List.intercalate ['/'] path)

/-- What is stored of a payload under a profile. -/
def redactFor (components : Components) (profile : RuntimeProfile) : Json → Json :=
  if components.redacts profile then components.redactSensitiveData else id

end Components

end SkillCentric
