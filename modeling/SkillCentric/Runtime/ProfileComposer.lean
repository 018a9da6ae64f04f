import SkillCentric.Runtime.EntryPoint
import SkillCentric.Runtime.TenantAccess

/-!
# The profile composer

`RuntimeProfileComposer.compose`: a profile is built from an analyzed task and the context response
of the control plane, or composition fails.  References, graph nodes and policy decisions of the
response are mappings with fields of any type.
-/

namespace SkillCentric

/-- `AnalyzedTask`, as far as composition reads it. -/
structure TaskAnalysis where
  taskId : Text
  taskType : Text
  objective : Text
  riskLevel : Text
  capabilityHints : List Text
  missingInformation : List Text
  authClaims : AuthClaims
  classificationConfidence : Text
  classificationReasons : List Text
  ambiguousTaskTypes : List Text
  requiresHumanReview : Bool

namespace RuntimeProfileComposer

/-- `CompositionError(message)`. -/
def compositionError (message : Text) : PyError := ⟨.compositionError, message, none⟩

/-- Raise a `CompositionError`. -/
def raiseIf (condition : Bool) (message : Text) : Except PyError Unit :=
  if condition then .error (compositionError message) else .ok ()

/-- Versions of the modules every profile has. -/
def baselineModuleVersions : List (Text × Text) :=
  [("base-agent-rules", "0.1.0"), ("runtime-profile-schema", "0.1.0")]

/-- `TASK_INSTRUCTION_VERSIONS.get(task_type, {})`. -/
def taskInstructionVersions (taskType : Text) : List (Text × Text) :=
  if taskType = ("code-review" : Text) then [("code-review-rules", "0.1.0")] else []

/-- `_references`. -/
def references (context : JsonObject) (field : Text) : List Json :=
  ((Json.obj context).item field (.arr [])).mappings

/-- `_graph_references`. -/
def graphReferences (context : JsonObject) : List Json :=
  (((Json.obj context).item "graph_validation" (.obj [])).item "reachable_modules"
    (.arr [])).mappings

/-- `_policy_decisions`. -/
def policyDecisions (context : JsonObject) : List Json := references context "policy_decisions"

/-- `_names`, of every kind. -/
def names (references : List Json) : List Text :=
  references.filterMap fun reference => RuntimeProfileEnforcer.textOf? (reference.item "name")

/-- The references of a kind. -/
def ofKind (references : List Json) (kind : Text) : List Json :=
  references.filter fun reference => (reference.item "kind").equal (.str kind)

/-- `_names` of one kind. -/
def namesOf (references : List Json) (kind : Text) : List Text := names (ofKind references kind)

/-- `_versions_by_name`: later references replace earlier ones. -/
def versionByName (references : List Json) (name : Text) : Option Text :=
  references.reverse.findSome? fun reference =>
    if reference.item "name" = .str name then
      RuntimeProfileEnforcer.textOf? (reference.item "version")
    else none

/-- The references that pin versions. -/
def versionReferences (context : JsonObject) : List Json :=
  (["candidate_modules", "applicable_policies", "allowed_knowledge_scopes", "allowed_data_scopes",
    "allowed_memory_scopes", "validation_requirements"] : List Text).flatMap (references context) ++
    graphReferences context

/-- Look up a name in a table. -/
def lookup (name : Text) (table : List (Text × Text)) : Option Text :=
  (table.find? fun entry => entry.1 = name).map Prod.snd

/-- `_version_for`. -/
def versionFor (task : TaskAnalysis) (context : JsonObject) (name : Text) : Except PyError Text :=
  match versionByName (versionReferences context) name with
  | some version => .ok version
  | none =>
      match (lookup name baselineModuleVersions).or
          (lookup name (taskInstructionVersions task.taskType)) with
      | some version => .ok version
      | none => .error (compositionError
          (("No version pin is available for selected module: " : Text) ++ name ++ ("." : Text)))

/-- `{name: _version_for(name, ...) for name in selected_modules}`. -/
def moduleVersions (task : TaskAnalysis) (context : JsonObject) :
    List Text → Except PyError JsonObject
  | [] => return []
  | name :: rest => do
      let version ← versionFor task context name
      let versions ← moduleVersions task context rest
      return (name, .str version) :: versions

/-- `_assert_recomposition_traceability`. -/
def assertRecompositionTraceability (profileGeneration : Int)
    (parentProfileId recompositionReason : Option Text) : Except PyError Unit := do
  raiseIf (profileGeneration < 1) "profile_generation must be greater than zero."
  if profileGeneration = 1 then
    raiseIf (parentProfileId.isSome || recompositionReason.isSome)
      "Initial profiles cannot include recomposition traceability."
  else
    match parentProfileId, recompositionReason with
    | some _, some reason =>
        raiseIf (!recompositionReasons.contains reason)
          (("recomposition_reason must be one of: " : Text) ++ Json.join recompositionReasons ++
            (". Got: " : Text) ++ reason ++ ("." : Text))
    | _, _ => throw (compositionError
        "Recomposed profiles require parent_profile_id and recomposition_reason.")

/-- `KeyError(key)`. -/
def keyError (key : Text) : PyError := ⟨.keyError, Json.quoteText key, none⟩

/-- `mapping[key]`. -/
def subscript (mapping : Json) (key : Text) : Except PyError Json :=
  match mapping.get? key with
  | some value => .ok value
  | none => .error (keyError key)

/-- The decision names a module. -/
def decides (name : Text) (decision : Json) : Bool :=
  (decision.item "module").item "name" == .str name

/-- The entry of a decision in `policy_effects`. -/
def effectEntry (decision : Json) : Except PyError Unit := do
  let name ← subscript (decision.item "module") "name"
  let _ ← subscript decision "effect"
  let _ ← name.isOneOf []
  return ()

/-- The decisions that `policy_effects` is made of. -/
def moduleDecisions (context : JsonObject) : List Json :=
  (policyDecisions context).filter fun decision => (decision.item "module").isMapping

/-- `policy_effects.get(name)`: the effect of the last decision naming the module. -/
def policyEffect (context : JsonObject) (name : Text) : Json :=
  (((moduleDecisions context).reverse.find? (decides name)).map fun decision =>
    decision.item "effect").getD .null

/-- The check of one candidate module. -/
def assertCandidate (context : JsonObject) (reference : Json) : Except PyError Unit := do
  let name ← subscript reference "name"
  let effect := policyEffect context name.pyStr
  raiseIf (effect ≠ .null && !effect.equal (.str "allow"))
    (("Candidate module " : Text) ++ name.pyStr ++ (" is not policy-allowed: " : Text) ++
      effect.pyStr ++ ("." : Text))

/-- The check of one reachable tool. -/
def assertReachableTool (context : JsonObject) (reference : Json) : Except PyError Unit := do
  let name ← subscript reference "name"
  let effect := policyEffect context name.pyStr
  raiseIf (!effect.equal (.str "allow"))
    (("Selected tool " : Text) ++ name.pyStr ++ (" is not policy-allowed: " : Text) ++
      (if effect.truthy then effect.pyStr else ("missing" : Text)) ++ ("." : Text))

/-- `"; ".join(errors)`, from the item at an index. -/
def joinErrors (index : Nat) : List Json → Except PyError (List Text)
  | [] => return []
  | .str error :: rest => do return error :: (← joinErrors (index + 1) rest)
  | value :: _ => .error ⟨.typeError,
      ("sequence item " : Text) ++ decimal index ++ (": expected str instance, " : Text) ++
        value.typeName ++ (" found" : Text), none⟩

/-- The graph validation of a composable response. -/
def assertGraphValid (context : JsonObject) : Except PyError Unit := do
  let graphValidation := (Json.obj context).item "graph_validation"
  raiseIf (!graphValidation.isMapping) "Control Plane response is missing graph validation."
  if graphValidation.item "is_valid" ≠ .bool true then
    match graphValidation.item "errors" (.arr []) with
    | .arr (error :: errors) =>
        let texts ← joinErrors 0 (error :: errors)
        throw (compositionError (("Control Plane graph validation failed: " : Text) ++
          List.intercalate ("; " : Text) texts))
    | _ => throw (compositionError "Control Plane graph validation failed.")

/-- `_requires_knowledge_context`. -/
def requiresKnowledgeContext (task : TaskAnalysis) : Bool :=
  task.taskType = ("research" : Text) || task.capabilityHints.contains ("retrieval" : Text)

/-- The checks of a task that needs no human review. -/
def assertPolicies (task : TaskAnalysis) (context : JsonObject) : Except PyError Unit := do
  raiseIf (requiresKnowledgeContext task && !(references context "allowed_memory_scopes").isEmpty &&
      (references context "allowed_knowledge_scopes").isEmpty)
    "Memory scopes cannot substitute for knowledge scopes on research or retrieval tasks."
  (moduleDecisions context).forM effectEntry
  (references context "candidate_modules").forM (assertCandidate context)
  (ofKind (graphReferences context) "tool").forM (assertReachableTool context)

/-- `_assert_composable`. -/
def assertComposable (task : TaskAnalysis) (context : JsonObject) : Except PyError Unit := do
  raiseIf (!task.missingInformation.isEmpty)
    (("Cannot compose profile; missing required inputs: " : Text) ++
      Json.join task.missingInformation ++ ("." : Text))
  let status := (Json.obj context).item "composition_status"
  raiseIf (!status.equal (.str "ready"))
    (("Control Plane composition status is not ready: " : Text) ++ status.pyStr ++ ("." : Text))
  assertGraphValid context
  raiseIf ((references context "candidate_modules").isEmpty && !task.requiresHumanReview)
    "Control Plane returned no candidate modules."
  if task.requiresHumanReview then return () else assertPolicies task context

/-- The modules a profile selects, by field. -/
structure Selection where
  instructions : List Text
  skills : List Text
  tools : List Text
  knowledgeScopes : List Text
  dataScopes : List Text
  memoryScopes : List Text
  policies : List Text
  validators : List Text

namespace Selection

/-- The modules of a field of the profile. -/
def field (selection : Selection) (name : Text) : List Text :=
  if name = ("instructions" : Text) then selection.instructions
  else if name = ("skills" : Text) then selection.skills
  else if name = ("tools" : Text) then selection.tools
  else if name = ("knowledge_scopes" : Text) then selection.knowledgeScopes
  else if name = ("data_scopes" : Text) then selection.dataScopes
  else if name = ("memory_scopes" : Text) then selection.memoryScopes
  else if name = ("policies" : Text) then selection.policies
  else if name = ("validators" : Text) then selection.validators
  else []

/-- All selected modules. -/
def all (selection : Selection) : List Text :=
  selection.instructions ++ selection.skills ++ selection.tools ++ selection.knowledgeScopes ++
    selection.dataScopes ++ selection.memoryScopes ++ selection.policies ++ selection.validators

end Selection

/-- `_dedupe(_names(_references(context_response, field)))`. -/
def contextNames (context : JsonObject) (field : Text) : List Text :=
  (names (references context field)).eraseDups

/-- The tools of a profile. -/
def selectedTools (context : JsonObject) : List Text :=
  (namesOf (references context "candidate_modules") "tool" ++
    namesOf (graphReferences context) "tool").eraseDups

/-- What a profile selects. -/
def selection (task : TaskAnalysis) (context : JsonObject) : Selection :=
  let candidates := references context "candidate_modules"
  if task.requiresHumanReview then
    { instructions := ["base-agent-rules"]
      skills := []
      tools := []
      knowledgeScopes := []
      dataScopes := []
      memoryScopes := []
      policies := contextNames context "applicable_policies"
      validators := ["runtime-profile-schema"] }
  else
    { instructions := (("base-agent-rules" : Text) ::
        (taskInstructionVersions task.taskType).map Prod.fst ++
          namesOf candidates "instruction").eraseDups
      skills := (namesOf candidates "skill").eraseDups
      tools := selectedTools context
      knowledgeScopes := contextNames context "allowed_knowledge_scopes"
      dataScopes := contextNames context "allowed_data_scopes"
      memoryScopes := contextNames context "allowed_memory_scopes"
      policies := contextNames context "applicable_policies"
      validators := (("runtime-profile-schema" : Text) ::
        names (references context "validation_requirements")).eraseDups }

/-- `SKILL_RUNTIME_ROLES`. -/
def skillRuntimeRoles : List Text := ["non-runtime", "runtime", "shared"]

/-- The named skills among the candidates, with their roles. -/
def skillRoles (candidates : List Json) : List (Text × Text) :=
  (ofKind candidates "skill").filterMap fun reference =>
    (RuntimeProfileEnforcer.textOf? (reference.item "name")).map fun name =>
      (name, (reference.item "runtime_role" (.str "runtime")).pyStr)

/-- `role_by_skill_name.get(name, "runtime")`. -/
def roleOfSkill (candidates : List Json) (name : Text) : Text :=
  (lookup name (skillRoles candidates).reverse).getD "runtime"

/-- A list of texts as a JSON value. -/
def texts (values : List Text) : Json := .arr (values.map Json.str)

/-- `_skill_execution_roles`. -/
def skillExecutionRoles (candidates : List Json) (skills : List Text) : Except PyError Json := do
  (skillRoles candidates).forM fun (name, role) =>
    raiseIf (!skillRuntimeRoles.contains role)
      (("Invalid runtime_role for skill module " : Text) ++ name ++ (": " : Text) ++ role ++
        (". Expected one of: " : Text) ++ Json.join skillRuntimeRoles ++ ("." : Text))
  let withRole (accepts : Text → Bool) :=
    texts (skills.filter fun skill => accepts (roleOfSkill candidates skill))
  return .obj
    [("runtime_skills", withRole (· = ("runtime" : Text))),
      ("non_runtime_skills", withRole (· = ("non-runtime" : Text))),
      ("shared_skills", withRole fun role =>
        role ≠ ("runtime" : Text) && role ≠ ("non-runtime" : Text))]

/-- `_auth_context`. -/
def authContext (claims : AuthClaims) : Json :=
  .obj
    [("principal", .obj (("id", .str claims.principalId) :: ("type", .str claims.principalType) ::
        (claims.displayName.map fun name => (("display_name" : Text), Json.str name)).toList)),
      ("roles", texts claims.roles),
      ("authorization_policies", texts claims.authorizationPolicies)]

/-- `_tenant_context`. -/
def tenantContext (claims : AuthClaims) : Json :=
  .obj
    [("tenant_id", .str claims.tenantId), ("area_id", .str claims.areaId),
      ("hostname", RuntimeProfile.optional claims.tenantHostname),
      ("membership_id", RuntimeProfile.optional claims.membershipId),
      ("role_ids", texts claims.roles),
      ("role_derivation", .obj
        [("grant_source", .str "tenant-role-bundles"), ("direct_user_grants_allowed", .bool false),
          ("capabilities_derive_from_roles", .bool true),
          ("data_sources_derive_from_roles", .bool true)]),
      ("allowed_role_data_sources", texts claims.roleDataSources),
      ("allowed_role_capabilities", texts claims.roleCapabilities)]

/-- `_tenant_authority_snapshot`. -/
def tenantAuthoritySnapshot (claims : AuthClaims) (context : JsonObject) : Except PyError Json :=
  if claims.tenantId = ("global" : Text) then .ok .null
  else
    match (Json.obj context).item "tenant_authority" with
    | .obj authority => .ok (.obj authority)
    | _ => .error (compositionError "Tenant authority is required for tenant-scoped profiles.")

/-- `_human_review_required` and `_human_review_not_required`. -/
def humanReview (task : TaskAnalysis) : Json :=
  .obj
    [("required", .bool task.requiresHumanReview),
      ("status", .str (if task.requiresHumanReview then "required" else "not_required")),
      ("reason", .str (if task.requiresHumanReview then
          "Task classification matched multiple specialized task types; specialized runtime composition requires human approval."
        else "Analyzer did not require human review.")),
      ("ambiguous_task_types", texts task.ambiguousTaskTypes),
      ("classification_confidence", .str task.classificationConfidence),
      ("classification_reasons", texts task.classificationReasons),
      ("allowed_before_approval", texts (if task.requiresHumanReview then
          ["profile_validation", "audit_recording", "clarification_request"] else []))]

/-- `DEFAULT_LIMITS` and `HUMAN_REVIEW_LIMITS`. -/
def limits (task : TaskAnalysis) : Json :=
  let unlessReview (limit : Int) : Json := .int (if task.requiresHumanReview then 0 else limit)
  .obj
    [("max_tool_calls", unlessReview 30), ("max_tokens", .int 60000),
      ("max_duration_seconds", .int 900), ("max_data_reads", unlessReview 120),
      ("max_memory_ops", unlessReview 10), ("max_recompositions", unlessReview 1)]

/-- `DEFAULT_FAILURE_POLICY` and `HUMAN_REVIEW_FAILURE_POLICY`. -/
def failurePolicy (task : TaskAnalysis) : Json :=
  let unlessReview (action : Text) : Json :=
    .str (if task.requiresHumanReview then "fail_closed" else action)
  .obj
    [("on_composer_failure", unlessReview "request_clarification"),
      ("on_validator_failure", .str "fail_closed"),
      ("on_policy_denial", unlessReview "return_error"),
      ("on_budget_exhausted", .str "return_error")]

/-- `_trace_id`. -/
def traceId (taskId : Text) : Text := ("trace-" : Text) ++ removePrefix taskId "task-"

/-- `observability`. -/
def observability (task : TaskAnalysis) : Json :=
  .obj
    [("trace_id", .str (traceId task.taskId)), ("log_level", .str "info"),
      ("capture_events", texts ["task_analyzed", "candidates_discovered", "candidates_scored",
        "policies_evaluated", "graph_validated", "profile_emitted", "profile_validated",
        "runtime_completed"]),
      ("redact_sensitive_data", .bool true)]

/-- The fields of a profile. -/
def profileFields (task : TaskAnalysis) (generation : Int) (parentProfileId recompositionReason :
    Option Text) (authority skillRoles : Json) (selection : Selection) (versions : JsonObject) :
    JsonObject :=
  [("id", .str (RuntimeEntryPoint.profileId task.taskId generation)),
    ("profile_version", .str "0.6.0"), ("profile_generation", .int generation),
    ("parent_profile_id", RuntimeProfile.optional parentProfileId),
    ("recomposition_reason", RuntimeProfile.optional recompositionReason),
    ("task_type", .str task.taskType), ("objective", .str task.objective),
    ("risk_level", .str task.riskLevel), ("auth_context", authContext task.authClaims),
    ("tenant_context", tenantContext task.authClaims), ("tenant_authority", authority),
    ("human_review", humanReview task), ("instructions", texts selection.instructions),
    ("skills", texts selection.skills), ("skill_execution_roles", skillRoles),
    ("tools", texts selection.tools), ("knowledge_scopes", texts selection.knowledgeScopes),
    ("data_scopes", texts selection.dataScopes), ("memory_scopes", texts selection.memoryScopes),
    ("policies", texts selection.policies), ("validators", texts selection.validators),
    ("module_versions", .obj versions), ("limits", limits task),
    ("failure_policy", failurePolicy task), ("observability", observability task)]

/-- `_assert_tenant_access`. -/
def assertTenantAccess (task : TaskAnalysis) (context : JsonObject) (selection : Selection) :
    Except PyError Unit :=
  match TenantAccessValidator.validate task.authClaims context selection.field with
  | .ok _ => .ok ()
  | .error (.access message) => .error (compositionError message)
  | .error (.raised error) => .error error

/-- `compose`. -/
def compose (task : TaskAnalysis) (context : JsonObject) (generation : Int)
    (parentProfileId recompositionReason : Option Text) : Except PyError JsonObject := do
  assertRecompositionTraceability generation parentProfileId recompositionReason
  assertComposable task context
  let selected := selection task context
  if task.requiresHumanReview then
    raiseIf selected.policies.isEmpty "Control Plane returned no applicable policies."
    let authority ← tenantAuthoritySnapshot task.authClaims context
    let versions ← moduleVersions task context selected.all.eraseDups
    assertTenantAccess task context selected
    return profileFields task generation parentProfileId recompositionReason authority
      (.obj [("runtime_skills", texts []), ("non_runtime_skills", texts []),
        ("shared_skills", texts [])]) selected versions
  else
    let skillRoles ← skillExecutionRoles (references context "candidate_modules") selected.skills
    raiseIf selected.policies.isEmpty "Control Plane returned no applicable policies."
    assertTenantAccess task context selected
    let authority ← tenantAuthoritySnapshot task.authClaims context
    let versions ← moduleVersions task context selected.all.eraseDups
    return profileFields task generation parentProfileId recompositionReason authority skillRoles
      selected versions

end RuntimeProfileComposer

end SkillCentric
