import SkillCentric.Runtime.Coercions
import SkillCentric.Runtime.TenantStatus

/-!
# Memory invariants of plans

`PostPlanningMemoryInvariantValidator`: what a plan that uses procedural memory may carry.  The
lower-casing of texts is a parameter.
-/

namespace SkillCentric

/-- `NON_AUTHORITATIVE_MEMORY_EFFECTS`. -/
def nonAuthoritativeMemoryEffects : List Text :=
  ["planner_hint", "retrieval_ranking", "composer_candidate_bias"]

/-- `AUTHORITY_PLAN_FIELDS`. -/
def authorityPlanFields : List (Text × Text) := [
  ("tool_grants", "tool grants"),
  ("granted_tools", "tool grants"),
  ("added_tools", "tool grants"),
  ("scope_grants", "scope grants"),
  ("knowledge_scope_grants", "scope grants"),
  ("memory_scope_grants", "scope grants"),
  ("data_scope_grants", "scope grants"),
  ("policy_overrides", "policy overrides"),
  ("validator_overrides", "validator overrides"),
  ("budget_changes", "budget changes"),
  ("failure_policy_changes", "failure policy changes"),
  ("runtime_profile_patch", "runtime profile mutation")]

/-- `PROFILE_AUTHORITY_FIELDS`. -/
def profileAuthorityFields : List Text :=
  ["tools", "knowledge_scopes", "memory_scopes", "data_scopes", "policies", "validators", "limits",
    "failure_policy"]

/-- The sources that are memories. -/
def memorySources : List Text := ["memory", "procedural_memory", "agent_memory"]

/-- `PostPlanningMemoryInvariantResult`. -/
structure PostPlanningMemoryInvariantResult where
  status : Text
  reason : Text
  violations : List Text

/-- `approved`. -/
def PostPlanningMemoryInvariantResult.approved
    (result : PostPlanningMemoryInvariantResult) : Bool :=
  result.status = ("approved" : Text)

namespace PostPlanningMemoryInvariantValidator

/-- An item of a string tuple. -/
def tupleItem : Json → Option Text
  | .str text => if strip text = [] then none else some text
  | _ => none

/-- `_string_tuple`. -/
def stringTuple : Json → List Text
  | .arr items => items.filterMap tupleItem
  | _ => []

/-- `_has_value`. -/
def hasValue : Json → Bool
  | .null => false
  | .str text => strip text ≠ []
  | .arr items => !items.isEmpty
  | .obj fields => !fields.isEmpty
  | _ => true

/-- A violation when a condition holds. -/
def violationIf (condition : Bool) (violation : Text) : List Text :=
  if condition then [violation] else []

/-- The effects that are checked. -/
def checkedEffects : Json → List Text
  | .arr effects => stringTuple (.arr effects)
  | effect => [effect.pyStr]

/-- `_memory_effect_violations`. -/
def memoryEffectViolations (plan : JsonObject) : List Text :=
  let effects := checkedEffects ((Json.obj plan).item "effect")
  violationIf
    (effects.isEmpty || effects.any fun effect => !nonAuthoritativeMemoryEffects.contains effect)
      "memory effect must be non-authoritative" ++
    violationIf (strip ((Json.obj plan).item "selection_reason" (.str [])).pyStr = [])
      "memory-influenced plans require selection_reason" ++
    violationIf (!(stringTuple ((Json.obj plan).item "authority_delta")).isEmpty)
      "memory-influenced plans must not carry authority_delta"

/-- `_authority_field_violations`. -/
def authorityFieldViolations (plan : JsonObject) : List Text :=
  authorityPlanFields.flatMap fun (field, label) =>
    violationIf (hasValue ((Json.obj plan).item field))
      (("memory-influenced plans must not include " : Text) ++ label)

/-- `_memory_authority_justification_violations`. -/
def memoryAuthorityJustificationViolations (lower : Text → Text) (plan : JsonObject) : List Text :=
  let authoritySource := lower ((Json.obj plan).item "authority_source" (.str [])).pyStr
  let authorityJustification := (Json.obj plan).item "authority_justification"
  violationIf (memorySources.contains authoritySource ||
      hasValue (authorityJustification.item "memory_ids"))
    "memory IDs must not be used as authority justification"

/-- `_runtime_profile_delta_violations`. -/
def runtimeProfileDeltaViolations (runtimeProfile plannedRuntimeProfile : JsonObject) : List Text :=
  profileAuthorityFields.flatMap fun field =>
    violationIf (!((Json.obj runtimeProfile).item field).equal
        ((Json.obj plannedRuntimeProfile).item field))
      (("memory-influenced plans must not mutate runtime_profile " : Text) ++ field)

/-- The violations of a plan that uses memory. -/
def violations (lower : Text → Text) (plan runtimeProfile : JsonObject)
    (plannedRuntimeProfile : Option JsonObject) : List Text :=
  memoryEffectViolations plan ++ authorityFieldViolations plan ++
    memoryAuthorityJustificationViolations lower plan ++
    plannedRuntimeProfile.elim [] (runtimeProfileDeltaViolations runtimeProfile)

/-- `validate`. -/
def validate (lower : Text → Text) (plan runtimeProfile : JsonObject)
    (plannedRuntimeProfile : Option JsonObject) : PostPlanningMemoryInvariantResult :=
  if stringTuple ((Json.obj plan).item "used_memory_ids") = [] then
    { status := "approved"
      reason := "Plan does not use procedural memory."
      violations := [] }
  else
    let violations := violations lower plan runtimeProfile plannedRuntimeProfile
    if violations = [] then
      { status := "approved"
        reason := "Memory-influenced plan preserves runtime authority boundaries."
        violations := [] }
    else
      { status := "rejected"
        reason := "Memory-influenced plan violates non-authority invariants."
        violations }

end PostPlanningMemoryInvariantValidator

end SkillCentric
