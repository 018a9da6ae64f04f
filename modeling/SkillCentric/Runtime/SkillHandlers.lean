import SkillCentric.Library.Dict
import SkillCentric.Runtime.Enforcement

/-!
# Skill handlers

`SkillHandlerRegistry`: handlers are registered under their name and version, and the plan of a
profile is made by the handlers of the skills it may execute.
-/

namespace SkillCentric

open RuntimeProfileEnforcer

/-- `SkillHandlerPlan`. -/
structure SkillHandlerPlan where
  skillName : Text
  skillVersion : Text
  handlerId : Text
  strategy : Text
  outputContract : Text
  actions : List JsonObject

/-- `handler_ref`. -/
def SkillHandlerPlan.handlerRef (plan : SkillHandlerPlan) : JsonObject :=
  [("name", .str plan.skillName), ("version", .str plan.skillVersion),
    ("handler_id", .str plan.handlerId)]

/-- `RuntimeSkillPlan`. -/
structure RuntimeSkillPlan where
  strategy : Text
  outputContract : Text
  actions : List JsonObject
  skillHandlers : List JsonObject

/-- `RuntimeSkillSelection`. -/
structure RuntimeSkillSelection where
  runtimeSkills : List Text
  nonRuntimeSkills : List Text
  sharedSkills : List Text

/-- `executable_skills`. -/
def RuntimeSkillSelection.executableSkills (selection : RuntimeSkillSelection) : List Text :=
  selection.runtimeSkills ++ selection.sharedSkills

/-- `SkillHandler`. -/
structure SkillHandler where
  skillName : Text
  skillVersion : Text
  strategy : Text
  outputContract : Text
  buildActions : JsonObject → List JsonObject

namespace SkillHandler

/-- `handler_id`. -/
def handlerId (handler : SkillHandler) : Text := handler.skillName ++ '@' :: handler.skillVersion

/-- `build_plan` of a handler. -/
def buildPlan (handler : SkillHandler) (profile : JsonObject) : SkillHandlerPlan where
  skillName := handler.skillName
  skillVersion := handler.skillVersion
  handlerId := handler.handlerId
  strategy := handler.strategy
  outputContract := handler.outputContract
  actions := handler.buildActions profile

end SkillHandler

/-- `SkillHandlerRegistry`: every handler is found under its own name and version. -/
structure SkillHandlerRegistry where
  byNameVersion : Dict (Text × Text) SkillHandler
  keyed : ∀ key handler, byNameVersion.get? key = some handler →
    key = (handler.skillName, handler.skillVersion)

namespace SkillHandlerRegistry

/-- `handler_for`. -/
def handlerFor (registry : SkillHandlerRegistry) (skillName skillVersion : Text) :
    Option SkillHandler :=
  registry.byNameVersion.get? (skillName, skillVersion)

/-- `skill_name in self._known_versions`. -/
def knows (registry : SkillHandlerRegistry) (skillName : Text) : Bool :=
  registry.byNameVersion.entries.any fun entry => entry.1.1 == skillName

/-- `_resolve`. -/
def resolve (registry : SkillHandlerRegistry) (skillName skillVersion : Text) :
    Check SkillHandler :=
  match registry.handlerFor skillName skillVersion with
  | some handler => .ok handler
  | none =>
      if registry.knows skillName then
        .error (.denied (("No executable skill handler is registered for " : Text) ++ skillName ++
          '@' :: skillVersion ++ ("." : Text)) "policy_denied" "skill_handler_version_mismatch")
      else
        .error
          (.denied (("No executable skill handler is registered for selected skill: " : Text) ++
          skillName ++ ("." : Text)) "policy_denied" "skill_handler_not_registered")

end SkillHandlerRegistry

/-- `_selected_skill_names`. -/
def selectedSkillNames (profile : JsonObject) : List Text :=
  match (Json.obj profile).item "skills" (.arr []) with
  | .arr skills => skills.map Json.pyStr
  | _ => []

/-- `_role_skills`. -/
def roleSkills (skillExecutionRoles : Json) (roleField : Text) : Check (List Text) :=
  match skillExecutionRoles.item roleField (.arr []) with
  | .arr values => .ok (values.map Json.pyStr)
  | _ =>
    .error (.denied (("Invalid skill execution role list: " : Text) ++ roleField ++ ("." : Text))
      "policy_denied" "skill_execution_roles_invalid")

/-- The names that are assigned more than once, sorted. -/
def duplicateAssignments (roleAssignments : List Text) : List Text :=
  (roleAssignments.eraseDups.filter fun skillName =>
    1 < roleAssignments.count skillName).insertionSort
    (· ≤ ·)

/-- `_validate_skill_execution_roles`. -/
def validateSkillExecutionRoles (selectedSkills : List Text) (selection : RuntimeSkillSelection) :
    Check Unit := do
  let roleAssignments :=
    selection.runtimeSkills ++ selection.nonRuntimeSkills ++ selection.sharedSkills
  let unselected := Json.missing roleAssignments selectedSkills
  Check.denyIf (!unselected.isEmpty)
    (("Skill execution roles include unselected skills: " : Text) ++ Json.join unselected ++
      ("." : Text)) "skill_execution_roles_unselected"
  let missing := Json.missing selectedSkills roleAssignments
  Check.denyIf (!missing.isEmpty)
    (("Selected skills are missing role assignments: " : Text) ++ Json.join missing ++ ("." : Text))
    "skill_execution_roles_missing"
  let duplicates := duplicateAssignments roleAssignments
  Check.denyIf (!duplicates.isEmpty)
    (("Skills cannot be assigned to multiple execution roles: " : Text) ++ Json.join duplicates ++
      ("." : Text)) "skill_execution_roles_overlap"

/-- `_selected_skills_for_runtime`. -/
def selectedSkillsForRuntime (profile : JsonObject) : Check RuntimeSkillSelection :=
  let skillExecutionRoles := (Json.obj profile).item "skill_execution_roles"
  if skillExecutionRoles.isMapping then do
    let runtimeSkills ← roleSkills skillExecutionRoles "runtime_skills"
    let nonRuntimeSkills ← roleSkills skillExecutionRoles "non_runtime_skills"
    let sharedSkills ← roleSkills skillExecutionRoles "shared_skills"
    let selection := { runtimeSkills, nonRuntimeSkills, sharedSkills }
    validateSkillExecutionRoles (selectedSkillNames profile) selection
    return selection
  else
    .ok { runtimeSkills := selectedSkillNames profile, nonRuntimeSkills := [], sharedSkills := [] }

/-- `_required_version_pin`. -/
def requiredVersionPin (profile : JsonObject) (moduleName : Text) : Check Text :=
  match ((Json.obj profile).item "module_versions" (.obj [])).get? moduleName with
  | some version => .ok version.pyStr
  | none => .error (.denied (("Selected skill is not version-pinned: " : Text) ++ moduleName ++
      ("." : Text)) "policy_denied" "selected_skill_version_missing")

/-- `require_module_version`. -/
def RuntimeProfileEnforcer.requireModuleVersion (moduleName expectedVersion : Text) :
    Enforce Unit :=
  check fun profile =>
    let actualVersion := ((Json.obj profile).item "module_versions" (.obj [])).item moduleName
    Check.denyIf (!actualVersion.equal (.str expectedVersion))
      (("Module version mismatch for " : Text) ++ moduleName ++ (": expected " : Text) ++
        expectedVersion ++ (", got " : Text) ++ actualVersion.pyStr ++ ("." : Text))
      "module_version_mismatch"

/-- `_output_contract_for_task_type`. -/
def outputContractForTaskType (profile : JsonObject) : Text :=
  let taskType := ((Json.obj profile).item "task_type" (.str "general-task")).pyStr
  if taskType = ("code-review" : Text) then "review-findings-contract"
  else if taskType = ("research" : Text) then "research-output-contract"
  else if taskType = ("task-execution" : Text) then "task-execution-output-contract"
  else "general-output-contract"

/-- `_aggregate_plans`. -/
def aggregatePlans (plans : List SkillHandlerPlan) : RuntimeSkillPlan where
  strategy := match plans with
    | [plan] => plan.strategy
    | _ => "skill-handler-pipeline"
  outputContract := match (plans.map (·.outputContract)).eraseDups with
    | [outputContract] => outputContract
    | _ => "composite-output-contract"
  actions := plans.flatMap (·.actions)
  skillHandlers := plans.map (·.handlerRef)

namespace SkillHandlerRegistry

/-- A check that does not read the enforcer. -/
def ofCheck {α : Type} (checked : Check α) : Enforce α := check fun _ => checked

/-- The plan of one skill. -/
def skillPlan (registry : SkillHandlerRegistry) (profile : JsonObject) (skillName : Text) :
    Enforce SkillHandlerPlan := do
  requireSkill skillName
  let skillVersion ← ofCheck (requiredVersionPin profile skillName)
  requireModuleVersion skillName skillVersion
  let handler ← ofCheck (registry.resolve skillName skillVersion)
  return handler.buildPlan profile

/-- `build_plan`. -/
def buildPlan (registry : SkillHandlerRegistry) (profile : JsonObject) :
    Enforce RuntimeSkillPlan := do
  let skillSelection ← ofCheck (selectedSkillsForRuntime profile)
  if skillSelection.executableSkills.isEmpty then
    return {
      strategy := "profile-without-executable-skill"
      outputContract := outputContractForTaskType profile
      actions := []
      skillHandlers := [] }
  let plans ← skillSelection.executableSkills.mapM (registry.skillPlan profile)
  return aggregatePlans plans

end SkillHandlerRegistry

end SkillCentric
