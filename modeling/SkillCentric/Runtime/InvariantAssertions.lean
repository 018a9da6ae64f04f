import SkillCentric.Runtime.Enforcement

/-!
# Profile sealing assertions

`assert_profile_sealing_invariants`: the findings of four checks over a profile of any shape.
-/

namespace SkillCentric

/-- `InvariantFinding`. -/
structure InvariantFinding where
  invariantId : Text
  message : Text
  deriving DecidableEq

namespace InvariantAssertions

open RuntimeProfileEnforcer (textOf?)

/-- `PROFILE_SELECTION_FIELDS`. -/
def profileSelectionFields : List Text :=
  ["instructions", "skills", "tools", "knowledge_scopes", "data_scopes", "memory_scopes",
    "policies", "validators"]

/-- `TASK_TYPE_VALIDATOR_REQUIREMENTS`. -/
def taskTypeValidatorRequirements : List (Text × Text) :=
  [("code-review", "review-findings-contract"), ("research", "research-output-contract"),
    ("task-execution", "task-execution-output-contract"),
    ("general-task", "general-output-contract")]

/-- `TASK_TYPE_VALIDATOR_REQUIREMENTS.get(task_type)`. -/
def requiredValidator (taskType : Text) : Option Text :=
  (taskTypeValidatorRequirements.find? fun entry => entry.1 = taskType).map Prod.snd

/-- `_string_set`: only the strings of a list. -/
def stringSet : Json → List Text
  | .arr items => (items.filterMap textOf?).eraseDups
  | _ => []

/-- `_selected_modules`. -/
def selectedModules (profile : Json) : List Text :=
  (profileSelectionFields.flatMap fun field => stringSet (profile.item field)).eraseDups

/-- A finding, when the condition holds. -/
def findingIf (condition : Bool) (invariantId message : Text) : List InvariantFinding :=
  if condition then [⟨invariantId, message⟩] else []

/-- A finding that lists names, when there are any. -/
def findingOf (names : List Text) (invariantId message : Text) : List InvariantFinding :=
  findingIf (!names.isEmpty) invariantId (message ++ Json.join names)

/-- `assert_fail_closed_on_unknowns`. -/
def assertFailClosedOnUnknowns (profile : Json) : List InvariantFinding :=
  match profile.item "module_versions" with
  | .obj versions =>
      let versionKeys := versions.map Prod.fst
      findingOf (Json.missing (selectedModules profile) versionKeys) "fail_closed_on_unknowns"
          "missing module version pins for selected modules: " ++
        findingOf (Json.missing versionKeys (selectedModules profile)) "fail_closed_on_unknowns"
          "unexpected module version pins without selection: "
  | _ => [⟨"fail_closed_on_unknowns", "module_versions must be an object with explicit pins."⟩]

/-- `human_review.get("required") is True`. -/
def humanReviewRequired (profile : Json) : Bool :=
  (profile.item "human_review").item "required" = .bool true

/-- `assert_no_self_granting`. -/
def assertNoSelfGranting (profile : Json) : List InvariantFinding :=
  match profile.item "skill_execution_roles" with
  | .obj roleMap =>
      let roles (role : Text) := stringSet ((Json.obj roleMap).item role)
      findingOf (Json.missing (roles "runtime_skills" ++ roles "shared_skills")
          (stringSet (profile.item "skills"))) "no_self_granting"
          "skill_execution_roles references unselected skills: " ++
        (["skills", "tools", "knowledge_scopes", "data_scopes", "memory_scopes"] :
          List Text).flatMap
          fun field => findingIf
            (humanReviewRequired profile && !(stringSet (profile.item field)).isEmpty)
            "no_self_granting"
            (("human-review-required profile must not select " : Text) ++ field ++ ("." : Text))
  | _ => [⟨"no_self_granting",
      "skill_execution_roles must be present for runtime skill enforcement."⟩]

/-- `assert_mandatory_validators_per_change_type`. -/
def assertMandatoryValidatorsPerChangeType (profile : Json) : List InvariantFinding :=
  let validators := stringSet (profile.item "validators")
  let taskType := (profile.item "task_type" (.str [])).pyStr
  findingIf (!validators.contains ("runtime-profile-schema" : Text))
      "mandatory_validators_per_change_type"
      "runtime-profile-schema validator must always be selected." ++
    match requiredValidator taskType with
    | none => []
    | some required => findingIf (!validators.contains required && !humanReviewRequired profile)
        "mandatory_validators_per_change_type"
        (("missing task-type validator for " : Text) ++ taskType ++ (": " : Text) ++ required)

/-- The generation, if it is an integer. -/
def integer? : Json → Option Int
  | .int value => some value
  | .bool value => some (if value then 1 else 0)
  | _ => none

/-- `assert_immutable_profile_after_seal`. -/
def assertImmutableProfileAfterSeal (profile : Json) : List InvariantFinding :=
  let parentProfileId := profile.item "parent_profile_id"
  let recompositionReason := profile.item "recomposition_reason"
  match (integer? (profile.item "profile_generation")).filter (1 ≤ ·) with
  | none => [⟨"immutable_profile_after_seal", "profile_generation must be an integer >= 1."⟩]
  | some generation =>
      if generation = 1 then
        findingIf (parentProfileId ≠ .null || recompositionReason ≠ .null)
          "immutable_profile_after_seal"
          "profile_generation 1 must not set parent_profile_id or recomposition_reason."
      else
        findingIf (!parentProfileId.truthy || !recompositionReason.truthy)
          "immutable_profile_after_seal"
          "recomposed profiles must set parent_profile_id and recomposition_reason."

/-- `assert_profile_sealing_invariants`. -/
def assertProfileSealingInvariants (profile : Json) : List InvariantFinding :=
  assertFailClosedOnUnknowns profile ++ assertNoSelfGranting profile ++
    assertMandatoryValidatorsPerChangeType profile ++ assertImmutableProfileAfterSeal profile

section Findings

variable {condition : Bool} {names : List Text} {invariantId message : Text}

@[simp]
theorem findingIf_eq_nil : findingIf condition invariantId message = [] ↔ condition = false := by
  cases condition <;> simp [findingIf]

@[simp]
theorem findingOf_eq_nil : findingOf names invariantId message = [] ↔ names = [] := by
  simp [findingOf]

theorem mem_selectedModules {profile : Json} {name : Text} :
    name ∈ selectedModules profile ↔
      ∃ field ∈ profileSelectionFields, name ∈ stringSet (profile.item field) := by
  simp [selectedModules, List.mem_eraseDups]

end Findings

end InvariantAssertions

end SkillCentric
