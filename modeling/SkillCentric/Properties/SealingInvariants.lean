import SkillCentric.Properties.ComposerAgreement
import SkillCentric.Runtime.InvariantAssertions

/-!
# Sealing invariants of composed profiles

The sealing assertions are checked over what the composer builds.  Version pins, execution roles,
human review and generation metadata hold by construction; two findings remain: the composer never
asks for the validator of the task type, and it accepts an empty parent identifier.
-/

namespace SkillCentric

open RuntimeProfileComposer InvariantAssertions Stateful

namespace SealingInvariants

/-- Nothing else than the context response selects the validator of the task type. -/
def ValidatorSelected (task : TaskAnalysis) (context : JsonObject) : Prop :=
  task.requiresHumanReview = true ∨ ∀ required, requiredValidator task.taskType = some required →
    required ∈ names (references context "validation_requirements")

section Values

theorem mem_stringSet_texts {values : List Text} {text : Text} :
    text ∈ InvariantAssertions.stringSet (texts values) ↔ text ∈ values := by
  have read : (values.map Json.str).filterMap RuntimeProfileEnforcer.textOf? = values := by
    induction values with
    | nil => rfl
    | cons value rest ih =>
        rw [List.map_cons]
        exact congrArg (value :: ·) ih
  rw [texts, InvariantAssertions.stringSet, read, List.mem_eraseDups]

theorem missing_texts_eq_nil {requested allowed : List Text} :
    Json.missing requested (InvariantAssertions.stringSet (texts allowed)) = [] ↔
      ∀ text ∈ requested, text ∈ allowed := by
  simp only [Json.missing_eq_nil, mem_stringSet_texts]

end Values

section Fields

variable {task : TaskAnalysis} {context : JsonObject} {generation : Int}
  {parentProfileId recompositionReason : Option Text} {authority skillRoles : Json}
  {selected : Selection} {versions : JsonObject}

abbrev built (task : TaskAnalysis) (generation : Int) (parentProfileId recompositionReason :
    Option Text) (authority skillRoles : Json) (selected : Selection) (versions : JsonObject) :
    Json :=
  .obj (profileFields task generation parentProfileId recompositionReason authority skillRoles
    selected versions)

theorem mem_fields {name : Text} :
    (∃ key ∈ profileSelectionFields, name ∈ selected.field key) ↔ name ∈ selected.all := by
  have joined : profileSelectionFields.flatMap selected.field = selected.all := by
    change selected.instructions ++
      (selected.skills ++ (selected.tools ++ (selected.knowledgeScopes ++
      (selected.dataScopes ++ (selected.memoryScopes ++ (selected.policies ++
        (selected.validators ++ []))))))) = _
    simp only [Selection.all, List.append_assoc, List.append_nil]
  rw [← joined, List.mem_flatMap]

theorem selectedModules_built {name : Text} :
    name ∈ InvariantAssertions.selectedModules (built task generation parentProfileId
      recompositionReason authority skillRoles selected versions) ↔ name ∈ selected.all := by
  have field : ∀ key ∈ profileSelectionFields,
      (built task generation parentProfileId recompositionReason authority skillRoles selected
        versions).item key = texts (selected.field key) := by
    intro key known
    simp only [profileSelectionFields, List.mem_cons, List.not_mem_nil, or_false] at known
    rcases known with rfl | rfl | rfl | rfl | rfl | rfl | rfl | rfl <;> rfl
  rw [mem_selectedModules]
  rw [← mem_fields]
  refine exists_congr fun key => and_congr_right fun known => ?_
  rw [field key known, mem_stringSet_texts]

theorem pins_of_built (pinned : moduleVersions task context selected.all.eraseDups = .ok versions) :
    assertFailClosedOnUnknowns (built task generation parentProfileId recompositionReason authority
      skillRoles selected versions) = [] := by
  have keys := ComposerAgreement.keys_of_moduleVersions pinned
  have read : (built task generation parentProfileId recompositionReason authority skillRoles
      selected versions).item "module_versions" = .obj versions := rfl
  rw [assertFailClosedOnUnknowns, read]
  simp only [List.append_eq_nil_iff, findingOf_eq_nil, Json.missing_eq_nil, keys,
    List.mem_eraseDups, selectedModules_built]
  exact ⟨fun _ => id, fun _ => id⟩

theorem humanReviewRequired_built :
    humanReviewRequired (built task generation parentProfileId recompositionReason authority
      skillRoles selected versions) = task.requiresHumanReview := by
  change decide (Json.bool task.requiresHumanReview = .bool true) = _
  cases task.requiresHumanReview <;> rfl

theorem validators_of_built (schema : ("runtime-profile-schema" : Text) ∈ selected.validators) :
    assertMandatoryValidatorsPerChangeType (built task generation parentProfileId
      recompositionReason authority skillRoles selected versions) = [] ↔
    task.requiresHumanReview = true ∨ ∀ required, requiredValidator task.taskType = some required →
      required ∈ selected.validators := by
  have validators : (built task generation parentProfileId recompositionReason authority skillRoles
      selected versions).item "validators" = texts selected.validators := rfl
  have taskType : (built task generation parentProfileId recompositionReason authority skillRoles
      selected versions).item "task_type" (.str []) = .str task.taskType := rfl
  have member : ∀ name, (InvariantAssertions.stringSet (texts selected.validators)).contains name =
      decide (name ∈ selected.validators) := by
    intro name
    simp [mem_stringSet_texts]
  simp only [assertMandatoryValidatorsPerChangeType, validators, taskType,
    humanReviewRequired_built, member,
    Json.pyStr, schema, decide_true, Bool.not_true, List.append_eq_nil_iff, findingIf_eq_nil,
    true_and]
  cases requiredValidator task.taskType with
  | none => simp
  | some required =>
      simp only [findingIf_eq_nil, Option.some.injEq, forall_eq']
      cases task.requiresHumanReview <;> simp

theorem generation_of_built
    (traced : assertRecompositionTraceability generation parentProfileId recompositionReason =
      .ok ()) :
    assertImmutableProfileAfterSeal (built task generation parentProfileId recompositionReason
      authority skillRoles selected versions) = [] ↔ parentProfileId ≠ some [] := by
  have generation_read : (built task generation parentProfileId recompositionReason authority
      skillRoles selected versions).item "profile_generation" = .int generation := rfl
  have parent_read : (built task generation parentProfileId recompositionReason authority
      skillRoles selected versions).item "parent_profile_id" =
        RuntimeProfile.optional parentProfileId := rfl
  have reason_read : (built task generation parentProfileId recompositionReason authority
      skillRoles selected versions).item "recomposition_reason" =
        RuntimeProfile.optional recompositionReason := rfl
  rw [assertImmutableProfileAfterSeal, generation_read, parent_read, reason_read]
  obtain ⟨_, positive, traced⟩ := bind_eq_ok.mp traced
  have at_least_one : 1 ≤ generation := by
    have below := raiseIf_eq_ok.mp positive
    simp only [decide_eq_false_iff_not] at below
    omega
  have read : (integer? (.int generation)).filter (1 ≤ ·) = some generation := by
    simp [integer?, at_least_one]
  rw [read]
  dsimp only
  split_ifs at traced ⊢ with first
  · have absent : parentProfileId = none ∧ recompositionReason = none := by
      have both := raiseIf_eq_ok.mp traced
      cases parentProfileId <;> cases recompositionReason <;> simp_all
    rw [findingIf_eq_nil, absent.1, absent.2]
    exact iff_of_true rfl nofun
  · rw [findingIf_eq_nil]
    cases parentProfileId with
    | none => cases traced
    | some parent =>
        cases recompositionReason with
        | none => cases traced
        | some reason =>
            have listed : recompositionReasons.contains reason = true := by
              have unlisted := raiseIf_eq_ok.mp traced
              simpa only [Bool.not_eq_false'] using unlisted
            have reason_ne : reason ≠ [] := by
              rintro rfl
              exact absurd listed (by decide)
            simp [RuntimeProfile.optional, Json.truthy, reason_ne]

theorem roles_of_built {runtime shared others : List Text}
    (roles : skillRoles = .obj [("runtime_skills", texts runtime),
      ("non_runtime_skills", texts others), ("shared_skills", texts shared)])
    (routed : ∀ skill ∈ runtime ++ shared, skill ∈ selected.skills)
    (reviewed : task.requiresHumanReview = true → selected.skills = [] ∧ selected.tools = [] ∧
      selected.knowledgeScopes = [] ∧ selected.dataScopes = [] ∧ selected.memoryScopes = []) :
    assertNoSelfGranting (built task generation parentProfileId recompositionReason authority
      skillRoles selected versions) = [] := by
  have read : (built task generation parentProfileId recompositionReason authority skillRoles
      selected versions).item "skill_execution_roles" = .obj [("runtime_skills", texts runtime),
        ("non_runtime_skills", texts others), ("shared_skills", texts shared)] := roles
  rw [assertNoSelfGranting, read]
  simp only [List.append_eq_nil_iff, findingOf_eq_nil, List.flatMap_eq_nil_iff, findingIf_eq_nil]
  constructor
  · refine missing_texts_eq_nil.mpr fun skill member => routed skill ?_
    rcases List.mem_append.mp member with found | found
    · exact List.mem_append_left _ (mem_stringSet_texts.mp found)
    · exact List.mem_append_right _ (mem_stringSet_texts.mp found)
  · intro field known
    rw [humanReviewRequired_built]
    cases review : task.requiresHumanReview with
    | false => rfl
    | true =>
        obtain ⟨skills, tools, knowledge, data, memory⟩ := reviewed review
        have empty : (built task generation parentProfileId recompositionReason authority
            skillRoles selected versions).item field = texts [] := by
          simp only [List.mem_cons, List.not_mem_nil, or_false] at known
          rcases known with rfl | rfl | rfl | rfl | rfl
          · exact congrArg texts skills
          · exact congrArg texts tools
          · exact congrArg texts knowledge
          · exact congrArg texts data
          · exact congrArg texts memory
        rw [empty]
        rfl

end Fields

section Composed

variable {task : TaskAnalysis} {context : JsonObject} {generation : Int}
  {parentProfileId recompositionReason : Option Text} {profile : JsonObject}

theorem routed_of_skillExecutionRoles {candidates : List Json} {skills : List Text} {roles : Json}
    (made : skillExecutionRoles candidates skills = .ok roles) :
    ∃ runtime others shared, roles = .obj [("runtime_skills", texts runtime),
        ("non_runtime_skills", texts others), ("shared_skills", texts shared)] ∧
      ∀ skill ∈ runtime ++ shared, skill ∈ skills := by
  obtain ⟨_, -, made⟩ := bind_eq_ok.mp made
  cases made
  refine ⟨_, _, _, rfl, fun skill member => ?_⟩
  rcases List.mem_append.mp member with found | found
  · exact List.mem_of_mem_filter found
  · exact List.mem_of_mem_filter found

theorem built_of_compose
    (composed : compose task context generation parentProfileId recompositionReason = .ok profile) :
    ∃ authority skillRoles versions runtime others shared,
      .obj profile = built task generation parentProfileId recompositionReason authority skillRoles
        (selection task context) versions ∧
      assertRecompositionTraceability generation parentProfileId recompositionReason = .ok () ∧
      moduleVersions task context (selection task context).all.eraseDups = .ok versions ∧
      skillRoles = .obj [("runtime_skills", texts runtime),
        ("non_runtime_skills", texts others), ("shared_skills", texts shared)] ∧
      ∀ skill ∈ runtime ++ shared, skill ∈ (selection task context).skills := by
  obtain ⟨_, traced, composed⟩ := bind_eq_ok.mp composed
  obtain ⟨_, -, composed⟩ := bind_eq_ok.mp composed
  by_cases review : task.requiresHumanReview = true
  · rw [if_pos review] at composed
    obtain ⟨_, -, composed⟩ := bind_eq_ok.mp composed
    obtain ⟨authority, -, composed⟩ := bind_eq_ok.mp composed
    obtain ⟨versions, pinned, composed⟩ := bind_eq_ok.mp composed
    obtain ⟨_, -, composed⟩ := bind_eq_ok.mp composed
    exact ⟨authority, _, versions, [], [], [], congrArg Json.obj (Except.ok.inj composed).symm,
      traced, pinned, rfl, nofun⟩
  · rw [if_neg review] at composed
    obtain ⟨skillRoles, made, composed⟩ := bind_eq_ok.mp composed
    obtain ⟨_, -, composed⟩ := bind_eq_ok.mp composed
    obtain ⟨_, -, composed⟩ := bind_eq_ok.mp composed
    obtain ⟨authority, -, composed⟩ := bind_eq_ok.mp composed
    obtain ⟨versions, pinned, composed⟩ := bind_eq_ok.mp composed
    obtain ⟨runtime, others, shared, roles, routed⟩ := routed_of_skillExecutionRoles made
    exact ⟨authority, skillRoles, versions, runtime, others, shared,
      congrArg Json.obj (Except.ok.inj composed).symm, traced, pinned, roles, routed⟩

theorem selection_reviewed (review : task.requiresHumanReview = true) :
    (selection task context).skills = [] ∧ (selection task context).tools = [] ∧
      (selection task context).knowledgeScopes = [] ∧ (selection task context).dataScopes = [] ∧
      (selection task context).memoryScopes = [] := by
  simp only [selection, if_pos review, and_self]

theorem schema_selected :
    ("runtime-profile-schema" : Text) ∈ (selection task context).validators := by
  simp only [selection]
  split
  · exact List.mem_singleton.mpr rfl
  · exact List.mem_eraseDups.mpr List.mem_cons_self

theorem validator_selected_iff :
    (task.requiresHumanReview = true ∨ ∀ required,
      requiredValidator task.taskType = some required →
        required ∈ (selection task context).validators) ↔ ValidatorSelected task context := by
  unfold ValidatorSelected
  by_cases review : task.requiresHumanReview = true
  · simp only [review, true_or]
  · simp only [selection, if_neg review, List.mem_eraseDups, List.mem_cons]
    refine or_congr_right (forall_congr' fun required => imp_congr_right fun asked => ?_)
    have other : required ≠ ("runtime-profile-schema" : Text) := by
      obtain ⟨entry, found, rfl⟩ := Option.map_eq_some_iff.mp asked
      have listed := List.mem_of_find?_eq_some found
      revert listed
      simp only [taskTypeValidatorRequirements, List.mem_cons, List.not_mem_nil, or_false]
      rintro (rfl | rfl | rfl | rfl) <;> decide
    simp only [other, false_or]

/-- A composed profile has no sealing finding exactly when the validator of its task type is
selected or a human reviews it, and its parent identifier is not empty. -/
theorem sealing_invariants
    (composed : compose task context generation parentProfileId recompositionReason = .ok profile) :
    assertProfileSealingInvariants (.obj profile) = [] ↔
      ValidatorSelected task context ∧ parentProfileId ≠ some [] := by
  obtain ⟨authority, skillRoles, versions, runtime, others, shared, profile_eq, traced, pinned,
    roles, routed⟩ := built_of_compose composed
  rw [profile_eq, assertProfileSealingInvariants, pins_of_built pinned,
    roles_of_built roles routed selection_reviewed]
  rw [List.nil_append, List.nil_append, List.append_eq_nil_iff, validators_of_built schema_selected,
    generation_of_built traced, validator_selected_iff]

end Composed

/-- A general task of the global tenant. -/
def sampleTask : TaskAnalysis :=
  { ComposerAgreement.sampleTask with
    authClaims := { ComposerAgreement.sampleTask.authClaims with tenantId := "global" } }

/-- A context response with the given validation requirements. -/
def sampleContext (requirements : List Json) : JsonObject :=
  [("composition_status", .str "ready"), ("graph_validation", .obj [("is_valid", .bool true)]),
    ("candidate_modules", .arr [.obj
      [("name", .str "triage"), ("kind", .str "skill"), ("version", .str "0.1.0")]]),
    ("applicable_policies", .arr [.obj [("name", .str "read-only"), ("version", .str "0.1.0")]]),
    ("validation_requirements", .arr requirements)]

def sampleProfile (requirements : List Json) : JsonObject :=
  (compose sampleTask (sampleContext requirements) 1 none none).toOption.getD []

def generalOutput : Json :=
  .obj [("name", .str "general-output-contract"), ("version", .str "0.1.0")]

theorem sealing_invariants_requirement :
    assertProfileSealingInvariants (.obj (sampleProfile [generalOutput])) = [] := by
  refine (@sealing_invariants sampleTask (sampleContext [generalOutput]) 1 none none _
    (Stateful.eq_ok_of_isOk [] (by decide))).mpr ⟨.inr fun required asked => ?_, nofun⟩
  have general : requiredValidator sampleTask.taskType = some "general-output-contract" := by
    decide
  obtain rfl := Option.some.inj (general.symm.trans asked)
  exact List.mem_singleton.mpr rfl

/-- Without requirements in the response the validator of the task type is missing. -/
theorem validator_missing :
    ¬∀ (task : TaskAnalysis) (context : JsonObject) (generation : Int)
      (parentProfileId recompositionReason : Option Text) (profile : JsonObject),
      compose task context generation parentProfileId recompositionReason = .ok profile →
      assertProfileSealingInvariants (.obj profile) = [] := by
  intro holds
  have findings := holds sampleTask (sampleContext []) 1 none none (sampleProfile [])
    (Stateful.eq_ok_of_isOk [] (by decide))
  revert findings
  decide

end SealingInvariants

end SkillCentric
