import SkillCentric.Runtime.SkillHandlers

/-!
# Skill plans

A plan acts through the handlers of the skills that the profile assigns to the runtime or the shared
role, in that order, each in the version that the profile pins.
-/

namespace SkillCentric

namespace SkillPlans

open RuntimeProfileEnforcer SkillHandlerRegistry Stateful

variable {registry : SkillHandlerRegistry} {profile : JsonObject}
  {enforcer : RuntimeProfileEnforcer}

def listedFor (roles : Json) (role : Text) : List Text :=
  match roles.get? role with
  | some (.arr skills) => skills.map Json.pyStr
  | _ => []

def assignedTo (profile : JsonObject) (role : Text) : List Text :=
  listedFor ((Json.obj profile).item "skill_execution_roles") role

/-- The profile gives its skills roles. -/
def GivesRoles (profile : JsonObject) : Prop :=
  ((Json.obj profile).item "skill_execution_roles").isMapping = true

instance : Decidable (GivesRoles profile) := inferInstanceAs (Decidable (_ = true))

def actingSkills (profile : JsonObject) : List Text :=
  if GivesRoles profile then
    assignedTo profile "runtime_skills" ++ assignedTo profile "shared_skills"
  else selectedSkillNames profile

/-- A skill acts through a handler. -/
structure Acts (registry : SkillHandlerRegistry) (profile : JsonObject) (skill : Text)
    (handler : SkillHandler) : Prop where
  selected :
    ∃ skills, (Json.obj profile).item "skills" (.arr []) = .arr skills ∧ .str skill ∈ skills
  pinned : ((Json.obj profile).item "module_versions" (.obj [])).get? skill =
    some (.str handler.skillVersion)
  registered : registry.handlerFor skill handler.skillVersion = some handler
  named : handler.skillName = skill

/-- The roles share out the selected skills: each has one role, and no other skill has any. -/
structure SharesOut (profile : JsonObject) : Prop where
  once : (assignedTo profile "runtime_skills" ++ assignedTo profile "non_runtime_skills" ++
    assignedTo profile "shared_skills").Nodup
  selected : ∀ skill, skill ∈ assignedTo profile "runtime_skills" ++
    assignedTo profile "non_runtime_skills" ++ assignedTo profile "shared_skills" ↔
      skill ∈ selectedSkillNames profile

/-- What a plan is derived from. -/
structure Derived (registry : SkillHandlerRegistry) (profile : JsonObject)
    (plan : RuntimeSkillPlan) :
    Prop where
  actions : ∃ handlers, List.Forall₂ (Acts registry profile) (actingSkills profile) handlers ∧
    plan.actions = handlers.flatMap (·.buildActions profile)
  roles : GivesRoles profile → SharesOut profile ∧
    ∀ skill ∈ assignedTo profile "non_runtime_skills", skill ∉ actingSkills profile

/-- A policy denial. -/
def IsDenial (error : EnforcerError) : Prop :=
  ∃ message stopReason code, error = .denied message stopReason code

theorem isDenial_denied (message stopReason code : Text) :
    IsDenial (.denied message stopReason code) := ⟨message, stopReason, code, rfl⟩

/-- The check raises nothing but denials. -/
def OnlyDenials {α : Type} (checked : Check α) : Prop :=
  ∀ error, checked = .error error → IsDenial error

namespace OnlyDenials

variable {α β : Type} {first : Check α} {next : α → Check β}

theorem ok (value : α) : OnlyDenials (.ok value) := nofun

theorem denied (message stopReason code : Text) :
    OnlyDenials (.error (.denied message stopReason code) : Check α) := by
  rintro _ ⟨⟩
  exact isDenial_denied message stopReason code

theorem denyIf (condition : Bool) (message code : Text) :
    OnlyDenials (Check.denyIf condition message code) := by
  cases condition with
  | true => exact denied _ _ _
  | false => exact ok _

theorem bind (before : OnlyDenials first)
    (after : ∀ value, first = .ok value → OnlyDenials (next value)) :
    OnlyDenials (first >>= next) := by
  cases outcome : first with
  | error error =>
      rintro _ ⟨⟩
      exact before error outcome
  | ok value => exact after value outcome

theorem mapM {f : α → Check β} {values : List α} (each : ∀ value ∈ values, OnlyDenials (f value)) :
    OnlyDenials (values.mapM f) := by
  induction values with
  | nil => exact ok _
  | cons value rest ih =>
      rw [List.mapM_cons]
      refine (each value List.mem_cons_self).bind fun _ _ => ?_
      refine (ih fun other listed => each other (List.mem_cons_of_mem _ listed)).bind ?_
      exact fun _ _ => ok _

end OnlyDenials

theorem roleSkills_onlyDenials (roles : Json) (role : Text) :
    OnlyDenials (roleSkills roles role) := by
  unfold roleSkills
  cases roles.item role (.arr []) with
  | arr values => exact .ok _
  | _ => exact .denied _ _ _

theorem roleSkills_ok {roles : Json} {role : Text} {skills : List Text}
    (listed : roleSkills roles role = .ok skills) : skills = listedFor roles role := by
  unfold roleSkills Json.item at listed
  unfold listedFor
  cases stored : roles.get? role with
  | none =>
      rw [stored] at listed
      cases listed
      rfl
  | some value =>
      rw [stored] at listed
      cases value with
      | arr values =>
          cases listed
          rfl
      | _ => cases listed

theorem duplicateAssignments_eq_nil {assignments : List Text} :
    duplicateAssignments assignments = [] ↔ assignments.Nodup := by
  have sorted : duplicateAssignments assignments = [] ↔
      (assignments.eraseDups.filter fun name => 1 < assignments.count name) = [] := by
    rw [duplicateAssignments, ← List.length_eq_zero_iff, List.length_insertionSort,
      List.length_eq_zero_iff]
  rw [sorted, List.filter_eq_nil_iff, List.nodup_iff_count_le_one]
  simp only [List.mem_eraseDups, decide_eq_true_eq, not_lt]
  refine ⟨fun once name => ?_, fun once name _ => once name⟩
  by_cases listed : name ∈ assignments
  · exact once name listed
  · rw [List.count_eq_zero_of_not_mem listed]
    exact Nat.zero_le 1

theorem validateSkillExecutionRoles_ok {selected : List Text} {selection : RuntimeSkillSelection}
    {value : Unit} :
    validateSkillExecutionRoles selected selection = .ok value ↔
      let assignments :=
        selection.runtimeSkills ++ selection.nonRuntimeSkills ++ selection.sharedSkills
      assignments.Nodup ∧ ∀ skill, skill ∈ assignments ↔ skill ∈ selected := by
  simp only [validateSkillExecutionRoles, bind_eq_ok, Check.denyIf_eq_ok, Bool.not_eq_false',
    List.isEmpty_iff, exists_const, Json.missing_eq_nil, duplicateAssignments_eq_nil]
  constructor
  · rintro ⟨within, all, once⟩
    exact ⟨once, fun skill => ⟨within skill, all skill⟩⟩
  · rintro ⟨once, same⟩
    exact ⟨fun skill => (same skill).mp, fun skill => (same skill).mpr, once⟩

theorem selectedSkillsForRuntime_onlyDenials (profile : JsonObject) :
    OnlyDenials (selectedSkillsForRuntime profile) := by
  unfold selectedSkillsForRuntime
  simp only
  split_ifs
  · refine (roleSkills_onlyDenials _ _).bind fun _ _ => (roleSkills_onlyDenials _ _).bind fun _ _ =>
      (roleSkills_onlyDenials _ _).bind fun _ _ => .bind ?_ fun _ _ => .ok _
    exact (OnlyDenials.denyIf _ _ _).bind fun _ _ => (OnlyDenials.denyIf _ _ _).bind fun _ _ =>
      .denyIf _ _ _
  · exact .ok _

theorem selectedSkillsForRuntime_ok {selection : RuntimeSkillSelection}
    (selects : selectedSkillsForRuntime profile = .ok selection) :
    selection.executableSkills = actingSkills profile ∧
      (GivesRoles profile → SharesOut profile) := by
  unfold selectedSkillsForRuntime at selects
  simp only at selects
  split_ifs at selects with given
  · obtain ⟨runtime, runtime_listed, selects⟩ := bind_eq_ok.mp selects
    obtain ⟨nonRuntime, nonRuntime_listed, selects⟩ := bind_eq_ok.mp selects
    obtain ⟨shared, shared_listed, selects⟩ := bind_eq_ok.mp selects
    obtain ⟨_, valid, selects⟩ := bind_eq_ok.mp selects
    obtain rfl := roleSkills_ok runtime_listed
    obtain rfl := roleSkills_ok nonRuntime_listed
    obtain rfl := roleSkills_ok shared_listed
    cases selects
    obtain ⟨once, same⟩ := validateSkillExecutionRoles_ok.mp valid
    have roles : GivesRoles profile := given
    rw [actingSkills, if_pos roles]
    exact ⟨rfl, fun _ => ⟨once, same⟩⟩
  · cases selects
    have no_roles : ¬GivesRoles profile := given
    rw [actingSkills, if_neg no_roles]
    exact ⟨List.append_nil _, fun roles => (no_roles roles).elim⟩

theorem SharesOut.nonRuntime (shares : SharesOut profile) (roles : GivesRoles profile) :
    ∀ skill ∈ assignedTo profile "non_runtime_skills", skill ∉ actingSkills profile := by
  intro skill outside acting
  rw [actingSkills, if_pos roles] at acting
  obtain ⟨front, -, apart⟩ := List.nodup_append.mp shares.once
  obtain ⟨-, -, apart_runtime⟩ := List.nodup_append.mp front
  rcases List.mem_append.mp acting with runtime | shared
  · exact apart_runtime skill runtime skill outside rfl
  · exact apart skill (List.mem_append_right _ outside) skill shared rfl

/-- The operation answers as the check does, and changes nothing. -/
def Answers {α : Type} (op : Enforce α) (enforcer : RuntimeProfileEnforcer) (checked : Check α) :
    Prop :=
  perform op enforcer = (checked, enforcer)

namespace Answers

variable {α β : Type}

theorem check (checked : JsonObject → Check α) (enforcer : RuntimeProfileEnforcer) :
    Answers (RuntimeProfileEnforcer.check checked) enforcer (checked enforcer.profile) := rfl

theorem bind {first : Enforce α} {next : α → Enforce β} {checked : Check α} {rest : α → Check β}
    (before : Answers first enforcer checked)
    (after : ∀ value, Answers (next value) enforcer (rest value)) :
    Answers (first >>= next) enforcer (checked >>= rest) := by
  unfold Answers
  rw [perform_bind, before]
  cases checked with
  | error error => rfl
  | ok value => exact after value

theorem mapM {f : α → Enforce β} {g : α → Check β} (values : List α)
    (each : ∀ value, Answers (f value) enforcer (g value)) :
    Answers (values.mapM f) enforcer (values.mapM g) := by
  induction values with
  | nil => rfl
  | cons value rest ih =>
      rw [List.mapM_cons, List.mapM_cons]
      exact (each value).bind fun _ => ih.bind fun _ => rfl

end Answers

/-- What `require_skill` checks. -/
def allowedSkill (profile : JsonObject) (skill : Text) : Check Unit := do
  let present ← Check.lift (((Json.obj profile).item "skills" (.arr [])).contains skill)
  Check.denyIf (!present)
    (("Skill" : Text) ++ (" is not allowed by runtime profile: " : Text) ++ skill)
    "skill_not_in_runtime_profile"

/-- What `require_module_version` checks. -/
def pinnedVersion (profile : JsonObject) (skill version : Text) : Check Unit :=
  let actual := ((Json.obj profile).item "module_versions" (.obj [])).item skill
  Check.denyIf (!actual.equal (.str version))
    (("Module version mismatch for " : Text) ++ skill ++ (": expected " : Text) ++ version ++
      (", got " : Text) ++ actual.pyStr ++ ("." : Text)) "module_version_mismatch"

def planned (registry : SkillHandlerRegistry) (profile : JsonObject) (skill : Text) :
    Check SkillHandlerPlan := do
  allowedSkill profile skill
  let version ← requiredVersionPin profile skill
  pinnedVersion profile skill version
  let handler ← registry.resolve skill version
  return handler.buildPlan profile

theorem skillPlan_answers (registry : SkillHandlerRegistry) (enforcer : RuntimeProfileEnforcer)
    (skill : Text) :
    Answers (registry.skillPlan enforcer.profile skill) enforcer
      (planned registry enforcer.profile skill) := by
  refine (Answers.check (fun profile => allowedSkill profile skill) enforcer).bind fun _ => ?_
  refine (Answers.check (fun _ => requiredVersionPin enforcer.profile skill) enforcer).bind ?_
  intro version
  refine (Answers.check (fun profile => pinnedVersion profile skill version) enforcer).bind
    fun _ => ?_
  refine (Answers.check (fun _ => registry.resolve skill version) enforcer).bind fun _ => ?_
  rfl

theorem requiredVersionPin_onlyDenials (profile : JsonObject) (skill : Text) :
    OnlyDenials (requiredVersionPin profile skill) := by
  unfold requiredVersionPin
  cases ((Json.obj profile).item "module_versions" (.obj [])).get? skill with
  | some version => exact .ok _
  | none => exact .denied _ _ _

theorem resolve_onlyDenials (registry : SkillHandlerRegistry) (skill version : Text) :
    OnlyDenials (registry.resolve skill version) := by
  unfold SkillHandlerRegistry.resolve
  cases registry.handlerFor skill version with
  | some handler => exact .ok _
  | none =>
      simp only
      split_ifs
      · exact .denied _ _ _
      · exact .denied _ _ _

theorem resolve_ok {skill version : Text} {handler : SkillHandler}
    (resolved : registry.resolve skill version = .ok handler) :
    registry.handlerFor skill version = some handler := by
  unfold SkillHandlerRegistry.resolve at resolved
  cases found : registry.handlerFor skill version with
  | some other =>
      rw [found] at resolved
      cases resolved
      rfl
  | none =>
      rw [found] at resolved
      simp only at resolved
      split_ifs at resolved

theorem planned_ok {skill : Text} {plan : SkillHandlerPlan}
    (skills_listed : skill ∈ selectedSkillNames profile)
    (plans : planned registry profile skill = .ok plan) :
    ∃ handler, Acts registry profile skill handler ∧ plan = handler.buildPlan profile := by
  obtain ⟨_, allowed, plans⟩ := bind_eq_ok.mp plans
  obtain ⟨version, required, plans⟩ := bind_eq_ok.mp plans
  obtain ⟨_, pinned, plans⟩ := bind_eq_ok.mp plans
  obtain ⟨handler, resolved, plans⟩ := bind_eq_ok.mp plans
  cases plans
  have registered := resolve_ok resolved
  obtain ⟨rfl, rfl⟩ := Prod.mk.inj (registry.keyed _ _ registered)
  refine ⟨handler, ⟨?_, ?_, registered, rfl⟩, rfl⟩
  · have present := Check.lift_then_deny.mp allowed
    unfold selectedSkillNames at skills_listed
    cases listed : (Json.obj profile).item "skills" (.arr []) with
    | arr skills =>
        rw [listed] at present
        exact ⟨skills, rfl, (Json.contains_arr _ _).mp present⟩
    | _ =>
        rw [listed] at skills_listed
        cases skills_listed
  · rw [pinnedVersion, Check.denyIf_eq_ok, Bool.not_eq_false', Json.equal_str, Json.item] at pinned
    unfold requiredVersionPin at required
    cases stored : ((Json.obj profile).item "module_versions" (.obj [])).get? handler.skillName with
    | none =>
        rw [stored] at required
        cases required
    | some value =>
        rw [stored] at pinned
        exact congrArg some pinned

theorem planned_onlyDenials {skill : Text} (skills_listed : skill ∈ selectedSkillNames profile) :
    OnlyDenials (planned registry profile skill) := by
  refine OnlyDenials.bind ?_ fun _ _ => (requiredVersionPin_onlyDenials _ _).bind fun _ _ =>
    (OnlyDenials.denyIf _ _ _).bind fun _ _ => (resolve_onlyDenials _ _ _).bind fun _ _ => .ok _
  unfold selectedSkillNames at skills_listed
  unfold allowedSkill
  cases listed : (Json.obj profile).item "skills" (.arr []) with
  | arr skills => exact OnlyDenials.bind (.ok _) fun _ _ => .denyIf _ _ _
  | _ =>
      rw [listed] at skills_listed
      cases skills_listed

theorem mapM_planned_ok {skills : List Text} {plans : List SkillHandlerPlan}
    (within : ∀ skill ∈ skills, skill ∈ selectedSkillNames profile)
    (passed : skills.mapM (planned registry profile) = .ok plans) :
    ∃ handlers, List.Forall₂ (Acts registry profile) skills handlers ∧
      plans = handlers.map (·.buildPlan profile) := by
  induction skills generalizing plans with
  | nil =>
      cases passed
      exact ⟨[], .nil, rfl⟩
  | cons skill rest ih =>
      rw [List.mapM_cons] at passed
      obtain ⟨plan, first, passed⟩ := bind_eq_ok.mp passed
      obtain ⟨others, later, passed⟩ := bind_eq_ok.mp passed
      cases passed
      obtain ⟨handler, acts, rfl⟩ := planned_ok (within skill List.mem_cons_self) first
      obtain ⟨handlers, others_act, rfl⟩ :=
        ih (fun other listed => within other (List.mem_cons_of_mem _ listed)) later
      exact ⟨handler :: handlers, .cons acts others_act, rfl⟩

theorem actingSkills_selected (shares : GivesRoles profile → SharesOut profile) :
    ∀ skill ∈ actingSkills profile, skill ∈ selectedSkillNames profile := by
  intro skill acting
  unfold actingSkills at acting
  split_ifs at acting with roles
  · refine ((shares roles).selected skill).mp ?_
    rcases List.mem_append.mp acting with runtime | shared
    · exact List.mem_append_left _ (List.mem_append_left _ runtime)
    · exact List.mem_append_right _ shared
  · exact acting

def plannedAll (registry : SkillHandlerRegistry) (profile : JsonObject) :
    Check RuntimeSkillPlan := do
  let selection ← selectedSkillsForRuntime profile
  if selection.executableSkills.isEmpty then
    return {
      strategy := "profile-without-executable-skill"
      outputContract := outputContractForTaskType profile
      actions := []
      skillHandlers := [] }
  let plans ← selection.executableSkills.mapM (planned registry profile)
  return aggregatePlans plans

theorem buildPlan_answers (registry : SkillHandlerRegistry) (enforcer : RuntimeProfileEnforcer) :
    Answers (registry.buildPlan enforcer.profile) enforcer
      (plannedAll registry enforcer.profile) := by
  refine (Answers.check (fun _ => selectedSkillsForRuntime enforcer.profile) enforcer).bind ?_
  intro selection
  split_ifs
  · rfl
  · refine (Answers.mapM _ fun skill => skillPlan_answers registry enforcer skill).bind fun _ => ?_
    rfl

/-- `build_plan` denies, or it acts through the handlers of the acting skills. -/
theorem skill_plan_derivation (registry : SkillHandlerRegistry)
    (enforcer : RuntimeProfileEnforcer) :
    (∃ error, perform (registry.buildPlan enforcer.profile) enforcer = (.error error, enforcer) ∧
      IsDenial error) ∨
    ∃ plan, perform (registry.buildPlan enforcer.profile) enforcer = (.ok plan, enforcer) ∧
      Derived registry enforcer.profile plan := by
  rw [buildPlan_answers registry enforcer, plannedAll]
  cases selects : selectedSkillsForRuntime enforcer.profile with
  | error error =>
      exact .inl ⟨error, rfl, selectedSkillsForRuntime_onlyDenials _ error selects⟩
  | ok selection =>
      obtain ⟨executable, shares⟩ := selectedSkillsForRuntime_ok selects
      have within := actingSkills_selected shares
      have roles : GivesRoles enforcer.profile → SharesOut enforcer.profile ∧
          ∀ skill ∈ assignedTo enforcer.profile "non_runtime_skills",
            skill ∉ actingSkills enforcer.profile :=
        fun given => ⟨shares given, (shares given).nonRuntime given⟩
      simp only [bind, Except.bind, executable]
      by_cases idle : (actingSkills enforcer.profile).isEmpty = true
      · rw [if_pos idle]
        rw [List.isEmpty_iff] at idle
        exact .inr ⟨_, rfl, ⟨[], by rw [idle]; exact .nil, rfl⟩, roles⟩
      · rw [if_neg idle]
        cases passed : (actingSkills enforcer.profile).mapM (planned registry enforcer.profile) with
        | error error =>
            refine .inl ⟨error, rfl, ?_⟩
            exact OnlyDenials.mapM (fun skill acting => planned_onlyDenials (within skill acting))
              error passed
        | ok plans =>
            obtain ⟨handlers, act, rfl⟩ := mapM_planned_ok within passed
            refine .inr ⟨_, rfl, ⟨handlers, act, ?_⟩, roles⟩
            simp [aggregatePlans, List.flatMap_map, SkillHandler.buildPlan]

end SkillPlans

end SkillCentric
