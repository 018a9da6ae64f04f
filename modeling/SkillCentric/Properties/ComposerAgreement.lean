import SkillCentric.Runtime.ProfileComposer

/-!
# Composer and enforcer

The tenant rules are checked twice: over the analyzed task and the context response when a profile
is composed, and over the profile when a run begins.  The two copies accept the same tenants but for
one branch: the composer passes over a data-source grant without an identifier, the enforcer refuses
it.
-/

namespace SkillCentric

open RuntimeProfileComposer RuntimeProfileEnforcer Stateful

namespace ComposerAgreement

/-- Every data-source grant of the roles of the task names its data source. -/
def GrantsNamed (task : TaskAnalysis) (context : JsonObject) : Prop :=
  task.authClaims.tenantId = ("global" : Text) ∨
    ∀ bundles, ((Json.obj context).item "tenant_authority").item "role_bundles" (.arr []) =
      .arr bundles → ∀ roleId ∈ task.authClaims.roles, ∀ role,
        Json.lastById bundles roleId = some role → ∀ grant ∈ dataSourceGrants role,
          ∃ id, grant.item "data_source_id" = .str id

section Values

theorem item_of_str {value : Json} {key text : Text} (default : Json)
    (found : value.item key = .str text) :
    value.item key default = .str text := by
  unfold Json.item at *
  cases got : value.get? key with
  | none =>
      rw [got] at found
      cases found
  | some other =>
      rw [got] at found
      exact found

theorem stringSet_texts (values : List Text) :
    (texts values).stringSet = (values.filter fun text => strip text ≠ []).eraseDups := by
  simp [texts, Json.stringSet, Function.comp_def, Json.pyStr]

theorem mem_of_mem_stringSet_texts {values : List Text} {text : Text}
    (member : text ∈ (texts values).stringSet) : text ∈ values := by
  rw [stringSet_texts, List.mem_eraseDups, List.mem_filter] at member
  exact member.1

end Values

section Composed

variable {task : TaskAnalysis} {context : JsonObject} {generation : Int}
  {parentProfileId recompositionReason : Option Text} {profile : JsonObject}

/-- What a composed profile is made of. -/
structure Composed (task : TaskAnalysis) (context : JsonObject) (generation : Int)
    (parentProfileId recompositionReason : Option Text) (profile : JsonObject) (authority : Json)
    (skillRoles : Json) (versions : JsonObject) : Prop where
  snapshot : tenantAuthoritySnapshot task.authClaims context = .ok authority
  pinned : moduleVersions task context (selection task context).all.eraseDups = .ok versions
  access : TenantAccessValidator.validate task.authClaims context (selection task context).field =
    .ok ()
  fields : profileFields task generation parentProfileId recompositionReason authority skillRoles
    (selection task context) versions = profile

theorem assertTenantAccess_ok {selected : Selection} {value : Unit}
    (returned : assertTenantAccess task context selected = .ok value) :
    TenantAccessValidator.validate task.authClaims context selected.field = .ok () := by
  unfold assertTenantAccess at returned
  cases outcome : TenantAccessValidator.validate task.authClaims context selected.field with
  | ok value => rfl
  | error failure =>
      rw [outcome] at returned
      cases failure with
      | access message => cases returned
      | raised error => cases returned

theorem compose_ok
    (composed : compose task context generation parentProfileId recompositionReason = .ok profile) :
    ∃ authority skillRoles versions, Composed task context generation parentProfileId
      recompositionReason profile authority skillRoles versions := by
  obtain ⟨_, -, composed⟩ := bind_eq_ok.mp composed
  obtain ⟨_, -, composed⟩ := bind_eq_ok.mp composed
  by_cases review : task.requiresHumanReview = true
  · rw [if_pos review] at composed
    obtain ⟨_, -, composed⟩ := bind_eq_ok.mp composed
    obtain ⟨authority, snapshot, composed⟩ := bind_eq_ok.mp composed
    obtain ⟨versions, pinned, composed⟩ := bind_eq_ok.mp composed
    obtain ⟨_, access, composed⟩ := bind_eq_ok.mp composed
    exact ⟨authority, _, versions, snapshot, pinned, assertTenantAccess_ok access,
      Except.ok.inj composed⟩
  · rw [if_neg review] at composed
    obtain ⟨skillRoles, -, composed⟩ := bind_eq_ok.mp composed
    obtain ⟨_, -, composed⟩ := bind_eq_ok.mp composed
    obtain ⟨_, access, composed⟩ := bind_eq_ok.mp composed
    obtain ⟨authority, snapshot, composed⟩ := bind_eq_ok.mp composed
    obtain ⟨versions, pinned, composed⟩ := bind_eq_ok.mp composed
    exact ⟨authority, skillRoles, versions, snapshot, pinned, assertTenantAccess_ok access,
      Except.ok.inj composed⟩

variable {versions : JsonObject} {authority skillRoles : Json}

theorem keys_of_moduleVersions {names : List Text}
    (pinned : moduleVersions task context names = .ok versions) :
    versions.map Prod.fst = names := by
  induction names generalizing versions with
  | nil =>
      cases pinned
      rfl
  | cons name rest ih =>
      obtain ⟨version, -, pinned⟩ := bind_eq_ok.mp pinned
      obtain ⟨others, rest_pinned, returned⟩ := bind_eq_ok.mp pinned
      cases returned
      rw [List.map_cons, ih rest_pinned]

theorem missingVersions_of_pinned {names : List Text}
    (pinned : ∀ name ∈ names,
      ((Json.obj profile).item "module_versions" (.obj [])).contains name = .ok true) :
    missingVersions profile names = .ok [] := by
  induction names with
  | nil => rfl
  | cons name rest ih =>
      rw [missingVersions, pinned name (by simp),
        ih fun other member => pinned other (by simp [member])]
      rfl

section Fields

variable {authority skillRoles : Json} {selected : Selection} {versions : JsonObject}

theorem selectedModules_profileFields :
    selectedModules (profileFields task generation parentProfileId recompositionReason authority
      skillRoles selected versions) = selected.all := by
  have read :
      ∀ values : List Text, (texts values : Json) = .arr (values.map Json.str) := fun _ => rfl
  have back : ∀ values : List Text, (values.map Json.str).map Json.pyStr = values := by
    intro values
    simp [Function.comp_def, Json.pyStr]
  simp [selectedModules, moduleFields, profileFields, Json.item, Json.get?,
    Json.field?, read, back, Selection.all,
    List.append_assoc]

theorem selected_profileFields {field : Text}
    (known : field ∈ moduleFields) :
    RuntimeProfileEnforcer.selected (profileFields task generation parentProfileId
      recompositionReason authority skillRoles selected versions) field =
        (texts (selected.field field)).stringSet := by
  simp only [moduleFields, List.mem_cons, List.not_mem_nil, or_false] at known
  rcases known with rfl | rfl | rfl | rfl | rfl | rfl | rfl | rfl <;> rfl

end Fields

theorem Composed.versions_pinned
    (made : Composed task context generation parentProfileId recompositionReason profile authority
      skillRoles versions) :
    missingVersions profile (selectedModules profile) = .ok [] := by
  refine missingVersions_of_pinned fun name member => ?_
  rw [← made.fields, selectedModules_profileFields] at member
  rw [← made.fields]
  refine (Json.contains_obj versions name).mpr ?_
  rw [keys_of_moduleVersions made.pinned, List.mem_eraseDups]
  exact member

theorem Composed.generation_eq
    (made : Composed task context generation parentProfileId recompositionReason profile authority
      skillRoles versions) :
    profileGeneration profile = .ok generation := by
  rw [← made.fields]
  rfl

theorem Composed.accepted_iff {bound : Int}
    (made : Composed task context generation parentProfileId recompositionReason profile authority
      skillRoles versions)
    (bounded : limit profile "max_recompositions" = .ok bound) (within : generation ≤ bound + 1)
    (nonneg : 0 ≤ bound) :
    validateProfileForRuntime profile = .ok () ↔ validateTenantAuthority profile = .ok () := by
  rw [validateProfileForRuntime_ok]
  constructor
  · exact fun accepted => accepted.2.2
  · intro tenant
    refine ⟨made.versions_pinned, ⟨generation, bound, made.generation_eq, bounded, ?_⟩, tenant⟩
    rw [max_le_iff]
    omega

end Composed

section Tenants

variable {task : TaskAnalysis} {context : JsonObject} {authority : Json} {profile : JsonObject}
  {selected : Selection}

theorem profileRoles_eq
    (membership : TenantAccessValidator.MembershipHolds task.authClaims authority) :
    profileRoles (tenantContext task.authClaims) =
      task.authClaims.roles.eraseDups.insertionSort (· ≤ ·) := by
  have nonblank : ∀ role ∈ task.authClaims.roles, strip role ≠ [] := by
    intro role member
    obtain ⟨-, -, -, nonblank⟩ := Json.mem_stringSet.mp (membership.roles role member)
    exact nonblank
  have kept : task.authClaims.roles.filter (fun role => strip role ≠ []) = task.authClaims.roles :=
    List.filter_eq_self.mpr fun role member => by simpa using nonblank role member
  have read : (tenantContext task.authClaims).item "role_ids" (.arr []) =
      texts task.authClaims.roles := rfl
  rw [profileRoles, read, stringSet_texts, kept]

theorem identityHolds (identity : TenantAccessValidator.IdentityHolds task.authClaims authority) :
    IdentityHolds (tenantContext task.authClaims) authority := by
  obtain ⟨expected, hostname, text⟩ := identity.hostnameText
  have read : (tenantContext task.authClaims).item "hostname" = .str expected := by
    change RuntimeProfile.optional task.authClaims.tenantHostname = _
    rw [hostname]
    rfl
  exact
    { tenant := (Json.equal_str _ _).mpr identity.tenant
      area := (Json.equal_str _ _).mpr identity.area
      hostname := identity.hostname
      hostnameTenant := (Json.equal_str _ _).mpr identity.hostnameTenant
      hostnameText := by
        rw [read]
        exact (Json.equal_str _ _).mpr text
      status := identity.status
      derivation := rfl
      contextGrants := rfl
      capabilities := rfl
      dataSources := rfl
      authorityGrants := identity.authorityGrants }

theorem membershipHolds (principal : principalId profile = .str task.authClaims.principalId)
    (membership : TenantAccessValidator.MembershipHolds task.authClaims authority) :
    MembershipHolds profile (tenantContext task.authClaims) authority := by
  obtain ⟨expected, named, id⟩ := membership.id
  have read : (tenantContext task.authClaims).item "membership_id" = .str expected := by
    change RuntimeProfile.optional task.authClaims.membershipId = _
    rw [named]
    rfl
  exact
    { mapping := membership.mapping
      id := by
        rw [read]
        exact (Json.equal_str _ _).mpr id
      tenant := (Json.equal_str _ _).mpr membership.tenant
      principal := by
        rw [principal]
        exact (Json.equal_str _ _).mpr membership.principal
      status := membership.status
      roles := fun role member => membership.roles role (mem_of_mem_stringSet_texts member) }

theorem modulesHold {roles : List Json}
    (fields : ∀ field ∈ moduleFields,
        RuntimeProfileEnforcer.selected profile field = (texts (selected.field field)).stringSet)
    (modules : TenantAccessValidator.ModulesHold authority roles selected.field) :
    ModulesHold profile authority roles := by
  have within : ∀ field ∈ moduleFields,
      ∀ name ∈ RuntimeProfileEnforcer.selected profile field, name ∈ selected.field field := by
    intro field known name member
    rw [fields field known] at member
    exact mem_of_mem_stringSet_texts member
  refine ⟨modules.derived, fun field allowed code checked name member => ?_, fun name member =>
    modules.instructions name (within "instructions" (by simp [moduleFields]) name member)⟩
  refine modules.allowed field allowed code checked name (within field ?_ name member)
  simp only [moduleChecks, List.mem_cons, Prod.mk.injEq, List.not_mem_nil, or_false] at checked
  rcases checked with ⟨rfl, -⟩ | ⟨rfl, -⟩ | ⟨rfl, -⟩ | ⟨rfl, -⟩ | ⟨rfl, -⟩ | ⟨rfl, -⟩ | ⟨rfl, -⟩ <;>
    simp [moduleFields]

theorem grantsHold_iff {sources roles : List Json}
    (grants : TenantAccessValidator.GrantsHold task.authClaims authority sources roles) :
    (∃ sources, GrantsHold (tenantContext task.authClaims) authority sources roles) ↔
      ∀ role ∈ roles, ∀ grant ∈ dataSourceGrants role, ∃ id,
        grant.item "data_source_id" = .str id := by
  constructor
  · rintro ⟨others, held⟩ role role_mem grant grant_mem
    obtain ⟨id, named, -⟩ := held.grants role role_mem grant grant_mem
    exact ⟨id, named⟩
  · intro named
    refine ⟨sources, grants.list, fun role role_mem grant grant_mem => ?_,
      fun capability member => grants.capabilities capability (mem_of_mem_stringSet_texts member),
      fun source member => grants.dataSources source (mem_of_mem_stringSet_texts member)⟩
    obtain ⟨id, id_eq⟩ := named role role_mem grant grant_mem
    exact ⟨id, id_eq, grants.grants role role_mem grant grant_mem id id_eq⟩

theorem validateTenant_iff (tenanted : task.authClaims.tenantId ≠ ("global" : Text))
    (access : TenantAccessValidator.validate task.authClaims context selected.field = .ok ())
    (principal : principalId profile = .str task.authClaims.principalId)
    (fields : ∀ field ∈ moduleFields,
        RuntimeProfileEnforcer.selected profile field = (texts (selected.field field)).stringSet) :
    validateTenant profile (tenantContext task.authClaims)
        ((Json.obj context).item "tenant_authority") = .ok () ↔
      GrantsNamed task context := by
  unfold TenantAccessValidator.validate at access
  rw [if_neg tenanted] at access
  obtain ⟨_, -, access⟩ := bind_eq_ok.mp access
  obtain ⟨_, identified, access⟩ := bind_eq_ok.mp access
  obtain ⟨roleIds, member, access⟩ := bind_eq_ok.mp access
  obtain ⟨roles, bundled, access⟩ := bind_eq_ok.mp access
  obtain ⟨_, granted, chosen⟩ := bind_eq_ok.mp access
  have identity := TenantAccessValidator.validateTenantIdentity_ok identified
  obtain ⟨membership, rfl⟩ := TenantAccessValidator.validateMembership_ok member
  obtain ⟨bundles, list, known, tenant, rfl⟩ := TenantAccessValidator.roleBundles_ok bundled
  obtain ⟨sources, grants⟩ := TenantAccessValidator.validateRoleGrants_ok granted
  have modules := TenantAccessValidator.validateSelectedModules_ok chosen
  have roles_eq := profileRoles_eq membership
  have tenant_text := item_of_str (.str "") identity.tenant
  have named_iff : GrantsNamed task context ↔
      ∀ role ∈ rolesById bundles (task.authClaims.roles.eraseDups.insertionSort (· ≤ ·)),
        ∀ grant ∈ dataSourceGrants role, ∃ id, grant.item "data_source_id" = .str id := by
    unfold GrantsNamed
    simp only [tenanted, false_or, rolesById, List.mem_filterMap, List.mem_insertionSort,
      List.mem_eraseDups, forall_exists_index, and_imp]
    constructor
    · intro named role roleId selected found
      exact named bundles list roleId selected role found
    · intro named others same roleId selected role found
      cases list.symm.trans same
      exact named role roleId selected found
  rw [named_iff, ← grantsHold_iff grants, validateTenant_ok]
  constructor
  · rintro ⟨-, -, others, sources, roles, held, grants, -⟩
    cases list.symm.trans held.list
    rw [← held.selected, roles_eq] at grants
    exact ⟨sources, grants⟩
  · rintro ⟨sources, held⟩
    refine ⟨identityHolds identity, membershipHolds principal membership, bundles, sources, _, ?_,
      held, modulesHold fields modules⟩
    rw [roles_eq]
    refine ⟨list, known, fun role role_mem => ?_, rfl⟩
    rw [tenant_text, ← identity.tenant]
    exact tenant role role_mem

end Tenants

/-- A composed profile within its recomposition budget is accepted by the enforcer exactly when
every data-source grant of the task's roles names its data source. -/
theorem composer_enforcer_agree {task : TaskAnalysis} {context : JsonObject} {generation : Int}
    {parentProfileId recompositionReason : Option Text} {profile : JsonObject} {bound : Int}
    (composed : compose task context generation parentProfileId recompositionReason = .ok profile)
    (bounded : limit profile "max_recompositions" = .ok bound) (within : generation ≤ bound + 1) :
    validateProfileForRuntime profile = .ok () ↔ GrantsNamed task context := by
  obtain ⟨authority, skillRoles, versions, made⟩ := compose_ok composed
  have nonneg : 0 ≤ bound := by
    rw [← made.fields] at bounded
    have bound_eq : (if task.requiresHumanReview then 0 else 1 : Int) = bound :=
      Except.ok.inj bounded
    split_ifs at bound_eq <;> omega
  rw [made.accepted_iff bounded within nonneg, validateTenantAuthority_ok]
  have context_eq : (Json.obj profile).item "tenant_context" = tenantContext task.authClaims := by
    rw [← made.fields]
    rfl
  have authority_eq : (Json.obj profile).item "tenant_authority" = authority := by
    rw [← made.fields]
    rfl
  have tenant_eq : tenantId (tenantContext task.authClaims) = task.authClaims.tenantId := rfl
  have mapping : (tenantContext task.authClaims).isMapping = true := rfl
  have snapshot := made.snapshot
  rw [context_eq, authority_eq, tenant_eq]
  by_cases whole : task.authClaims.tenantId = ("global" : Text)
  · rw [tenantAuthoritySnapshot, if_pos whole] at snapshot
    have none : authority = .null := (Except.ok.inj snapshot).symm
    simp [mapping, whole, none, GrantsNamed]
  · have principal : principalId profile = .str task.authClaims.principalId := by
      rw [← made.fields]
      rfl
    have fields : ∀ field ∈ moduleFields,
          RuntimeProfileEnforcer.selected profile field =
            (texts ((selection task context).field field)).stringSet := by
      intro field known
      rw [← made.fields]
      exact selected_profileFields known
    rw [tenantAuthoritySnapshot, if_neg whole] at snapshot
    have found : (Json.obj context).item "tenant_authority" = authority ∧
        authority.isMapping = true := by
      cases given : (Json.obj context).item "tenant_authority" with
      | obj fields =>
          rw [given] at snapshot
          rw [← Except.ok.inj snapshot]
          exact ⟨rfl, rfl⟩
      | _ =>
          rw [given] at snapshot
          cases snapshot
    rw [← validateTenant_iff whole made.access principal fields, found.1]
    simp only [mapping, found.2, whole, ne_eq, not_false_eq_true, true_and, false_and, false_or]

/-- A task of a tenant whose membership holds one role. -/
def sampleTask : TaskAnalysis where
  taskId := "task-a"
  taskType := "general-task"
  objective := "Tidy the backlog."
  riskLevel := "low"
  capabilityHints := []
  missingInformation := []
  authClaims :=
    { principalId := "user-a"
      principalType := "user"
      displayName := none
      roles := ["reader"]
      authorizationPolicies := []
      tenantId := "acme"
      areaId := "acme"
      tenantHostname := some "acme.example"
      membershipId := some "member-a"
      roleDataSources := []
      roleCapabilities := [] }
  classificationConfidence := "medium"
  classificationReasons := []
  ambiguousTaskTypes := []
  requiresHumanReview := false

/-- A context response whose one role has the given data-source grants. -/
def sampleContext (grants : List Json) : JsonObject :=
  [("composition_status", .str "ready"), ("graph_validation", .obj [("is_valid", .bool true)]),
    ("candidate_modules", .arr [.obj
      [("name", .str "triage"), ("kind", .str "skill"), ("version", .str "0.1.0")]]),
    ("applicable_policies", .arr [.obj [("name", .str "read-only"), ("version", .str "0.1.0")]]),
    ("tenant_authority", sampleAuthority
      [("data_sources", .arr [.obj [("id", .str "crm"), ("tenant_id", .str "acme")]]),
        ("role_bundles", .arr [.obj
          [("id", .str "reader"), ("tenant_id", .str "acme"), ("data_source_grants", .arr grants),
            ("derived_runtime_modules", .obj
              [("skills", .arr [.str "triage"]), ("policies", .arr [.str "read-only"])])]])])]

/-- The profile composed from the response. -/
def sampleProfile (grants : List Json) : JsonObject :=
  (compose sampleTask (sampleContext grants) 1 none none).toOption.getD []

theorem composer_enforcer_agree_named_grant :
    validateProfileForRuntime (sampleProfile [.obj [("data_source_id", .str "crm")]]) = .ok () := by
  refine (@composer_enforcer_agree sampleTask
    (sampleContext [.obj [("data_source_id", .str "crm")]])
    1 none none _ 1 (Stateful.eq_ok_of_isOk [] (by decide)) (by decide)
    (by decide)).mpr (.inr ?_)
  intro bundles list roleId selected role found grant granted
  obtain rfl := Json.arr.inj list
  obtain rfl := List.mem_singleton.mp selected
  obtain rfl := Option.some.inj found
  obtain rfl := List.mem_singleton.mp granted
  exact ⟨"crm", rfl⟩

/-- A grant without an identifier: the composer emits a profile, the enforcer refuses it. -/
theorem unnamed_grant_refused :
    ¬∀ (task : TaskAnalysis) (context : JsonObject) (generation : Int)
      (parentProfileId recompositionReason : Option Text) (profile : JsonObject) (bound : Int),
      compose task context generation parentProfileId recompositionReason = .ok profile →
      limit profile "max_recompositions" = .ok bound → generation ≤ bound + 1 →
      validateProfileForRuntime profile = .ok () := by
  intro agrees
  have accepted :=
    agrees sampleTask (sampleContext [.obj []]) 1 none none (sampleProfile [.obj []]) 1
    (Stateful.eq_ok_of_isOk [] (by decide)) (by decide) (by decide)
  exact absurd accepted (by decide)

end ComposerAgreement

end SkillCentric
