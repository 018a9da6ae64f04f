import SkillCentric.Library.Stateful
import SkillCentric.Runtime.Coercions
import SkillCentric.Runtime.TenantStatus

/-!
# The profile enforcer

`RuntimeProfileEnforcer`: the checks a profile passes before its run, and the access checks and
counters of the run.  A profile is a JSON object whose fields may have any type.  An operation that
raises keeps what it changed before.
-/

namespace SkillCentric

/-- What the enforcer raises. -/
inductive EnforcerError where
  /-- `ProfileEnforcementError(message, stop_reason=..., code=...)`. -/
  | denied (message stopReason code : Text)
  | raised (error : PyError)
  deriving DecidableEq

namespace EnforcerError

/-- The raised error. -/
def error : EnforcerError → PyError
  | .denied message stopReason _ => ⟨.profileEnforcementError, message, some (some stopReason)⟩
  | .raised error => error

end EnforcerError

/-- A check that returns or raises. -/
abbrev Check := Except EnforcerError

namespace Check

/-- Deny with a stop reason. -/
def denyFor (condition : Bool) (message stopReason code : Text) : Check Unit :=
  if condition then .error (.denied message stopReason code) else .ok ()

/-- Deny by policy. -/
def denyIf (condition : Bool) (message code : Text) : Check Unit :=
  denyFor condition message "policy_denied" code

/-- A computation of the host language inside a check. -/
def lift {α : Type} (computed : Except PyError α) : Check α := computed.mapError .raised

theorem lift_eq_ok {α : Type} {computed : Except PyError α} {value : α} :
    lift computed = .ok value ↔ computed = .ok value := Stateful.mapError_eq_ok

@[simp]
theorem denyFor_eq_ok {condition : Bool} {message stopReason code : Text} {value : Unit} :
    denyFor condition message stopReason code = .ok value ↔ condition = false :=
  Stateful.raiseIf_eq_ok

@[simp]
theorem denyIf_eq_ok {condition : Bool} {message code : Text} {value : Unit} :
    denyIf condition message code = .ok value ↔ condition = false := denyFor_eq_ok

theorem lift_then_deny {test : Except PyError Bool} {message code : Text} :
    (lift test >>= fun passed => denyIf (!passed) message code) = .ok () ↔ test = .ok true := by
  rw [Stateful.bind_eq_ok]
  simp only [lift_eq_ok, denyIf_eq_ok, Bool.not_eq_false']
  exact ⟨fun ⟨_, tested, passed⟩ => passed ▸ tested, fun tested => ⟨true, tested, rfl⟩⟩

end Check

open Check

/-- The fields of a profile that select modules. -/
def moduleFields : List Text :=
  ["instructions", "skills", "tools", "knowledge_scopes", "data_scopes", "memory_scopes",
    "policies", "validators"]

/-- `selected_modules`. -/
def selectedModules (profile : JsonObject) : List Text :=
  moduleFields.flatMap fun field =>
    match (Json.obj profile).item field (.arr []) with
    | .arr values => values.map Json.pyStr
    | _ => []

/-- Counters of an enforcer. -/
inductive Counter where
  | toolCalls
  | tokensUsed
  | dataReads
  | memoryOps
  | recompositionRequests
  deriving DecidableEq

namespace Counter

/-- The attribute of the counter. -/
def name : Counter → Text
  | .toolCalls => "tool_calls"
  | .tokensUsed => "tokens_used"
  | .dataReads => "data_reads"
  | .memoryOps => "memory_ops"
  | .recompositionRequests => "recomposition_requests"

/-- The limit of the counter. -/
def limitName : Counter → Text
  | .toolCalls => "max_tool_calls"
  | .tokensUsed => "max_tokens"
  | .dataReads => "max_data_reads"
  | .memoryOps => "max_memory_ops"
  | .recompositionRequests => "max_recompositions"

end Counter

/-- An enforcer; `profile` is never changed. -/
structure RuntimeProfileEnforcer where
  profile : JsonObject
  count : Counter → Int

/-- Operations of an enforcer. -/
abbrev Enforce := ExceptT EnforcerError (StateM RuntimeProfileEnforcer)

namespace RuntimeProfileEnforcer

/-- `int(profile.get("profile_generation", 1))`. -/
def profileGeneration (profile : JsonObject) : Except PyError Int :=
  ((Json.obj profile).item "profile_generation" (.int 1)).toInt

/-- `RuntimeProfileEnforcer(profile)`. -/
def create (profile : JsonObject) : Except PyError RuntimeProfileEnforcer := do
  let generation ← profileGeneration profile
  return ⟨profile, fun counter =>
    if counter = .recompositionRequests then max 0 (generation - 1) else 0⟩

/-- `_limit`. -/
def limit (profile : JsonObject) (limitName : Text) : Except PyError Int :=
  match (Json.obj profile).item "limits" (.obj []) with
  | .obj limits => ((Json.obj limits).item limitName (.int 0)).toInt
  | _ => .ok 0

/-- Statuses of a tenant that may run. -/
def allowedTenantStatuses : List Text := ["setup", "active"]

/-- Statuses of a membership that may run. -/
def allowedMembershipStatuses : List Text := ["active"]

/-- Instructions of every tenant. -/
def baselineTenantInstructions : List Text := ["base-agent-rules", "code-review-rules"]

/-- Validators of every tenant. -/
def baselineTenantValidators : List Text := ["runtime-profile-schema"]

/-- `_validate_tenant_identity`. -/
def validateTenantIdentity (tenantContext authority : Json) : Check Unit := do
  denyIf (!(authority.item "tenant_id").equal (tenantContext.item "tenant_id"))
    "Tenant authority does not match runtime profile tenant." "tenant_authority_tenant_mismatch"
  denyIf (!(authority.item "area_id").equal (tenantContext.item "area_id"))
    "Tenant authority does not match runtime profile area." "tenant_authority_area_mismatch"
  let hostname := authority.item "hostname"
  denyIf (!hostname.isMapping)
    "Tenant authority is missing hostname proof." "tenant_hostname_authority_missing"
  denyIf (!(hostname.item "tenant_id").equal (tenantContext.item "tenant_id"))
    "Tenant hostname authority crosses tenant boundary."
    "tenant_hostname_authority_tenant_mismatch"
  denyIf (!(hostname.item "hostname").equal (tenantContext.item "hostname"))
    "Tenant hostname authority does not match runtime profile host."
    "tenant_hostname_authority_mismatch"
  let active ← Check.lift ((authority.item "status").isOneOf allowedTenantStatuses)
  denyIf (!active) "Tenant is not active for runtime execution." "tenant_not_active"
  let roleDerivation := tenantContext.item "role_derivation"
  denyIf (!roleDerivation.isMapping)
    "Tenant role derivation is missing from runtime profile." "tenant_role_derivation_missing"
  denyIf (roleDerivation.item "direct_user_grants_allowed" ≠ .bool false)
    "Direct user grants are not allowed for tenant runtime profiles."
    "tenant_direct_user_grants_enabled"
  denyIf (roleDerivation.item "capabilities_derive_from_roles" ≠ .bool true)
    "Tenant runtime capabilities must derive from roles." "tenant_capability_derivation_invalid"
  denyIf (roleDerivation.item "data_sources_derive_from_roles" ≠ .bool true)
    "Tenant runtime data sources must derive from roles." "tenant_data_source_derivation_invalid"
  denyIf (authority.item "direct_user_grants_allowed" ≠ .bool false)
    "Tenant authority cannot permit direct user grants."
    "tenant_authority_direct_user_grants_enabled"

/-- `profile["auth_context"]["principal"]["id"]`, `None` when a mapping is missing. -/
def principalId (profile : JsonObject) : Json :=
  (((Json.obj profile).item "auth_context" (.obj [])).item "principal" (.obj [])).item "id"

/-- `_validate_tenant_membership`. -/
def validateTenantMembership (profile : JsonObject) (tenantContext authority : Json) :
    Check (List Text) := do
  let membership := authority.item "membership"
  denyIf (!membership.isMapping)
    "Tenant authority is missing membership proof." "tenant_membership_missing"
  denyIf (!(membership.item "id").equal (tenantContext.item "membership_id"))
    "Tenant authority membership does not match runtime profile." "tenant_membership_mismatch"
  denyIf (!(membership.item "tenant_id").equal (tenantContext.item "tenant_id"))
    "Tenant membership crosses tenant boundary." "tenant_membership_crosses_tenant"
  denyIf (!(membership.item "principal_id").equal (principalId profile))
    "Tenant membership principal does not match runtime profile."
    "tenant_membership_principal_mismatch"
  let active ← Check.lift ((membership.item "status").isOneOf allowedMembershipStatuses)
  denyIf (!active) "Tenant membership is not active." "tenant_membership_not_active"
  let membershipRoles := (membership.item "role_ids" (.arr [])).stringSet
  let profileRoles := (tenantContext.item "role_ids" (.arr [])).stringSet
  let missingRoles := Json.missing profileRoles membershipRoles
  denyIf (!missingRoles.isEmpty)
    (("Tenant runtime profile selected roles outside membership: " : Text) ++
      Json.join missingRoles) "tenant_role_not_in_membership"
  return profileRoles.insertionSort (· ≤ ·)

/-- `by_id[role_id] for role_id in role_ids`, unknown roles left out. -/
def rolesById (roleBundles : List Json) (roleIds : List Text) : List Json :=
  roleIds.filterMap (Json.lastById roleBundles)

/-- The roles without a bundle. -/
def unknownRoles (roleBundles : List Json) (roleIds : List Text) : List Text :=
  (roleIds.filter fun roleId => (Json.lastById roleBundles roleId).isNone).insertionSort (· ≤ ·)

/-- `_tenant_role_bundles`. -/
def tenantRoleBundles (authority : Json) (roleIds : List Text) : Check (List Json) := do
  match authority.item "role_bundles" (.arr []) with
  | .arr roleBundles =>
      let missingRoles := unknownRoles roleBundles roleIds
      denyIf (!missingRoles.isEmpty)
        (("Tenant runtime profile selected unknown roles: " : Text) ++ Json.join missingRoles)
        "tenant_role_bundle_missing"
      let tenantId := (authority.item "tenant_id" (.str "")).pyStr
      let selectedRoles := rolesById roleBundles roleIds
      selectedRoles.forM fun role =>
        denyIf (!(role.item "tenant_id").equal (.str tenantId))
          "Tenant role bundle crosses tenant boundary." "tenant_role_bundle_crosses_tenant"
      return selectedRoles
  | _ => throw (.denied "Tenant authority role bundles must be a list." "policy_denied"
      "tenant_role_bundles_invalid")

/-- `data_source_tenant_by_id.get(data_source_id)`. -/
def dataSourceTenant (dataSources : List Json) (dataSourceId : Text) : Json :=
  ((Json.lastById dataSources dataSourceId).map fun source => source.item "tenant_id").getD .null

/-- The check of one data-source grant. -/
def validateDataSourceGrant (tenantId : Text) (dataSources : List Json) (grant : Json) :
    Check Unit :=
  match grant.item "data_source_id" with
  | .str dataSourceId =>
      denyIf (!(dataSourceTenant dataSources dataSourceId).equal (.str tenantId))
        "Tenant data-source grant crosses tenant boundary."
        "tenant_data_source_grant_crosses_tenant"
  | _ => .error (.denied "Tenant data-source grant is missing a data source id." "policy_denied"
      "tenant_data_source_grant_invalid")

/-- The data-source grants of a role. -/
def dataSourceGrants (role : Json) : List Json :=
  (role.item "data_source_grants" (.arr [])).mappings

/-- The text of a string. -/
def textOf? : Json → Option Text
  | .str text => some text
  | _ => none

/-- `granted_data_sources` after all roles. -/
def grantedDataSources (roleBundles : List Json) : List Text :=
  roleBundles.flatMap fun role =>
    (dataSourceGrants role).filterMap fun grant => textOf? (grant.item "data_source_id")

/-- `granted_capabilities` after all roles. -/
def grantedCapabilities (roleBundles : List Json) : List Text :=
  roleBundles.flatMap fun role => (role.item "capability_grants" (.arr [])).stringSet

/-- `_validate_tenant_role_grants`. -/
def validateTenantRoleGrants (tenantContext authority : Json) (roleBundles : List Json) :
    Check Unit := do
  match authority.item "data_sources" (.arr []) with
  | .arr dataSources =>
      let tenantId := (tenantContext.item "tenant_id" (.str "")).pyStr
      roleBundles.forM fun role =>
        (dataSourceGrants role).forM (validateDataSourceGrant tenantId dataSources)
      let missingCapabilities := Json.missing
        (tenantContext.item "allowed_role_capabilities" (.arr [])).stringSet
        (grantedCapabilities roleBundles)
      denyIf (!missingCapabilities.isEmpty)
        (("Tenant runtime capabilities are not role-derived: " : Text) ++
          Json.join missingCapabilities) "tenant_capability_not_role_derived"
      let missingDataSources := Json.missing
        (tenantContext.item "allowed_role_data_sources" (.arr [])).stringSet
        (grantedDataSources roleBundles)
      denyIf (!missingDataSources.isEmpty)
        (("Tenant runtime data sources are not role-derived: " : Text) ++
          Json.join missingDataSources) "tenant_data_source_not_role_derived"
  | _ => throw (.denied "Tenant authority data sources must be a list." "policy_denied"
      "tenant_data_sources_invalid")

/-- `derived_runtime_modules` of a role. -/
def derivedModules (role : Json) : Json := role.item "derived_runtime_modules" (.obj [])

/-- `allowed_runtime_modules[field]` after all roles. -/
def allowedRuntimeModules (roleBundles : List Json) (field : Text) : List Text :=
  roleBundles.flatMap fun role => ((derivedModules role).item field (.arr [])).stringSet

/-- `_string_set(authority.get(field, []))`. -/
def allowedScopes (authority : Json) (field : Text) : List Text :=
  (authority.item field (.arr [])).stringSet

/-- The fields of a profile with what a tenant allows in them. -/
def moduleChecks (authority : Json) (roleBundles : List Json) : List (Text × List Text × Text) :=
  [("skills", allowedRuntimeModules roleBundles "skills", "tenant_skill_denied"),
    ("tools", allowedRuntimeModules roleBundles "tools", "tenant_tool_denied"),
    ("policies", allowedRuntimeModules roleBundles "policies", "tenant_policy_denied"),
    ("validators", allowedRuntimeModules roleBundles "validators" ++ baselineTenantValidators,
      "tenant_validator_denied"),
    ("knowledge_scopes", allowedScopes authority "allowed_knowledge_scopes",
      "tenant_knowledge_scope_denied"),
    ("data_scopes", allowedScopes authority "allowed_data_scopes", "tenant_data_scope_denied"),
    ("memory_scopes", allowedScopes authority "allowed_memory_scopes",
      "tenant_memory_scope_denied")]

/-- The strings a profile selects in a field. -/
def selected (profile : JsonObject) (field : Text) : List Text :=
  ((Json.obj profile).item field (.arr [])).stringSet

/-- `_validate_tenant_selected_modules`. -/
def validateTenantSelectedModules (profile : JsonObject) (authority : Json)
    (roleBundles : List Json) : Check Unit := do
  roleBundles.forM fun role =>
    denyIf (!(derivedModules role).isMapping)
      "Tenant role bundle is missing runtime module derivation."
      "tenant_runtime_derivation_missing"
  (moduleChecks authority roleBundles).forM fun (field, allowed, code) =>
    let denied := Json.missing (selected profile field) allowed
    denyIf (!denied.isEmpty)
      (("Tenant runtime profile selected unauthorized " : Text) ++ field ++ (": " : Text) ++
        Json.join denied) code
  let deniedInstructions :=
    Json.missing (selected profile "instructions") baselineTenantInstructions
  denyIf (!deniedInstructions.isEmpty)
    (("Tenant runtime profile selected unauthorized instructions: " : Text) ++
      Json.join deniedInstructions) "tenant_instruction_denied"

/-- The checks of a tenant that is not global. -/
def validateTenant (profile : JsonObject) (tenantContext authority : Json) : Check Unit := do
  validateTenantIdentity tenantContext authority
  let roleIds ← validateTenantMembership profile tenantContext authority
  let roleBundles ← tenantRoleBundles authority roleIds
  validateTenantRoleGrants tenantContext authority roleBundles
  validateTenantSelectedModules profile authority roleBundles

/-- `str(tenant_context.get("tenant_id", ""))`. -/
def tenantId (tenantContext : Json) : Text := (tenantContext.item "tenant_id" (.str "")).pyStr

/-- `_validate_tenant_authority`. -/
def validateTenantAuthority (profile : JsonObject) : Check Unit := do
  let tenantContext := (Json.obj profile).item "tenant_context"
  denyIf (!tenantContext.isMapping)
    "Runtime profile is missing tenant_context." "tenant_context_missing"
  let authority := (Json.obj profile).item "tenant_authority"
  if tenantId tenantContext = ("global" : Text) then
    denyIf (authority ≠ .null)
      "Global runtime profiles must not include tenant authority." "global_tenant_authority_present"
  else
    denyIf (!authority.isMapping)
      "Tenant-scoped runtime profiles require tenant authority." "tenant_authority_missing"
    validateTenant profile tenantContext authority

/-- The selected modules without a version pin. -/
def missingVersions (profile : JsonObject) : List Text → Except PyError (List Text)
  | [] => return []
  | moduleId :: rest => do
      let pinned ← ((Json.obj profile).item "module_versions" (.obj [])).contains moduleId
      let missing ← missingVersions profile rest
      return if pinned then missing else moduleId :: missing

/-- `validate_profile_for_runtime`. -/
def validateProfileForRuntime (profile : JsonObject) : Check Unit := do
  let missing ← Check.lift (missingVersions profile (selectedModules profile))
  denyIf (!missing.isEmpty)
    (("Selected modules are not version-pinned: " : Text) ++
      Json.join (missing.insertionSort (· ≤ ·)) ++ ("." : Text)) "selected_module_version_missing"
  let generation ← Check.lift (profileGeneration profile)
  let maxRecompositions ← Check.lift (limit profile "max_recompositions")
  denyFor (maxRecompositions < max 0 (generation - 1))
    "Profile generation exceeds the recomposition budget." "max_recompositions"
    "max_recompositions_exceeded"
  validateTenantAuthority profile

section Accepts

variable {profile : JsonObject} {tenantContext authority : Json} {roleIds : List Text}
  {roleBundles : List Json}

/-- What `_validate_tenant_identity` accepts. -/
structure IdentityHolds (tenantContext authority : Json) : Prop where
  tenant : (authority.item "tenant_id").equal (tenantContext.item "tenant_id") = true
  area : (authority.item "area_id").equal (tenantContext.item "area_id") = true
  hostname : (authority.item "hostname").isMapping = true
  hostnameTenant : ((authority.item "hostname").item "tenant_id").equal
    (tenantContext.item "tenant_id") = true
  hostnameText : ((authority.item "hostname").item "hostname").equal
    (tenantContext.item "hostname") = true
  status : (authority.item "status").isOneOf allowedTenantStatuses = .ok true
  derivation : (tenantContext.item "role_derivation").isMapping = true
  contextGrants : (tenantContext.item "role_derivation").item "direct_user_grants_allowed" =
    .bool false
  capabilities : (tenantContext.item "role_derivation").item "capabilities_derive_from_roles" =
    .bool true
  dataSources : (tenantContext.item "role_derivation").item "data_sources_derive_from_roles" =
    .bool true
  authorityGrants : authority.item "direct_user_grants_allowed" = .bool false

variable {value : Unit}

theorem validateTenantIdentity_ok :
    validateTenantIdentity tenantContext authority = .ok value ↔
      IdentityHolds tenantContext authority := by
  unfold validateTenantIdentity
  simp only [Stateful.bind_eq_ok, denyIf_eq_ok, lift_eq_ok, Bool.not_eq_false', exists_const,
    decide_eq_false_iff_not, ne_eq, not_not]
  constructor
  · rintro ⟨tenant, area, hostname, hostnameTenant, hostnameText, active, status, rfl, derivation,
      contextGrants, capabilities, dataSources, authorityGrants⟩
    exact ⟨tenant, area, hostname, hostnameTenant, hostnameText, status, derivation, contextGrants,
      capabilities, dataSources, authorityGrants⟩
  · intro holds
    exact ⟨holds.tenant, holds.area, holds.hostname, holds.hostnameTenant, holds.hostnameText, true,
      holds.status, rfl, holds.derivation, holds.contextGrants, holds.capabilities,
      holds.dataSources, holds.authorityGrants⟩

/-- What `_validate_tenant_membership` accepts. -/
structure MembershipHolds (profile : JsonObject) (tenantContext authority : Json) : Prop where
  mapping : (authority.item "membership").isMapping = true
  id : ((authority.item "membership").item "id").equal (tenantContext.item "membership_id") = true
  tenant : ((authority.item "membership").item "tenant_id").equal
    (tenantContext.item "tenant_id") = true
  principal : ((authority.item "membership").item "principal_id").equal (principalId profile) = true
  status :
    ((authority.item "membership").item "status").isOneOf allowedMembershipStatuses = .ok true
  roles : ∀ role ∈ (tenantContext.item "role_ids" (.arr [])).stringSet,
    role ∈ ((authority.item "membership").item "role_ids" (.arr [])).stringSet

/-- `tuple(sorted(profile_roles))`. -/
def profileRoles (tenantContext : Json) : List Text :=
  (tenantContext.item "role_ids" (.arr [])).stringSet.insertionSort (· ≤ ·)

theorem validateTenantMembership_ok :
    validateTenantMembership profile tenantContext authority = .ok roleIds ↔
      MembershipHolds profile tenantContext authority ∧ profileRoles tenantContext = roleIds := by
  unfold validateTenantMembership
  simp only [Stateful.bind_eq_ok, denyIf_eq_ok, lift_eq_ok, Bool.not_eq_false', exists_const,
    List.isEmpty_iff, Json.missing_eq_nil, pure, Except.pure, Except.ok.injEq]
  constructor
  · rintro ⟨mapping, id, tenant, principal, active, status, rfl, roles, returned⟩
    exact ⟨⟨mapping, id, tenant, principal, status, roles⟩, returned⟩
  · rintro ⟨holds, returned⟩
    exact ⟨holds.mapping, holds.id, holds.tenant, holds.principal, true, holds.status, rfl,
      holds.roles, returned⟩

theorem unknownRoles_eq_nil {bundles : List Json} :
    unknownRoles bundles roleIds = [] ↔
      ∀ roleId ∈ roleIds, (Json.lastById bundles roleId).isSome = true := by
  have sorted : unknownRoles bundles roleIds = [] ↔
      roleIds.filter (fun roleId => (Json.lastById bundles roleId).isNone) = [] := by
    rw [unknownRoles]
    exact ⟨fun empty => List.eq_nil_of_length_eq_zero (by
      rw [← List.length_insertionSort (· ≤ ·), empty, List.length_nil]),
      fun empty => by rw [empty]; rfl⟩
  rw [sorted, List.filter_eq_nil_iff]
  simp [Option.isSome_iff_ne_none]

/-- What `_tenant_role_bundles` accepts. -/
structure BundlesHold (authority : Json) (roleIds : List Text) (bundles roleBundles : List Json) :
    Prop where
  list : authority.item "role_bundles" (.arr []) = .arr bundles
  known : ∀ roleId ∈ roleIds, (Json.lastById bundles roleId).isSome = true
  tenant : ∀ role ∈ roleBundles,
    role.item "tenant_id" = .str (authority.item "tenant_id" (.str "")).pyStr
  selected : rolesById bundles roleIds = roleBundles

theorem tenantRoleBundles_ok :
    tenantRoleBundles authority roleIds = .ok roleBundles ↔
      ∃ bundles, BundlesHold authority roleIds bundles roleBundles := by
  unfold tenantRoleBundles
  cases list : authority.item "role_bundles" (.arr []) with
  | arr bundles =>
      simp only [Stateful.bind_eq_ok, denyIf_eq_ok, Bool.not_eq_false', exists_const,
        List.isEmpty_iff, unknownRoles_eq_nil, Stateful.forM_eq_ok, Json.equal_str, pure,
        Except.pure, Except.ok.injEq]
      constructor
      · rintro ⟨known, tenant, rfl⟩
        exact ⟨bundles, list, known, tenant, rfl⟩
      · rintro ⟨others, ⟨same, known, tenant, selected⟩⟩
        cases list.symm.trans same
        exact ⟨known, selected ▸ tenant, selected⟩
  | _ =>
      refine iff_of_false (fun returned => by cases returned) ?_
      rintro ⟨bundles, holds⟩
      cases list.symm.trans holds.list

/-- What `_validate_tenant_role_grants` accepts. -/
structure GrantsHold (tenantContext authority : Json) (sources roleBundles : List Json) :
    Prop where
  list : authority.item "data_sources" (.arr []) = .arr sources
  grants : ∀ role ∈ roleBundles, ∀ grant ∈ dataSourceGrants role, ∃ id,
    grant.item "data_source_id" = .str id ∧
      dataSourceTenant sources id = .str (tenantContext.item "tenant_id" (.str "")).pyStr
  capabilities : ∀ capability ∈
    (tenantContext.item "allowed_role_capabilities" (.arr [])).stringSet,
    capability ∈ grantedCapabilities roleBundles
  dataSources : ∀ source ∈ (tenantContext.item "allowed_role_data_sources" (.arr [])).stringSet,
    source ∈ grantedDataSources roleBundles

theorem validateDataSourceGrant_ok {tenant : Text} {sources : List Json} {grant : Json}
    :
    validateDataSourceGrant tenant sources grant = .ok value ↔
      ∃ id, grant.item "data_source_id" = .str id ∧ dataSourceTenant sources id = .str tenant := by
  unfold validateDataSourceGrant
  cases grant.item "data_source_id" with
  | str id => simp
  | _ => simp

theorem validateTenantRoleGrants_ok :
    validateTenantRoleGrants tenantContext authority roleBundles = .ok value ↔
      ∃ sources, GrantsHold tenantContext authority sources roleBundles := by
  unfold validateTenantRoleGrants
  cases list : authority.item "data_sources" (.arr []) with
  | arr sources =>
      simp only [Stateful.bind_eq_ok, denyIf_eq_ok, Bool.not_eq_false', exists_const,
        List.isEmpty_iff, Json.missing_eq_nil, Stateful.forM_eq_ok, validateDataSourceGrant_ok]
      constructor
      · rintro ⟨grants, capabilities, dataSources⟩
        exact ⟨sources, list, grants, capabilities, dataSources⟩
      · rintro ⟨others, ⟨same, grants, capabilities, dataSources⟩⟩
        cases list.symm.trans same
        exact ⟨grants, capabilities, dataSources⟩
  | _ =>
      refine iff_of_false (fun returned => by cases returned) ?_
      rintro ⟨sources, holds⟩
      cases list.symm.trans holds.list

/-- What `_validate_tenant_selected_modules` accepts. -/
structure ModulesHold (profile : JsonObject) (authority : Json) (roleBundles : List Json) :
    Prop where
  derived : ∀ role ∈ roleBundles, (derivedModules role).isMapping = true
  allowed : ∀ field allowed code, (field, allowed, code) ∈ moduleChecks authority roleBundles →
    ∀ name ∈ selected profile field, name ∈ allowed
  instructions : ∀ name ∈ selected profile "instructions", name ∈ baselineTenantInstructions

theorem validateTenantSelectedModules_ok :
    validateTenantSelectedModules profile authority roleBundles = .ok value ↔
      ModulesHold profile authority roleBundles := by
  unfold validateTenantSelectedModules
  simp only [Stateful.bind_eq_ok, denyIf_eq_ok, Bool.not_eq_false', exists_const,
    List.isEmpty_iff, Json.missing_eq_nil, Stateful.forM_eq_ok]
  constructor
  · rintro ⟨derived, allowed, instructions⟩
    exact ⟨derived, fun field names code member => allowed (field, names, code) member,
      instructions⟩
  · rintro ⟨derived, allowed, instructions⟩
    exact ⟨derived, fun row member => allowed row.1 row.2.1 row.2.2 member, instructions⟩

theorem validateTenant_ok :
    validateTenant profile tenantContext authority = .ok value ↔
      IdentityHolds tenantContext authority ∧ MembershipHolds profile tenantContext authority ∧
        ∃ bundles sources roleBundles,
          BundlesHold authority (profileRoles tenantContext) bundles roleBundles ∧
          GrantsHold tenantContext authority sources roleBundles ∧
          ModulesHold profile authority roleBundles := by
  unfold validateTenant
  simp only [Stateful.bind_eq_ok, validateTenantIdentity_ok, validateTenantMembership_ok,
    tenantRoleBundles_ok, validateTenantRoleGrants_ok, validateTenantSelectedModules_ok,
    exists_const]
  constructor
  · rintro ⟨identity, _, ⟨membership, rfl⟩, roleBundles, ⟨bundles, held⟩,
      ⟨sources, grants⟩, modules⟩
    exact ⟨identity, membership, bundles, sources, roleBundles, held, grants, modules⟩
  · rintro ⟨identity, membership, bundles, sources, roleBundles, held, grants, modules⟩
    exact ⟨identity, _, ⟨membership, rfl⟩, roleBundles, ⟨bundles, held⟩, ⟨sources, grants⟩, modules⟩

/-- What `_validate_tenant_authority` accepts. -/
theorem validateTenantAuthority_ok :
    validateTenantAuthority profile = .ok value ↔
      ((Json.obj profile).item "tenant_context").isMapping = true ∧
        (tenantId ((Json.obj profile).item "tenant_context") = ("global" : Text) ∧
            (Json.obj profile).item "tenant_authority" = .null ∨
          tenantId ((Json.obj profile).item "tenant_context") ≠ ("global" : Text) ∧
            ((Json.obj profile).item "tenant_authority").isMapping = true ∧
            validateTenant profile ((Json.obj profile).item "tenant_context")
              ((Json.obj profile).item "tenant_authority") = .ok ()) := by
  unfold validateTenantAuthority
  rw [Stateful.bind_eq_ok]
  simp only [denyIf_eq_ok, Bool.not_eq_false', exists_const]
  refine and_congr_right fun _ => ?_
  by_cases whole : tenantId ((Json.obj profile).item "tenant_context") = ("global" : Text)
  · rw [if_pos whole, denyIf_eq_ok, decide_eq_false_iff_not, ne_eq, not_not]
    exact ⟨fun null => .inl ⟨whole, null⟩,
      fun accepted => accepted.elim And.right fun tenant => absurd whole tenant.1⟩
  · rw [if_neg whole, Stateful.bind_eq_ok]
    simp only [denyIf_eq_ok, Bool.not_eq_false', exists_const]
    exact ⟨fun tenant => .inr ⟨whole, tenant⟩,
      fun accepted => accepted.elim (fun null => absurd null.1 whole) And.right⟩

/-- What `validate_profile_for_runtime` accepts. -/
theorem validateProfileForRuntime_ok :
    validateProfileForRuntime profile = .ok value ↔
      missingVersions profile (selectedModules profile) = .ok [] ∧
        (∃ generation bound, profileGeneration profile = .ok generation ∧
          limit profile "max_recompositions" = .ok bound ∧ max 0 (generation - 1) ≤ bound) ∧
        validateTenantAuthority profile = .ok () := by
  unfold validateProfileForRuntime
  simp only [Stateful.bind_eq_ok, lift_eq_ok, denyIf_eq_ok, denyFor_eq_ok, Bool.not_eq_false',
    List.isEmpty_iff, exists_const, decide_eq_false_iff_not, not_lt]
  constructor
  · rintro ⟨missing, versions, rfl, generation, generated, bound, bounded, below, tenant⟩
    exact ⟨versions, ⟨generation, bound, generated, bounded, below⟩, tenant⟩
  · rintro ⟨versions, ⟨generation, bound, generated, bounded, below⟩, tenant⟩
    exact ⟨[], versions, rfl, generation, generated, bound, bounded, below, tenant⟩

end Accepts

/-- A check of the profile inside an operation. -/
def check {α : Type} (checked : JsonObject → Check α) : Enforce α := do
  ExceptT.mk (return checked (← get).profile)

/-- `name in profile.get(field, [])`, denied otherwise. -/
def requireIn (field kind code name : Text) : Enforce Unit :=
  check fun profile => do
    let present ← Check.lift (((Json.obj profile).item field (.arr [])).contains name)
    denyIf (!present) (kind ++ (" is not allowed by runtime profile: " : Text) ++ name) code

/-- `require_tool`. -/
def requireTool : Text → Enforce Unit :=
  requireIn "tools" "Tool" "tool_not_in_runtime_profile"

/-- `require_skill`. -/
def requireSkill : Text → Enforce Unit :=
  requireIn "skills" "Skill" "skill_not_in_runtime_profile"

/-- `require_policy`. -/
def requirePolicy : Text → Enforce Unit :=
  requireIn "policies" "Policy" "policy_not_in_runtime_profile"

/-- `_risk_rank`. -/
def riskRank (riskLevel : Text) : Nat :=
  if riskLevel = ("low" : Text) then 0
  else if riskLevel = ("medium" : Text) then 1
  else if riskLevel = ("high" : Text) then 2
  else 3

/-- `str(profile.get("risk_level", "low"))`. -/
def profileRiskLevel (profile : JsonObject) : Text :=
  ((Json.obj profile).item "risk_level" (.str "low")).pyStr

/-- `require_tool_risk`. -/
def requireToolRisk (toolName toolRiskLevel : Text) : Enforce Unit :=
  check fun profile =>
    denyIf (riskRank (profileRiskLevel profile) < riskRank toolRiskLevel)
      (("Tool risk exceeds profile risk level: " : Text) ++ toolName ++ ("." : Text))
      "tool_risk_exceeds_profile"

/-- `_require_scopes` on a field of the profile. -/
def requireScopes (field scopeKind : Text) (requested : List Text) : Enforce Unit :=
  check fun profile => do
    let allowed ← Check.lift ((Json.obj profile).item field (.arr [])).iterate
    let denied := Json.missing requested (allowed.map Json.pyStr)
    denyIf (!denied.isEmpty)
      (("Requested " : Text) ++ scopeKind ++ (" scopes are not allowed: " : Text) ++
        Json.join denied ++ ("." : Text)) (scopeKind ++ ("_scope_not_in_runtime_profile" : Text))

/-- `require_knowledge_scopes`. -/
def requireKnowledgeScopes : List Text → Enforce Unit :=
  requireScopes "knowledge_scopes" "knowledge"

/-- `require_data_scopes`. -/
def requireDataScopes : List Text → Enforce Unit := requireScopes "data_scopes" "data"

/-- `require_memory_scopes`. -/
def requireMemoryScopes : List Text → Enforce Unit := requireScopes "memory_scopes" "memory"

/-- `check_duration`, some nanoseconds after the enforcer was created. -/
def checkDuration (elapsed : Nat) : Enforce Unit :=
  check fun profile => do
    let maxDuration ← Check.lift (limit profile "max_duration_seconds")
    denyFor (maxDuration * 1000000000 < elapsed)
      "Runtime duration exceeded the active profile budget." "max_duration" "max_duration_exceeded"

/-- `_increment_limit`. -/
def incrementLimit (counter : Counter) (amount : Int) : Enforce Unit := do
  if amount < 0 then
    throw (.raised ⟨.valueError, counter.name ++ (" increment must be non-negative." : Text), none⟩)
  let next := (← get).count counter + amount
  check fun profile => do
    let limit ← Check.lift (limit profile counter.limitName)
    denyFor (limit < next)
      (("Runtime profile limit exceeded: " : Text) ++ counter.limitName ++ ("." : Text))
      counter.limitName (counter.limitName ++ ("_exceeded" : Text))
  modify fun enforcer => { enforcer with count := Function.update enforcer.count counter next }

/-- `record_data_read`. -/
def recordDataRead (count : Int := 1) : Enforce Unit := incrementLimit .dataReads count

/-- `record_memory_op`. -/
def recordMemoryOp (count : Int := 1) : Enforce Unit := incrementLimit .memoryOps count

/-- `record_recomposition_request`. -/
def recordRecompositionRequest : Enforce Unit := incrementLimit .recompositionRequests 1

/-- `consume_tokens`. -/
def consumeTokens (elapsed : Nat) (tokens : Int) : Enforce Unit := do
  if tokens < 0 then
    throw (.raised ⟨.valueError, "tokens must be non-negative.", none⟩)
  checkDuration elapsed
  incrementLimit .tokensUsed tokens

/-- `record_tool_invocation`. -/
def recordToolInvocation (elapsed : Nat) (toolName : Text) (requiredDataScopes requiredPolicies :
    List Text) (toolRiskLevel : Text) : Enforce Unit := do
  checkDuration elapsed
  requireTool toolName
  requireToolRisk toolName toolRiskLevel
  requiredPolicies.forM requirePolicy
  incrementLimit .toolCalls 1
  if requiredDataScopes ≠ [] then
    requireDataScopes requiredDataScopes
    recordDataRead

end RuntimeProfileEnforcer

/-- The authority of a sample tenant with one member, and more of its fields. -/
def sampleAuthority (fields : JsonObject) : Json :=
  let member : JsonObject :=
    [("tenant_id", .str "acme"), ("area_id", .str "acme"), ("status", .str "active"),
    ("hostname", .obj [("tenant_id", .str "acme"), ("hostname", .str "acme.example")]),
    ("direct_user_grants_allowed", .bool false),
    ("membership", .obj
      [("id", .str "member-a"), ("tenant_id", .str "acme"), ("principal_id", .str "user-a"),
        ("status", .str "active"), ("role_ids", .arr [.str "reader"])])]
  .obj (member ++ fields)

/-- The context of the member, and more of its fields. -/
def sampleTenantContext (fields : JsonObject) : Json :=
  let member : JsonObject :=
    [("tenant_id", .str "acme"), ("area_id", .str "acme"), ("hostname", .str "acme.example"),
    ("membership_id", .str "member-a"), ("role_ids", .arr [.str "reader"]),
    ("role_derivation", .obj
      [("direct_user_grants_allowed", .bool false), ("capabilities_derive_from_roles", .bool true),
        ("data_sources_derive_from_roles", .bool true)])]
  .obj (member ++ fields)

end SkillCentric
