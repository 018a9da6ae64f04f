import SkillCentric.Runtime.Enforcement

/-!
# Tenant access at composition

`TenantAccessValidator.validate`: the tenant rules over an analyzed task and a context response,
checked before a profile is emitted.
-/

namespace SkillCentric

open RuntimeProfileEnforcer

/-- `AuthClaims`, as far as composition reads them. -/
structure AuthClaims where
  principalId : Text
  principalType : Text
  displayName : Option Text
  roles : List Text
  authorizationPolicies : List Text
  tenantId : Text
  areaId : Text
  tenantHostname : Option Text
  membershipId : Option Text
  roleDataSources : List Text
  roleCapabilities : List Text

/-- What the validator raises. -/
inductive TenantAccessFailure where
  /-- `TenantAccessError(message)`. -/
  | access (message : Text)
  | raised (error : PyError)
  deriving DecidableEq

namespace TenantAccessValidator

/-- Raise a `TenantAccessError`. -/
def refuseIf (condition : Bool) (message : Text) : Except TenantAccessFailure Unit :=
  if condition then .error (.access message) else .ok ()

/-- A computation of the host language. -/
def lift {α : Type} (computed : Except PyError α) : Except TenantAccessFailure α :=
  computed.mapError .raised

variable (claims : AuthClaims) (authority : Json)

/-- `_validate_tenant_identity`. -/
def validateTenantIdentity : Except TenantAccessFailure Unit := do
  refuseIf (!(authority.item "tenant_id").equal (.str claims.tenantId))
    "Tenant authority does not match the analyzed tenant."
  refuseIf (!(authority.item "area_id").equal (.str claims.areaId))
    "Tenant authority does not match the analyzed area."
  let hostname := authority.item "hostname"
  refuseIf (!hostname.isMapping) "Tenant hostname authority is required."
  refuseIf (!(hostname.item "tenant_id").equal (.str claims.tenantId))
    "Tenant hostname authority crosses tenant boundary."
  match claims.tenantHostname with
  | none => throw (.access "Tenant hostname is required for tenant-scoped profiles.")
  | some expected =>
      refuseIf (!(hostname.item "hostname").equal (.str expected))
        "Tenant hostname authority does not match auth claims."
      let active ← lift ((authority.item "status").isOneOf allowedTenantStatuses)
      refuseIf (!active) "Tenant is not active for runtime composition."
      refuseIf (authority.item "direct_user_grants_allowed" ≠ .bool false)
        "Direct user grants are not allowed for tenant profiles."

/-- `_validate_membership`. -/
def validateMembership : Except TenantAccessFailure (List Text) := do
  let membership := authority.item "membership"
  refuseIf (!membership.isMapping) "Tenant membership is required for tenant-scoped profiles."
  match claims.membershipId with
  | none => throw (.access "Tenant membership id is required for tenant-scoped profiles.")
  | some expected =>
      refuseIf (!(membership.item "id").equal (.str expected))
        "Tenant membership does not match the analyzed task."
      refuseIf (!(membership.item "tenant_id").equal (.str claims.tenantId))
        "Tenant membership crosses tenant boundary."
      refuseIf (!(membership.item "principal_id").equal (.str claims.principalId))
        "Tenant membership principal does not match auth claims."
      let active ← lift ((membership.item "status").isOneOf allowedMembershipStatuses)
      refuseIf (!active) "Tenant membership is not active."
      let membershipRoles := (membership.item "role_ids" (.arr [])).stringSet
      let missingRoles := Json.missing claims.roles membershipRoles
      refuseIf (!missingRoles.isEmpty)
        (("Tenant roles are not granted by the active membership: " : Text) ++
          Json.join missingRoles)
      return claims.roles.eraseDups.insertionSort (· ≤ ·)

/-- `_role_bundles`. -/
def roleBundles (roleIds : List Text) : Except TenantAccessFailure (List Json) := do
  match authority.item "role_bundles" (.arr []) with
  | .arr bundles =>
      let missingRoles := unknownRoles bundles roleIds
      refuseIf (!missingRoles.isEmpty)
        (("Tenant roles are not present in tenant authority: " : Text) ++ Json.join missingRoles)
      let tenantId := (authority.item "tenant_id").pyStr
      let selectedRoles := rolesById bundles roleIds
      selectedRoles.forM fun role =>
        refuseIf (!(role.item "tenant_id").equal (.str tenantId))
          "Tenant role bundle crosses tenant boundary."
      return selectedRoles
  | _ => throw (.access "Tenant role bundles must be a list.")

/-- The check of one data-source grant; a grant without an id is passed over. -/
def validateDataSourceGrant (dataSources : List Json) (grant : Json) :
    Except TenantAccessFailure Unit :=
  match grant.item "data_source_id" with
  | .str dataSourceId =>
      refuseIf (!(dataSourceTenant dataSources dataSourceId).equal (.str claims.tenantId))
        "Tenant role data-source grant crosses tenant boundary."
  | _ => .ok ()

/-- `_validate_role_grants`. -/
def validateRoleGrants (roles : List Json) : Except TenantAccessFailure Unit := do
  match authority.item "data_sources" (.arr []) with
  | .arr dataSources =>
      roles.forM fun role =>
        (dataSourceGrants role).forM (validateDataSourceGrant claims dataSources)
      let missingCapabilities :=
        Json.missing claims.roleCapabilities (grantedCapabilities roles)
      refuseIf (!missingCapabilities.isEmpty)
        (("Requested capabilities are not derived from tenant roles: " : Text) ++
          Json.join missingCapabilities)
      let missingSources := Json.missing claims.roleDataSources (grantedDataSources roles)
      refuseIf (!missingSources.isEmpty)
        (("Requested data sources are not derived from tenant roles: " : Text) ++
          Json.join missingSources)
  | _ => throw (.access "Tenant data sources must be a list.")

/-- `_validate_selected_modules`. -/
def validateSelectedModules (roles : List Json) (selectedModules : Text → List Text) :
    Except TenantAccessFailure Unit := do
  roles.forM fun role =>
    refuseIf (!(derivedModules role).isMapping)
      "Tenant role bundle is missing runtime module derivation."
  (moduleChecks authority roles).forM fun (field, allowed, _) =>
    let denied := Json.missing (selectedModules field) allowed
    refuseIf (!denied.isEmpty)
      (("Selected " : Text) ++ field ++ (" are not allowed by tenant roles: " : Text) ++
        Json.join denied)
  let instructionDenied :=
    Json.missing (selectedModules "instructions") baselineTenantInstructions
  refuseIf (!instructionDenied.isEmpty)
    (("Selected instructions are not allowed by tenant runtime baseline: " : Text) ++
      Json.join instructionDenied)

/-- `validate`. -/
def validate (context : JsonObject) (selectedModules : Text → List Text) :
    Except TenantAccessFailure Unit := do
  if claims.tenantId = ("global" : Text) then
    return ()
  let authority := (Json.obj context).item "tenant_authority"
  refuseIf (!authority.isMapping) "Tenant authority is required for tenant-scoped profiles."
  validateTenantIdentity claims authority
  let roleIds ← validateMembership claims authority
  let roles ← roleBundles authority roleIds
  validateRoleGrants claims authority roles
  validateSelectedModules authority roles selectedModules

section Accepts

variable {claims} {authority} {roleIds : List Text} {roles : List Json} {value : Unit}

@[simp]
theorem refuseIf_eq_ok {condition : Bool} {message : Text} :
    refuseIf condition message = .ok value ↔ condition = false := Stateful.raiseIf_eq_ok

@[simp]
theorem lift_eq_ok {α : Type} {computed : Except PyError α} {value : α} :
    lift computed = .ok value ↔ computed = .ok value := Stateful.mapError_eq_ok

/-- What `_validate_tenant_identity` accepts. -/
structure IdentityHolds (claims : AuthClaims) (authority : Json) : Prop where
  tenant : authority.item "tenant_id" = .str claims.tenantId
  area : authority.item "area_id" = .str claims.areaId
  hostname : (authority.item "hostname").isMapping = true
  hostnameTenant : (authority.item "hostname").item "tenant_id" = .str claims.tenantId
  hostnameText : ∃ expected, claims.tenantHostname = some expected ∧
    (authority.item "hostname").item "hostname" = .str expected
  status : (authority.item "status").isOneOf allowedTenantStatuses = .ok true
  authorityGrants : authority.item "direct_user_grants_allowed" = .bool false

theorem validateTenantIdentity_ok (returned : validateTenantIdentity claims authority = .ok value) :
    IdentityHolds claims authority := by
  unfold validateTenantIdentity at returned
  cases expected : claims.tenantHostname with
  | none =>
      rw [expected] at returned
      simp only [Stateful.bind_eq_ok, refuseIf_eq_ok] at returned
      obtain ⟨_, _, _, _, _, _, _, _, returned⟩ := returned
      cases returned
  | some hostname =>
      rw [expected] at returned
      simp only [Stateful.bind_eq_ok, refuseIf_eq_ok, lift_eq_ok, Bool.not_eq_false', exists_const,
        Json.equal_str, decide_eq_false_iff_not, ne_eq, not_not] at returned
      obtain ⟨tenant, area, mapping, hostnameTenant, text, active, status, rfl, grants⟩ := returned
      exact ⟨tenant, area, mapping, hostnameTenant, ⟨hostname, expected, text⟩, status, grants⟩

/-- What `_validate_membership` accepts. -/
structure MembershipHolds (claims : AuthClaims) (authority : Json) : Prop where
  mapping : (authority.item "membership").isMapping = true
  id : ∃ expected, claims.membershipId = some expected ∧
    (authority.item "membership").item "id" = .str expected
  tenant : (authority.item "membership").item "tenant_id" = .str claims.tenantId
  principal : (authority.item "membership").item "principal_id" = .str claims.principalId
  status :
    ((authority.item "membership").item "status").isOneOf allowedMembershipStatuses = .ok true
  roles : ∀ role ∈ claims.roles,
    role ∈ ((authority.item "membership").item "role_ids" (.arr [])).stringSet

theorem validateMembership_ok (returned : validateMembership claims authority = .ok roleIds) :
    MembershipHolds claims authority ∧ roleIds = claims.roles.eraseDups.insertionSort (· ≤ ·) := by
  unfold validateMembership at returned
  cases expected : claims.membershipId with
  | none =>
      rw [expected] at returned
      simp only [Stateful.bind_eq_ok, refuseIf_eq_ok] at returned
      obtain ⟨_, _, returned⟩ := returned
      cases returned
  | some id =>
      rw [expected] at returned
      simp only [Stateful.bind_eq_ok, refuseIf_eq_ok, lift_eq_ok, Bool.not_eq_false', exists_const,
        Json.equal_str, List.isEmpty_iff, Json.missing_eq_nil, pure, Except.pure,
        Except.ok.injEq] at returned
      obtain ⟨mapping, named, tenant, principal, active, status, rfl, every, roleIds_eq⟩ := returned
      exact ⟨⟨mapping, ⟨id, expected, named⟩, tenant, principal, status, every⟩, roleIds_eq.symm⟩

theorem roleBundles_ok (returned : roleBundles authority roleIds = .ok roles) :
    ∃ bundles, authority.item "role_bundles" (.arr []) = .arr bundles ∧
      (∀ roleId ∈ roleIds, (Json.lastById bundles roleId).isSome = true) ∧
      (∀ role ∈ roles, role.item "tenant_id" = .str (authority.item "tenant_id").pyStr) ∧
      rolesById bundles roleIds = roles := by
  unfold roleBundles at returned
  cases list : authority.item "role_bundles" (.arr []) with
  | arr bundles =>
      rw [list] at returned
      simp only [Stateful.bind_eq_ok, refuseIf_eq_ok, Bool.not_eq_false', exists_const,
        List.isEmpty_iff, unknownRoles_eq_nil, Stateful.forM_eq_ok, Json.equal_str, pure,
        Except.pure, Except.ok.injEq] at returned
      obtain ⟨known, tenant, rfl⟩ := returned
      exact ⟨bundles, rfl, known, tenant, rfl⟩
  | _ =>
      rw [list] at returned
      cases returned

/-- What `_validate_role_grants` accepts: grants without an id are not looked at. -/
structure GrantsHold (claims : AuthClaims) (authority : Json) (sources roles : List Json) :
    Prop where
  list : authority.item "data_sources" (.arr []) = .arr sources
  grants : ∀ role ∈ roles, ∀ grant ∈ dataSourceGrants role, ∀ id,
    grant.item "data_source_id" = .str id → dataSourceTenant sources id = .str claims.tenantId
  capabilities : ∀ capability ∈ claims.roleCapabilities, capability ∈ grantedCapabilities roles
  dataSources : ∀ source ∈ claims.roleDataSources, source ∈ grantedDataSources roles

theorem validateDataSourceGrant_ok {sources : List Json} {grant : Json} :
    validateDataSourceGrant claims sources grant = .ok value ↔
      ∀ id, grant.item "data_source_id" = .str id →
        dataSourceTenant sources id = .str claims.tenantId := by
  unfold validateDataSourceGrant
  cases grant.item "data_source_id" with
  | str id => simp
  | _ => simp

theorem validateRoleGrants_ok (returned : validateRoleGrants claims authority roles = .ok value) :
    ∃ sources, GrantsHold claims authority sources roles := by
  unfold validateRoleGrants at returned
  cases list : authority.item "data_sources" (.arr []) with
  | arr sources =>
      rw [list] at returned
      simp only [Stateful.bind_eq_ok, refuseIf_eq_ok, Bool.not_eq_false', exists_const,
        List.isEmpty_iff, Json.missing_eq_nil, Stateful.forM_eq_ok,
        validateDataSourceGrant_ok] at returned
      obtain ⟨grants, capabilities, dataSources⟩ := returned
      exact ⟨sources, list, grants, capabilities, dataSources⟩
  | _ =>
      rw [list] at returned
      cases returned

/-- What `_validate_selected_modules` accepts. -/
structure ModulesHold (authority : Json) (roles : List Json) (selectedModules : Text → List Text) :
    Prop where
  derived : ∀ role ∈ roles, (derivedModules role).isMapping = true
  allowed : ∀ field allowed code, (field, allowed, code) ∈ moduleChecks authority roles →
    ∀ name ∈ selectedModules field, name ∈ allowed
  instructions : ∀ name ∈ selectedModules "instructions", name ∈ baselineTenantInstructions

theorem validateSelectedModules_ok {selectedModules : Text → List Text}
    (returned : validateSelectedModules authority roles selectedModules = .ok value) :
    ModulesHold authority roles selectedModules := by
  unfold validateSelectedModules at returned
  simp only [Stateful.bind_eq_ok, refuseIf_eq_ok, Bool.not_eq_false', exists_const,
    List.isEmpty_iff, Json.missing_eq_nil, Stateful.forM_eq_ok] at returned
  obtain ⟨derived, allowed, instructions⟩ := returned
  exact ⟨derived, fun field names code member => allowed (field, names, code) member, instructions⟩

end Accepts

end TenantAccessValidator

end SkillCentric
