import SkillCentric.Control.Ingestion

/-!
# Tenant administration

The write requests of `handleTenantAdminContext`: a role bundle with its grants, a membership, a
data source.  Each is issued for the tenant of the request path; the hostname of the request has
to be one of that tenant's.  Of the context a `GET` request reads only the audit event is kept.
-/

namespace SkillCentric.Control

open SkillCentric Slug

/-- `toLowerCase`, as far as a hostname can keep the result. -/
def toLowerCase (text : Text) : Text :=
  text.map fun c =>
    if 'A' ≤ c ∧ c ≤ 'Z' then Char.ofNat (c.toNat + 32)
    else if c.toNat = 0x212A then 'k' else c

/-- The character class `[a-z0-9.-]`. -/
def isHostChar (c : Char) : Bool := isWordChar c || c == '.' || c == '-'

/-- `normalizeTenantHostname`. -/
def normalizeTenantHostname (value : Text) : Except Text Text :=
  let hostname := toLowerCase (trim value)
  let hostname := if hostname.getLast? = some '.' then hostname.dropLast else hostname
  let hostname :=
    match hostname.splitOn ':' with
    | [host, port] =>
        if !host.isEmpty && host.all isHostChar && isNumber port then host else hostname
    | _ => hostname
  if !hostname.isEmpty && hostname.all isHostChar && hostname.head?.any isWordChar &&
      hostname.getLast?.any isWordChar && (hostname.splitOn '.').all (!·.isEmpty) then
    return hostname
  else throw ("tenant_hostname_invalid" : Text)

structure DataSourceGrant where
  dataSourceId : Id
  accessModes : List AccessMode

/-- `TenantAdminRoleCreateRequest`. -/
structure TenantAdminRoleCreateRequest where
  id : Id
  displayName : Text
  roleType : RoleType
  assignableToUsers : Bool
  capabilityGrants : List Id
  dataSourceGrants : List DataSourceGrant
  derivedRuntimeModules : DerivedRuntimeModules

/-- `TenantAdminMembershipUpsertRequest`. -/
structure TenantAdminMembershipUpsertRequest where
  id : Id
  principalId : Id
  status : MembershipStatus
  roleIds : List Id

/-- `TenantAdminDataSourceCreateRequest`. -/
structure TenantAdminDataSourceCreateRequest where
  id : Id
  sourceType : DataSourceType
  displayName : Text
  accessModes : List AccessMode
  status : DataSourceStatus
  sensitivity : DataSourceSensitivity

/-- A statement that lists the ids of a tenant out of the given ones finds all of them. -/
def requireAll (ids : List Text) (select : List Text → Worker (List Text)) : Worker Bool := do
  let found ← select ids.eraseDups
  return found.length = ids.eraseDups.length

/-- `requireTenantDataSources`. -/
def requireTenantDataSources (tenantId : Text) (dataSourceIds : List Text) : Worker Bool :=
  if dataSourceIds.isEmpty then return true
  else requireAll dataSourceIds fun ids => perform (.selectTenantDataSources tenantId ids)

/-- `requireAssignableTenantRoles`. -/
def requireAssignableTenantRoles (tenantId : Text) (roleIds : List Text) : Worker Bool :=
  requireAll roleIds fun ids => perform (.selectAssignableRoles tenantId ids)

/-- `requireTenantMembershipIdAvailable`. -/
def requireTenantMembershipIdAvailable (tenantId membershipId : Text) : Worker Bool := do
  match ← perform (.selectMembershipTenant membershipId) with
  | none => return true
  | some owner => return owner = tenantId

namespace TenantAdminRoleCreateRequest

variable (tenantId : Text) (body : TenantAdminRoleCreateRequest)

def roleRow : TenantRoleBundleRow where
  id := body.id.val
  tenantId
  displayName := body.displayName
  roleType := body.roleType
  assignableToUsers := body.assignableToUsers
  derived := body.derivedRuntimeModules

def capabilityRows : List TenantRoleCapabilityGrantRow :=
  body.capabilityGrants.map fun capabilityId =>
    { id := "trcg-".toList ++ body.id.val ++ '-' :: capabilityId.val
      tenantId
      roleBundleId := body.id.val
      capabilityId := capabilityId.val }

def dataSourceRows : List TenantRoleDataSourceGrantRow :=
  body.dataSourceGrants.map fun grant =>
    { id := "trdsg-".toList ++ body.id.val ++ '-' :: grant.dataSourceId.val
      tenantId
      roleBundleId := body.id.val
      dataSourceId := grant.dataSourceId.val
      accessModes := grant.accessModes }

end TenantAdminRoleCreateRequest

/-- `createTenantAdminRole`. -/
def createTenantAdminRole (env : Env) (tenantId : Text) (body : TenantAdminRoleCreateRequest) :
    Worker Unit := do
  let owned ← requireTenantDataSources tenantId (body.dataSourceGrants.map (·.dataSourceId.val))
  if owned = false then throw ("tenant_data_source_denied" : Text)
  let timestamp ← nowIso
  perform <| .insertRole (body.roleRow tenantId) (body.capabilityRows tenantId)
    (body.dataSourceRows tenantId)
  writeAuditEvent env "tenant_admin_role_created" "tenant_role" body.id.val timestamp

/-- The membership row of a request. -/
def TenantAdminMembershipUpsertRequest.membershipRow (tenantId timestamp : Text)
    (body : TenantAdminMembershipUpsertRequest) : TenantMembershipRow where
  id := body.id.val
  tenantId
  principalId := body.principalId.val
  status := body.status
  roleIds := body.roleIds.map (·.val)
  createdAt := timestamp
  updatedAt := timestamp

/-- `upsertTenantAdminMembership`. -/
def upsertTenantAdminMembership (env : Env) (tenantId : Text)
    (body : TenantAdminMembershipUpsertRequest) : Worker Unit := do
  let available ← requireTenantMembershipIdAvailable tenantId body.id.val
  if available = false then throw ("tenant_membership_denied" : Text)
  let assignable ← requireAssignableTenantRoles tenantId (body.roleIds.map (·.val))
  if assignable = false then throw ("tenant_role_denied" : Text)
  let timestamp ← nowIso
  perform <| .upsertMembership (body.membershipRow tenantId timestamp)
  writeAuditEvent env "tenant_admin_membership_upserted" "tenant_membership" body.id.val timestamp

/-- `createTenantAdminDataSource`. -/
def createTenantAdminDataSource (env : Env) (tenantId : Text)
    (body : TenantAdminDataSourceCreateRequest) : Worker Unit := do
  let timestamp ← nowIso
  perform <| .insertDataSource
    { id := body.id.val
      tenantId
      sourceType := body.sourceType
      displayName := body.displayName
      accessModes := body.accessModes
      status := body.status
      sensitivity := body.sensitivity }
  writeAuditEvent env "tenant_admin_data_source_registered" "tenant_data_source" body.id.val
    timestamp

/-- The endpoints below a tenant's path. -/
inductive TenantAdminRequest where
  | context
  | createRole (body : TenantAdminRoleCreateRequest)
  | upsertMembership (body : TenantAdminMembershipUpsertRequest)
  | createDataSource (body : TenantAdminDataSourceCreateRequest)

/-- The checks of `loadTenantAdminContext`: whether the tenant is there, or an error. -/
def loadTenantAdminContext (tenantId requestedHostname : Text) : Worker Bool := do
  let tenantHostname ← Program.ofExcept (normalizeTenantHostname requestedHostname)
  match ← perform (.selectTenant tenantId) with
  | none => return false
  | some tenant =>
      if tenant.status ≠ .setup ∧ tenant.status ≠ .active then throw ("tenant_not_active" : Text)
      match ← perform (.selectTenantHostname tenant.id tenantHostname) with
      | none => throw ("tenant_hostname_not_found" : Text)
      | some _ => return true

/-- The endpoint's own part, once the context is loaded. -/
def serveTenantAdmin (env : Env) (tenantId : Text) : TenantAdminRequest → Worker Response
  | .context => do
      let timestamp ← nowIso
      writeAuditEvent env "tenant_admin_context_read" "tenant" tenantId timestamp
      return jsonResponse []
  | .createRole body => do
      createTenantAdminRole env tenantId body
      return jsonResponse [("status", .str "succeeded"), ("role_id", .str body.id.val)] 201
  | .upsertMembership body => do
      upsertTenantAdminMembership env tenantId body
      return jsonResponse [("status", .str "succeeded"), ("membership_id", .str body.id.val)] 201
  | .createDataSource body => do
      createTenantAdminDataSource env tenantId body
      return jsonResponse [("status", .str "succeeded"), ("data_source_id", .str body.id.val)] 201

/-- The `catch` of `handleTenantAdminContext`. -/
def tenantAdminError (env : Env) (tenantId error : Text) : Worker Response := do
  if error = "tenant_hostname_invalid".toList then
    return errorResponse 400 "tenant_hostname_invalid" "Tenant hostname is invalid."
  else if error = "tenant_hostname_not_found".toList then
    let timestamp ← nowIso
    writeAuditEvent env "tenant_admin_hostname_denied" "tenant" tenantId timestamp
    return errorResponse 403 "tenant_hostname_denied"
      "Tenant hostname does not match this tenant."
  else if error = "tenant_not_active".toList then
    return errorResponse 403 "tenant_not_active" "Tenant is not active."
  else if error = "tenant_data_source_denied".toList then
    return errorResponse 403 "tenant_data_source_denied"
      "Tenant data source does not belong to this tenant."
  else if error = "tenant_role_denied".toList then
    return errorResponse 403 "tenant_role_denied" "Tenant role cannot be assigned."
  else if error = "tenant_membership_denied".toList then
    return errorResponse 403 "tenant_membership_denied"
      "Tenant membership does not belong to this tenant."
  else
    return errorResponse 500 "tenant_admin_unavailable" "Tenant admin context is unavailable."

/-- The `try` of `handleTenantAdminContext`. -/
def tryTenantAdmin (env : Env) (tenantId hostname : Text) (request : TenantAdminRequest) :
    Worker Response := do
  let known ← loadTenantAdminContext tenantId hostname
  if known = false then
    return errorResponse 404 "tenant_not_found" "Tenant was not found."
  serveTenantAdmin env tenantId request

/-- `handleTenantAdminContext`, on a request whose body passed its check. -/
def handleTenantAdminContext (env : Env) (tenantId : Id) (hostname : Text)
    (request : TenantAdminRequest) : Worker Response := do
  match ← (tryTenantAdmin env tenantId.val hostname request).attempt with
  | .ok response => return response
  | .error error => tenantAdminError env tenantId.val error

end SkillCentric.Control
