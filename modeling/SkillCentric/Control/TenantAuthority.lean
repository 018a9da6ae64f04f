import SkillCentric.Control.Composition
import SkillCentric.Control.Seed
import SkillCentric.Control.TenantAdmin
import SkillCentric.Runtime.JsonText

/-!
# Authority snapshots

`loadTenantAuthority`: the tenant, hostname, membership and role bundles that a composition request
is made under, read from one state of the database, and the scope names that the bindings of the
principal allow.
-/

namespace SkillCentric.Control

open SkillCentric

variable {host : Host}

/-- `Array.from(names).sort()`. -/
def sortNames (names : List Text) : List Text :=
  names.insertionSort fun left right => codeUnits left ≤ codeUnits right

/-- The sets of `allowedScopeNamesByKind`, in insertion order. -/
structure AllowedScopeNames where
  knowledgeScope : List Text := []
  dataScope : List Text := []
  memoryScope : List Text := []
  deriving DecidableEq

namespace AllowedScopeNames

/-- The names of a kind. -/
def ofKind (allowed : AllowedScopeNames) : ModuleKind → List Text
  | .knowledgeScope => allowed.knowledgeScope
  | .dataScope => allowed.dataScope
  | .memoryScope => allowed.memoryScope
  | _ => []

/-- `names.add(name)`. -/
def addName (names : List Text) (name : Text) : List Text :=
  if name ∈ names then names else names ++ [name]

/-- `allowed[kind].add(name)`; only scopes have a set. -/
def add (allowed : AllowedScopeNames) (kind : ModuleKind) (name : Text) : AllowedScopeNames :=
  match kind with
  | .knowledgeScope => { allowed with knowledgeScope := addName allowed.knowledgeScope name }
  | .dataScope => { allowed with dataScope := addName allowed.dataScope name }
  | .memoryScope => { allowed with memoryScope := addName allowed.memoryScope name }
  | _ => allowed

end AllowedScopeNames

/-- One turn of the loop of `allowedScopeNamesByKind`. -/
def addAllowedScope (modules : List (RegistryModule host)) (allowed : AllowedScopeNames)
    (binding : ScopeBinding) : AllowedScopeNames :=
  if binding.effect ≠ .allow || !binding.scopeKind.isScope then allowed
  else
    match moduleById modules binding.scopeId with
    | none => allowed
    | some module => if module.kind.isScope then allowed.add module.kind module.name else allowed

/-- `allowedScopeNamesByKind`. -/
def allowedScopeNamesByKind (scopeBindings : List ScopeBinding)
    (modules : List (RegistryModule host)) : AllowedScopeNames :=
  let allowed := scopeBindings.foldl (addAllowedScope modules) {}
  { knowledgeScope := sortNames allowed.knowledgeScope
    dataScope := sortNames allowed.dataScope
    memoryScope := sortNames allowed.memoryScope }

/-- The database with all columns of the tenants and hostnames. -/
structure AuthorityDatabase extends Database where
  tenantRecords : Table TenantRecord
  hostnameRecords : Table TenantHostnameRecord
  tenants_eq : tenants.rows = tenantRecords.rows.map fun row => row.toTenantRow
  hostnames_eq : tenantHostnames.rows = hostnameRecords.rows.map fun row => row.toTenantHostnameRow

/-- `tenant_context` of a composition request. -/
structure TenantContext where
  tenantId : Id
  areaId : Id
  hostname : Option Text
  membershipId : Option Id

/-- `membership` of an authority. -/
structure TenantAuthorityMembership where
  id : Text
  tenantId : Text
  principalId : Text
  status : MembershipStatus
  roleIds : List Text
  deriving DecidableEq

/-- `TenantAuthorityRoleBundle`. -/
structure TenantAuthorityRoleBundle where
  id : Text
  tenantId : Text
  capabilityGrants : List Text
  dataSourceGrants : List TenantDataSourceGrant
  derivedRuntimeModules : DerivedRuntimeModules
  deriving DecidableEq

/-- An entry of `data_sources` of an authority. -/
structure TenantAuthorityDataSource where
  id : Text
  tenantId : Text
  status : DataSourceStatus
  deriving DecidableEq

/-- `TenantAuthority`. -/
structure TenantAuthority where
  tenantId : Text
  areaId : Text
  hostnameTenantId : Text
  hostname : HostnameRecord
  status : TenantStatus
  directUserGrantsAllowed : Bool
  membership : TenantAuthorityMembership
  roleBundles : List TenantAuthorityRoleBundle
  dataSources : List TenantAuthorityDataSource
  allowedKnowledgeScopes : List Text
  allowedDataScopes : List Text
  allowedMemoryScopes : List Text
  deriving DecidableEq

section Selects

variable (database : Database) (tenantId : Text) (roleIds : List Text)

/-- `selectTenantRoleBundles`. -/
def selectTenantRoleBundles : List TenantRoleBundleRow :=
  (database.tenantRoleBundles.rows.filter fun row =>
    row.tenantId = tenantId && roleIds.contains row.id).insertionSort fun left right =>
      left.id ≤ right.id

/-- `selectTenantDataSources`. -/
def selectTenantDataSources : List TenantDataSourceRow :=
  (database.tenantDataSources.rows.filter fun row => row.tenantId = tenantId).insertionSort
    fun left right => left.id ≤ right.id

/-- `selectTenantRoleCapabilityGrants`. -/
def selectTenantRoleCapabilityGrants : List TenantRoleCapabilityGrantRow :=
  (database.tenantRoleCapabilityGrants.rows.filter fun row =>
    row.tenantId = tenantId && roleIds.contains row.roleBundleId).insertionSort
      fun left right => inOrder (·.roleBundleId) (·.capabilityId) left right

/-- `selectTenantRoleDataSourceGrants`. -/
def selectTenantRoleDataSourceGrants : List TenantRoleDataSourceGrantRow :=
  (database.tenantRoleDataSourceGrants.rows.filter fun row =>
    row.tenantId = tenantId && roleIds.contains row.roleBundleId).insertionSort
      fun left right => inOrder (·.roleBundleId) (·.dataSourceId) left right

/-- A role bundle of a snapshot: the row with its grants, as `groupCapabilityGrantsByRole` and
`groupDataSourceGrantsByRole` give them. -/
def authorityRoleBundle (role : TenantRoleBundleRow) : TenantAuthorityRoleBundle where
  id := role.id
  tenantId := role.tenantId
  capabilityGrants :=
    ((selectTenantRoleCapabilityGrants database tenantId roleIds).filter fun row =>
    row.roleBundleId = role.id).map (·.capabilityId)
  dataSourceGrants :=
    ((selectTenantRoleDataSourceGrants database tenantId roleIds).filter fun row =>
    row.roleBundleId = role.id).map fun row => ⟨row.dataSourceId, row.accessModes⟩
  derivedRuntimeModules := role.derived

end Selects

/-- The authority of a membership, once the rows it is made of are found. -/
def tenantAuthority (database : Database) (tenant : TenantRecord) (hostname : TenantHostnameRecord)
    (membership : TenantMembershipRow) (allowedScopeNames : AllowedScopeNames)
    (roleBundles : List TenantAuthorityRoleBundle) : TenantAuthority where
  tenantId := tenant.id
  areaId := tenant.areaId
  hostnameTenantId := hostname.tenantId
  hostname := ⟨hostname.hostname, hostname.purpose, hostname.expectedOrigin,
    hostname.cloudflareProxyExpected⟩
  status := tenant.status
  directUserGrantsAllowed := false
  membership := ⟨membership.id, membership.tenantId, membership.principalId, membership.status,
    membership.roleIds⟩
  roleBundles
  dataSources := (selectTenantDataSources database tenant.id).map fun source =>
    ⟨source.id, source.tenantId, source.status⟩
  allowedKnowledgeScopes := allowedScopeNames.knowledgeScope
  allowedDataScopes := allowedScopeNames.dataScope
  allowedMemoryScopes := allowedScopeNames.memoryScope

/-- The role bundles of the stored role ids, or an error. -/
def loadRoleBundles (database : Database) (tenantId : Text) (roleIds : List Text) :
    Except Text (List TenantAuthorityRoleBundle) := do
  if roleIds.isEmpty then throw ("tenant_membership_roles_required" : Text)
  let roleRows := selectTenantRoleBundles database tenantId roleIds
  if roleRows.length ≠ roleIds.length then throw ("tenant_role_not_found" : Text)
  roleRows.mapM fun role =>
    if roleIds.contains role.id then .ok (authorityRoleBundle database tenantId roleIds role)
    else .error ("tenant_role_not_requested" : Text)

/-- `loadTenantAuthority` of a request with a tenant context. -/
def loadAuthorityOf (database : AuthorityDatabase) (principal : Principal)
    (tenantContext : TenantContext) (scopeBindings : List ScopeBinding)
    (modules : List (RegistryModule host)) : Except Text (Option TenantAuthority) := do
  let tenantId := tenantContext.tenantId.val
  if tenantId = "global".toList ∨ tenantContext.areaId.val = "global".toList then return none
  let some membershipId := tenantContext.membershipId | throw ("tenant_membership_required" : Text)
  let some requested := tenantContext.hostname | throw ("tenant_hostname_required" : Text)
  let tenantHostname ← normalizeTenantHostname requested
  let some tenant := database.tenantRecords.rows.find? fun row =>
      row.id = tenantId && row.areaId = tenantContext.areaId.val
    | throw ("tenant_not_found" : Text)
  let some hostname := database.hostnameRecords.rows.find? fun row =>
      row.tenantId = tenantId && row.hostname = tenantHostname
    | throw ("tenant_hostname_not_found" : Text)
  let some membership := database.tenantMemberships.rows.find? fun row =>
      row.id = membershipId.val && row.tenantId = tenantId && row.principalId = principal.id
    | throw ("tenant_membership_not_found" : Text)
  let roleBundles ← loadRoleBundles database.toDatabase tenantId membership.roleIds
  return some (tenantAuthority database.toDatabase tenant hostname membership
    (allowedScopeNamesByKind scopeBindings modules) roleBundles)

/-- `loadTenantAuthority`. -/
def loadTenantAuthority (database : AuthorityDatabase) (principal : Principal)
    (tenantContext : Option TenantContext) (scopeBindings : List ScopeBinding)
    (modules : List (RegistryModule host)) : Except Text (Option TenantAuthority) :=
  match tenantContext with
  | none => return none
  | some tenantContext =>
      loadAuthorityOf database principal tenantContext scopeBindings modules

end SkillCentric.Control
