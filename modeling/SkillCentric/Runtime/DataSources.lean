import SkillCentric.Runtime.Enforcement

/-!
# Tenant data sources

`TenantDataSourceConnector`: the data sources that a sealed profile may connect to, through the role
bundles of its tenant authority.
-/

namespace SkillCentric

open RuntimeProfileEnforcer

/-- What the connector raises. -/
inductive DataSourceError where
  /-- `TenantDataSourceError(message)`. -/
  | refused (message : Text)
  | raised (error : PyError)
  deriving DecidableEq

/-- `TenantDataSourceHandle`. -/
structure TenantDataSourceHandle where
  dataSourceId : Text
  tenantId : Text
  accessMode : Text
  status : Text
  deriving DecidableEq

namespace TenantDataSourceConnector

/-- A computation of the connector. -/
abbrev Connect := Except DataSourceError

/-- Refuse under a condition. -/
def refuseIf (condition : Bool) (message : Text) : Connect Unit :=
  if condition then .error (.refused message) else .ok ()

/-- `value in {...}` of strings. -/
def isIn (value : Json) (texts : List Text) : Connect Bool :=
  (value.isOneOf texts).mapError .raised

section Profile

variable (profile : JsonObject)

/-- `self.tenant_context`. -/
def tenantContext : Json := (Json.obj profile).item "tenant_context"

/-- `self.tenant_authority`. -/
def tenantAuthority : Json := (Json.obj profile).item "tenant_authority"

/-- The data sources of the authority. -/
def dataSources : List Json := ((tenantAuthority profile).item "data_sources" (.arr [])).mappings

/-- The role bundles of the authority. -/
def roleBundles : List Json := ((tenantAuthority profile).item "role_bundles" (.arr [])).mappings

/-- The role ids of the profile. -/
def roleIds : List Text := ((tenantContext profile).item "role_ids" (.arr [])).stringSet

/-- `_data_source`: the first one with the id. -/
def dataSource (dataSourceId : Text) : Connect Json :=
  match (dataSources profile).find? fun source => (source.item "id").equal (.str dataSourceId) with
  | some source => .ok source
  | none => .error (.refused "Data source is not present in tenant authority.")

/-- The access modes that a role grants on a data source. -/
def modesOf (dataSourceId : Text) (role : Json) : List Text :=
  ((dataSourceGrants role).filter fun grant =>
    (grant.item "data_source_id").equal (.str dataSourceId)).flatMap fun grant =>
      (grant.item "access_modes" (.arr [])).stringSet

/-- `_granted_access_modes`: those of every role bundle with a selected id. -/
def grantedAccessModes (dataSourceId : Text) : Connect (List Text) := do
  let found ← (roleBundles profile).mapM fun role => do
    let selected ← isIn (role.item "id") (roleIds profile)
    return if selected then modesOf dataSourceId role else []
  let modes := found.flatten
  refuseIf modes.isEmpty "Data source is not granted by selected roles."
  return modes

/-- `connect`. -/
def connect (dataSourceId accessMode : Text) : Connect TenantDataSourceHandle := do
  let tenantId := tenantId (tenantContext profile)
  refuseIf (tenantId.isEmpty || tenantId == ("global" : Text))
    "Tenant data sources require a tenant-scoped profile."
  let allowedRoleSources :=
    ((tenantContext profile).item "allowed_role_data_sources" (.arr [])).stringSet
  refuseIf (!allowedRoleSources.contains dataSourceId)
    "Data source is not granted by the active tenant role."
  let source ← dataSource profile dataSourceId
  refuseIf (!(source.item "tenant_id").equal (.str tenantId)) "Data source crosses tenant boundary."
  let available ← isIn (source.item "status") ["planned", "active"]
  refuseIf (!available) "Data source is not available."
  let grantedModes ← grantedAccessModes profile dataSourceId
  refuseIf (!grantedModes.contains accessMode)
    "Requested access mode is not granted by the tenant role."
  return { dataSourceId, tenantId, accessMode, status := (source.item "status").pyStr }

end Profile

end TenantDataSourceConnector

end SkillCentric
