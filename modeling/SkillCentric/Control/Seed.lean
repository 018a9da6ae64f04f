import SkillCentric.Control.ModuleFiles
import SkillCentric.Library.Seeding

/-!
# The control-plane seed

`build_seed_records` turns module files and tenant files into rows, `generate_seed_sql` into one
upsert a row.  Rows refer to each other by ids that are joined from names.  Columns that have the
same value in every row of a table are left out.
-/

namespace SkillCentric.Control

open SkillCentric

/-- What the seed relies on: Unicode tables, and numbers between 0 and 1. -/
structure SeedHost (host : Host) where
  casefold : Text → Text
  isAlnum : Char → Bool
  /-- `selection_base_score >= 0 AND selection_base_score <= 1`. -/
  inRange : host.Number → Bool
  inRange_zero : inRange host.zero = true
  half : host.Number
  inRange_half : inRange half = true

/-- The seed over the plain host, for texts of ASCII characters. -/
def plainSeedHost : SeedHost plainHost where
  casefold := Slug.casefold
  isAlnum := Slug.isWordChar
  inRange := fun score : Int => 0 ≤ score && score ≤ 100
  inRange_zero := by decide
  half := (50 : Int)
  inRange_half := by decide

variable {host : Host}

/-- `_slugify`. -/
def slugify (seedHost : SeedHost host) (value : Text) : Text :=
  let slug := (seedHost.casefold value).map fun c => if seedHost.isAlnum c then c else '-'
  Slug.stripChars (· == '-') (Slug.hyphenateRuns (· != '-') false slug)

/-- `_module_id`. -/
def moduleId (name : Text) : Text := ("mod-" : Text) ++ name

/-- `value.replace(old, new)` for single characters. -/
def replaceChar (old new : Char) (value : Text) : Text :=
  value.map fun c => if c = old then new else c

/-- `_module_version_id`. -/
def moduleVersionId (name version : Text) : Text :=
  ("mv-" : Text) ++ name ++ '-' :: replaceChar '.' '-' version

/-- `_selection_metadata_id`. -/
def selectionMetadataId (name version : Text) : Text :=
  ("msm-" : Text) ++ name ++ '-' :: replaceChar '.' '-' version

/-- `_dependency_id`. -/
def dependencyId (sourceName : Text) (field : ReferenceField) (dependencyName : Text) : Text :=
  ("dep-" : Text) ++ sourceName ++ '-' :: replaceChar '_' '-' field.text ++ '-' :: dependencyName

/-- `_policy_binding_id`. -/
def policyBindingId (policyName moduleName : Text) : Text :=
  ("pb-" : Text) ++ policyName ++ '-' :: moduleName

/-- `_scope_binding_id`. -/
def scopeBindingId (scopeName principalId : Text) : Text :=
  ("sb-" : Text) ++ principalId ++ '-' :: scopeName

/-- `_tenant_hostname_id`. -/
def tenantHostnameId (seedHost : SeedHost host) (tenantId hostname : Text) : Text :=
  ("th-" : Text) ++ tenantId ++ '-' :: slugify seedHost hostname

/-- `_tenant_membership_id`. -/
def tenantMembershipId (tenantId principalId : Text) : Text :=
  ("tm-" : Text) ++ tenantId ++ '-' :: principalId

/-- `_tenant_capability_grant_id`. -/
def tenantCapabilityGrantId (roleId capabilityId : Text) : Text :=
  ("trcg-" : Text) ++ roleId ++ '-' :: capabilityId

/-- `_tenant_data_source_grant_id`. -/
def tenantDataSourceGrantId (roleId dataSourceId : Text) : Text :=
  ("trdsg-" : Text) ++ roleId ++ '-' :: dataSourceId

/-- A module and where its version comes from. -/
structure SeedModule (host : Host) where
  module : ModuleMetadata host
  sourceUri : Text
  checksum : Text

/-- `_normalize_task_type`. -/
def normalizeTaskType : Text → Text := replaceChar '_' '-'

/-- `_normalize_signal`. -/
def normalizeSignal (signal : Text) : Text :=
  if Slug.startsWith signal "task_type:" then
    ("task_type:" : Text) ++ normalizeTaskType (signal.drop 10)
  else signal

/-- `_normalize_module`. -/
def normalizeModule (module : ModuleMetadata host) : ModuleMetadata host :=
  { module with
    taskTypes := module.taskTypes.map normalizeTaskType
    scoreModifiers := module.scoreModifiers.map fun modifier =>
      { modifier with signal := normalizeSignal modifier.signal } }

/-- `_load_module`. -/
def loadModule (file : ModuleFile host) : SeedModule host :=
  ⟨normalizeModule file.module, ("repo://" : Text) ++ file.repoPath,
    ("sha256:" : Text) ++ file.digest⟩

/-- Paths in the order of `sorted`. -/
def sortPaths {α : Type} (path : α → Text) (files : List α) : List α :=
  files.insertionSort fun left right => (path left).splitOn '/' ≤ (path right).splitOn '/'

/-- `sorted` on a set. -/
def sortedSet (values : List Text) : List Text := values.eraseDups.insertionSort (· ≤ ·)

/-- The name and kind a reference asks for. -/
def FileReference.wanted (reference : FileReference) : Text × ModuleKind :=
  (reference.targetName, reference.field.kind)

/-- The keys of `_module_dependencies`. -/
def moduleDependencies (modules : List (ModuleMetadata host)) : List (Text × ModuleKind) :=
  ((modules.flatMap ModuleMetadata.allReferences).map FileReference.wanted).eraseDups

/-- `CAPABILITY_CLASS_BY_KIND`. -/
def capabilityClassByKind : ModuleKind → Text
  | .instruction => "instruction"
  | .skill => "analysis"
  | .tool => "tool_access"
  | .knowledgeScope => "knowledge_access"
  | .dataScope => "data_access"
  | .memoryScope => "memory_access"
  | .policy => "policy"
  | .validator => "validation"

/-- `DEFAULT_VERSION`. -/
def defaultVersion : Text := "0.1.0"

/-- The stub of a dependency; scopes match the tasks of the modules that refer to them. -/
def stubModule (modules : List (ModuleMetadata host)) (dependency : Text × ModuleKind) :
    SeedModule host :=
  let (name, kind) := dependency
  let users := modules.filter fun module =>
    (module.allReferences.map FileReference.wanted).contains dependency
  let gathered (values : ModuleMetadata host → List Text) :=
    if kind.isScope then sortedSet (users.flatMap values) else []
  { module :=
      { name
        version := defaultVersion
        kind
        description := ("Generated " : Text) ++ kind.text ++ (" module for " : Text) ++ name ++
          ("." : Text)
        capabilityClass := capabilityClassByKind kind
        domainTags := gathered ModuleMetadata.taskDomains
        taskTypes := gathered ModuleMetadata.taskTypes
        riskLevels := gathered ModuleMetadata.riskLevels
        taskDomains := gathered ModuleMetadata.taskDomains
        phrases := [name]
        triggers := [name]
        outputs := [name ++ ("-output" : Text)]
        mode := .dependencyOnly }
    sourceUri := ("generated://" : Text) ++ kind.text ++ '/' :: name
    checksum := ("sha256:generated-" : Text) ++ name }

/-- `_stub_modules`: dependencies without a module of their name and kind. -/
def stubModules (modules : List (ModuleMetadata host)) : List (SeedModule host) :=
  ((moduleDependencies modules).filter fun dependency =>
    !(modules.map fun module => (module.name, module.kind)).contains dependency).map
      (stubModule modules)

inductive HostnamePurpose where
  | primaryUi
  | api
  | admin
  deriving DecidableEq, Repr

/-- An entry of `hostnames`. -/
structure HostnameRecord where
  hostname : Text
  purpose : HostnamePurpose
  expectedOrigin : Option Text
  cloudflareProxyExpected : Bool
  deriving DecidableEq

/-- An entry of `data_source_grants`. -/
structure TenantDataSourceGrant where
  dataSourceId : Text
  accessModes : List AccessMode
  deriving DecidableEq

/-- An entry of `role_bundles`: the columns of the role bundle and its grants. -/
structure RoleBundle extends TenantRoleBundleRow where
  capabilityGrants : List Text
  dataSourceGrants : List TenantDataSourceGrant
  deriving DecidableEq

/-- A tenant file, as far as the seed reads it. -/
structure TenantFile where
  path : Text
  tenantId : Text
  areaId : Text
  displayName : Text
  legalName : Text
  status : TenantStatus
  defaultLocale : Text
  contactEmail : Text
  contactPhone : Option Text
  contactWebsite : Option Text
  areaBrainId : Text
  sharedPromotionAllowed : Bool
  knowledgeScopeId : Text
  knowledgeIndexes : List Text
  policyBundle : List Text
  validators : List Text
  hostnames : List HostnameRecord
  dataSources : List TenantDataSourceRow
  /-- `admin_model.initial_owner.user_id`. -/
  initialOwner : Option Text
  roleBundles : List RoleBundle

/-- The access mode as files carry it. -/
def AccessMode.text : AccessMode → Text
  | .read => "read"
  | .write => "write"
  | .administer => "administer"

/-- `_generated_scope_module`. -/
def generatedScopeModule (seedHost : SeedHost host) (name : Text) (kind : ModuleKind)
    (capabilityClass tenantId : Text) (taskTypes domains : List Text) : SeedModule host :=
  { module :=
      { name
        version := defaultVersion
        kind
        description :=
          ("Generated tenant " : Text) ++ kind.text ++ (" module for " : Text) ++ name ++
          ("." : Text)
        capabilityClass
        domainTags := "tenant".toList :: tenantId :: domains
        taskTypes
        riskLevels := ["low", "medium", "high"]
        taskDomains := domains
        phrases := [name, tenantId]
        triggers := [name]
        outputs := [name ++ ("-output" : Text)]
        mode := .direct
        baseScore := some seedHost.half }
    sourceUri := ("generated://tenant-scope/" : Text) ++ name
    checksum := ("sha256:generated-" : Text) ++ name }

/-- `_tenant_scope_modules`. -/
def tenantScopeModules (seedHost : SeedHost host) (tenants : List TenantFile) :
    List (SeedModule host) :=
  ((sortPaths TenantFile.path tenants).flatMap fun tenant =>
    (tenant.knowledgeIndexes.map fun scopeName =>
      generatedScopeModule seedHost scopeName .knowledgeScope "knowledge_access" tenant.tenantId
        ["research"] ["research", "knowledge-retrieval"]) ++
    tenant.dataSources.flatMap fun dataSource => dataSource.accessModes.map fun accessMode =>
      generatedScopeModule seedHost (dataSource.id ++ '-' :: accessMode.text)
        .dataScope "data_access"
        tenant.tenantId ["research", "task-execution"] ["research", "task-execution"]).insertionSort
          fun left right => left.module.name ≤ right.module.name

/-- A row of `tenants`. -/
structure TenantRecord extends TenantRow where
  areaId : Text
  displayName : Text
  legalName : Text
  defaultLocale : Text
  contactEmail : Text
  contactPhone : Option Text
  contactWebsite : Option Text
  memoryAreaBrainId : Text
  sharedPromotionAllowed : Bool
  knowledgeScopeId : Text
  policyBundleJson : List Text
  validatorsJson : List Text
  deriving DecidableEq

/-- A row of `tenant_hostnames`. -/
structure TenantHostnameRecord extends TenantHostnameRow where
  purpose : HostnamePurpose
  expectedOrigin : Option Text
  cloudflareProxyExpected : Bool
  deriving DecidableEq

/-- A row of `module_versions`. -/
structure ModuleVersionRecord (host : Host) extends ModuleVersionRow host where
  sourceUri : Text
  checksum : Text

instance : Keyed TenantRecord Text := ⟨fun row => row.id⟩
instance : Keyed TenantHostnameRecord Text := ⟨fun row => row.id⟩
instance : Keyed (ModuleVersionRecord host) Text := ⟨fun row => row.id⟩

/-- `sorted(values)`, as `_json_array` writes them. -/
def jsonTexts (values : List Text) : List Text := values.insertionSort (· ≤ ·)

/-- `_json_array`. -/
def jsonArray (values : List Text) : Json := .arr ((jsonTexts values).map Json.str)

/-- `_json_array` of access modes. -/
def jsonModes (modes : List AccessMode) : List AccessMode :=
  modes.insertionSort fun left right => left.text ≤ right.text

/-- The row of a tenant. -/
def tenantRecord (tenant : TenantFile) : TenantRecord where
  id := tenant.tenantId
  status := tenant.status
  areaId := tenant.areaId
  displayName := tenant.displayName
  legalName := tenant.legalName
  defaultLocale := tenant.defaultLocale
  contactEmail := tenant.contactEmail
  contactPhone := tenant.contactPhone
  contactWebsite := tenant.contactWebsite
  memoryAreaBrainId := tenant.areaBrainId
  sharedPromotionAllowed := tenant.sharedPromotionAllowed
  knowledgeScopeId := tenant.knowledgeScopeId
  policyBundleJson := jsonTexts tenant.policyBundle
  validatorsJson := jsonTexts tenant.validators

/-- The row of a hostname. -/
def hostnameRecord (seedHost : SeedHost host) (tenantId : Text) (entry : HostnameRecord) :
    TenantHostnameRecord where
  id := tenantHostnameId seedHost tenantId entry.hostname
  tenantId
  hostname := entry.hostname
  purpose := entry.purpose
  expectedOrigin := entry.expectedOrigin
  cloudflareProxyExpected := entry.cloudflareProxyExpected

/-- The row of a data source. -/
def dataSourceRecord (dataSource : TenantDataSourceRow) : TenantDataSourceRow :=
  { dataSource with accessModes := jsonModes dataSource.accessModes }

/-- The row of a role bundle. -/
def roleBundleRecord (role : RoleBundle) : TenantRoleBundleRow :=
  { role.toTenantRoleBundleRow with
    derived :=
      { skills := jsonTexts role.derived.skills
        workflows := jsonTexts role.derived.workflows
        tools := jsonTexts role.derived.tools
        policies := jsonTexts role.derived.policies
        validators := jsonTexts role.derived.validators } }

/-- `DEFAULT_CREATED_AT`. -/
def defaultCreatedAt : Text := "2026-05-22T00:00:00Z"

/-- `DEFAULT_PRINCIPAL_ID`. -/
def defaultPrincipalId : Text := "repository-maintainer"

/-- `_default_runtime_membership_role_id`; a tenant without roles raises an index error. -/
def defaultRuntimeMembershipRoleId (tenant : TenantFile) : Option Text :=
  match tenant.roleBundles.find? fun role => role.capabilityGrants.contains ("research" : Text) with
  | some role => some role.id
  | none => tenant.roleBundles.head?.map fun role => role.id

/-- An active membership. -/
def membershipRecord (tenantId principalId roleId : Text) : TenantMembershipRow where
  id := tenantMembershipId tenantId principalId
  tenantId
  principalId
  status := .active
  roleIds := jsonTexts [roleId]
  createdAt := defaultCreatedAt
  updatedAt := defaultCreatedAt

/-- The membership of a tenant: that of its owner, or the default one. -/
def tenantMembership (tenant : TenantFile) : Option TenantMembershipRow :=
  match tenant.initialOwner with
  | some owner =>
    some (membershipRecord tenant.tenantId owner (tenant.tenantId ++ ("-owner" : Text)))
  | none => (defaultRuntimeMembershipRoleId tenant).map
      (membershipRecord tenant.tenantId defaultPrincipalId)

/-- The row of a capability that a role grants. -/
def capabilityGrantRecord (role : RoleBundle) (capability : Text) :
    TenantRoleCapabilityGrantRow where
  id := tenantCapabilityGrantId role.id capability
  tenantId := role.tenantId
  roleBundleId := role.id
  capabilityId := capability

/-- The row of a data source that a role grants. -/
def dataSourceGrantRecord (role : RoleBundle) (grant : TenantDataSourceGrant) :
    TenantRoleDataSourceGrantRow where
  id := tenantDataSourceGrantId role.id grant.dataSourceId
  tenantId := role.tenantId
  roleBundleId := role.id
  dataSourceId := grant.dataSourceId
  accessModes := jsonModes grant.accessModes

/-- `_module_record`. -/
def moduleRecord (module : ModuleMetadata host) : RegistryRow where
  id := moduleId module.name
  name := module.name
  kind := module.kind
  status := .active
  currentVersionId := moduleVersionId module.name module.version

/-- `_module_version_record`. -/
def moduleVersionRecord (seed : SeedModule host) : ModuleVersionRecord host where
  id := moduleVersionId seed.module.name seed.module.version
  moduleId := moduleId seed.module.name
  version := seed.module.version
  selectionBaseScore := seed.module.baseScore.getD host.zero
  sourceUri := seed.sourceUri
  checksum := seed.checksum

/-- A score modifier as `json.dumps` writes it. -/
def ScoreModifier.toJson (modifier : ScoreModifier host) : Json :=
  .obj [("reason", .str modifier.reason), ("signal", .str modifier.signal),
    ("weight", host.toJson modifier.weight)]

/-- `_selection_metadata_record`. -/
def selectionMetadataRecord (module : ModuleMetadata host) : SelectionMetadataRow where
  id := selectionMetadataId module.name module.version
  moduleVersionId := moduleVersionId module.name module.version
  description := module.description
  capabilityClass := module.capabilityClass
  domainTagsJson := jsonArray module.domainTags
  taskTypesJson := jsonArray module.taskTypes
  riskLevelsJson := jsonArray module.riskLevels
  taskDomainsJson := jsonArray module.taskDomains
  requiredInputsJson := jsonArray module.requiredInputs
  phrasesJson := jsonArray module.phrases
  negativePhrasesJson := jsonArray module.negativePhrases
  triggersJson := jsonArray module.triggers
  inputsJson := jsonArray module.inputs
  outputsJson := jsonArray module.outputs
  scoreModifiersJson := .arr (module.scoreModifiers.map ScoreModifier.toJson)
  requiresAllPolicies := module.requiresAllPolicies

/-- The third components of `REFERENCE_FIELDS`. -/
def ReferenceField.isRequired : ReferenceField → Bool
  | .optionalTools => false
  | _ => true

/-- The dependency rows of a module. -/
def dependencyRecords (module : ModuleMetadata host) : List ModuleDependencyRow :=
  module.allReferences.map fun reference =>
    { id := dependencyId module.name reference.field reference.targetName
      moduleVersionId := moduleVersionId module.name module.version
      dependencyKind := reference.field.kind
      dependencyId := moduleId reference.targetName
      isRequired := reference.field.isRequired }

/-- The policies of a module allow it. -/
def policyBindingRecords (module : ModuleMetadata host) : List PolicyBindingRow :=
  (module.references .policies).map fun policyName =>
    { id := policyBindingId policyName module.name
      policyId := moduleId policyName
      targetKind := .module
      targetId := moduleId module.name
      effect := .allow
      priority := 100 }

/-- The first policy name binds every scope to the default principal. -/
def scopeBindingRecords (actual all : List (ModuleMetadata host)) : List ScopeBindingRow :=
  let policyNames := ((all.filter fun module => module.kind = .policy).map
    ModuleMetadata.name).insertionSort (· ≤ ·)
  match policyNames with
  | [] => []
  | defaultPolicyName :: _ =>
      (((moduleDependencies actual).filter fun dependency => dependency.2.isScope) ++
        (all.filter fun module => module.kind.isScope).map fun module =>
          (module.name, module.kind)).eraseDups.map fun scope =>
            { id := scopeBindingId scope.1 defaultPrincipalId
              scopeId := moduleId scope.1
              scopeKind := scope.2
              principalKind := .role
              principalId := defaultPrincipalId
              policyId := moduleId defaultPolicyName
              effect := .allow }

/-- `ControlPlaneSeedRecords`. -/
structure SeedRecords (host : Host) where
  tenants : List TenantRecord
  tenantHostnames : List TenantHostnameRecord
  tenantDataSources : List TenantDataSourceRow
  tenantRoleBundles : List TenantRoleBundleRow
  tenantMemberships : List TenantMembershipRow
  tenantRoleCapabilityGrants : List TenantRoleCapabilityGrantRow
  tenantRoleDataSourceGrants : List TenantRoleDataSourceGrantRow
  modules : List RegistryRow
  moduleVersions : List (ModuleVersionRecord host)
  selectionMetadata : List SelectionMetadataRow
  dependencies : List ModuleDependencyRow
  policyBindings : List PolicyBindingRow
  scopeBindings : List ScopeBindingRow

/-- `sorted(records, key=lambda item: item["id"])`. -/
def sortRecords {ρ : Type} (id : ρ → Text) (records : List ρ) : List ρ :=
  records.insertionSort fun left right => id left ≤ id right

/-- `actual_modules`, normalised. -/
def actualModules (files : List (ModuleFile host)) : List (SeedModule host) :=
  (sortPaths ModuleFile.path files).map loadModule

/-- `actual_modules` and the stubs of their dependencies. -/
def fileModules (files : List (ModuleFile host)) : List (SeedModule host) :=
  actualModules files ++ stubModules ((actualModules files).map SeedModule.module)

/-- `build_seed_records(module_paths, tenant_paths=tenant_paths)`. -/
def buildSeedRecords (seedHost : SeedHost host) (files : List (ModuleFile host))
    (tenantFiles : List TenantFile) : Option (SeedRecords host) := do
  let tenants := sortPaths TenantFile.path tenantFiles
  let memberships ← tenants.mapM tenantMembership
  let actual := (actualModules files).map SeedModule.module
  let all := fileModules files ++ tenantScopeModules seedHost tenantFiles
  let modules := all.map SeedModule.module
  return {
    tenants := sortRecords (·.id) (tenants.map tenantRecord)
    tenantHostnames := sortRecords (·.id) (tenants.flatMap fun tenant =>
      tenant.hostnames.map (hostnameRecord seedHost tenant.tenantId))
    tenantDataSources := sortRecords (·.id) (tenants.flatMap fun tenant =>
      tenant.dataSources.map dataSourceRecord)
    tenantRoleBundles := sortRecords (·.id) (tenants.flatMap fun tenant =>
      tenant.roleBundles.map roleBundleRecord)
    tenantMemberships := sortRecords (·.id) memberships
    tenantRoleCapabilityGrants := sortRecords (·.id) (tenants.flatMap fun tenant =>
      tenant.roleBundles.flatMap fun role => role.capabilityGrants.map (capabilityGrantRecord role))
    tenantRoleDataSourceGrants := sortRecords (·.id) (tenants.flatMap fun tenant =>
      tenant.roleBundles.flatMap fun role => role.dataSourceGrants.map (dataSourceGrantRecord role))
    modules := sortRecords (·.id) (modules.map moduleRecord)
    moduleVersions := sortRecords (·.id) (all.map moduleVersionRecord)
    selectionMetadata := sortRecords (·.id) (modules.map selectionMetadataRecord)
    dependencies := sortRecords (·.id) (actual.flatMap dependencyRecords)
    policyBindings := sortRecords (·.id) (actual.flatMap policyBindingRecords)
    scopeBindings := sortRecords (·.id) (scopeBindingRecords actual modules) }

/-- The tables a seed writes. -/
structure SeedDatabase (host : Host) where
  tenants : Table TenantRecord
  tenantHostnames : Table TenantHostnameRecord
  tenantDataSources : Table TenantDataSourceRow
  tenantRoleBundles : Table TenantRoleBundleRow
  tenantMemberships : Table TenantMembershipRow
  tenantRoleCapabilityGrants : Table TenantRoleCapabilityGrantRow
  tenantRoleDataSourceGrants : Table TenantRoleDataSourceGrantRow
  modules : Table RegistryRow
  moduleVersions : Table (ModuleVersionRecord host)
  selectionMetadata : Table SelectionMetadataRow
  dependencies : Table ModuleDependencyRow
  policyBindings : Table PolicyBindingRow
  scopeBindings : Table ScopeBindingRow

/-- The tables as composition reads them. -/
def SeedDatabase.registry (database : SeedDatabase host) : Registry host where
  modules := database.modules
  moduleVersions :=
    { rows := database.moduleVersions.rows.map ModuleVersionRecord.toModuleVersionRow
      nodup := by
        rw [List.map_map]
        exact database.moduleVersions.nodup }
  selectionMetadata := database.selectionMetadata
  dependencies := database.dependencies
  policyBindings := database.policyBindings
  scopeBindings := database.scopeBindings

/-- `text <> ''`. -/
def filled (text : Text) : Bool := !text.isEmpty

/-- `text IS NULL OR text <> ''`. -/
def nullOrFilled (text : Option Text) : Bool := text.all filled

/-- A row with the key exists. -/
def present {ρ : Type} [Keyed ρ Text] (table : Table ρ) (key : Text) : Bool :=
  (table.find? key).isSome

/-- The values of `capability_class`. -/
def capabilityClasses : List Text :=
  ["analysis", "planning", "execution", "retrieval", "validation", "policy", "instruction",
    "tool_access", "knowledge_access", "data_access", "memory_access", "context"]

namespace SeedConstraints

open Seeding

def tenants : Constraints TenantRecord where
  admits row := filled row.id && filled row.areaId && filled row.displayName &&
    filled row.legalName && filled row.defaultLocale && filled row.contactEmail &&
    nullOrFilled row.contactPhone && nullOrFilled row.contactWebsite &&
    filled row.memoryAreaBrainId && !row.sharedPromotionAllowed && filled row.knowledgeScopeId
  clash _ _ := false

def tenantHostnames (tenants : Table TenantRecord) : Constraints TenantHostnameRecord where
  admits row :=
    filled row.hostname && nullOrFilled row.expectedOrigin && present tenants row.tenantId
  clash left right := left.hostname = right.hostname

def tenantDataSources (tenants : Table TenantRecord) : Constraints TenantDataSourceRow where
  admits row := filled row.id && filled row.displayName && present tenants row.tenantId
  clash left right := left.tenantId = right.tenantId && left.id = right.id

def tenantRoleBundles (tenants : Table TenantRecord) : Constraints TenantRoleBundleRow where
  admits row := filled row.id && filled row.displayName && present tenants row.tenantId
  clash left right := left.tenantId = right.tenantId && left.id = right.id

def tenantMemberships (tenants : Table TenantRecord) : Constraints TenantMembershipRow where
  admits row := filled row.principalId && present tenants row.tenantId
  clash left right := left.tenantId = right.tenantId && left.principalId = right.principalId

/-- `(tenant_id, role_bundle_id) REFERENCES tenant_role_bundles (tenant_id, id)`. -/
def roleOf (roleBundles : Table TenantRoleBundleRow) (tenantId roleId : Text) : Bool :=
  (roleBundles.find? roleId).any fun role => role.tenantId = tenantId

def tenantRoleCapabilityGrants (tenants : Table TenantRecord)
    (roleBundles : Table TenantRoleBundleRow) : Constraints TenantRoleCapabilityGrantRow where
  admits row := filled row.capabilityId && present tenants row.tenantId &&
    roleOf roleBundles row.tenantId row.roleBundleId
  clash left right := left.tenantId = right.tenantId && left.roleBundleId = right.roleBundleId &&
    left.capabilityId = right.capabilityId

def tenantRoleDataSourceGrants (tenants : Table TenantRecord)
    (roleBundles : Table TenantRoleBundleRow) (dataSources : Table TenantDataSourceRow) :
    Constraints TenantRoleDataSourceGrantRow where
  admits row := present tenants row.tenantId && roleOf roleBundles row.tenantId row.roleBundleId &&
    (dataSources.find? row.dataSourceId).any fun source => source.tenantId = row.tenantId
  clash left right := left.tenantId = right.tenantId && left.roleBundleId = right.roleBundleId &&
    left.dataSourceId = right.dataSourceId

def modules : Constraints RegistryRow where
  admits row := filled row.id && filled row.name && filled row.currentVersionId
  clash left right := left.name = right.name

def moduleVersions (seedHost : SeedHost host) (modules : Table RegistryRow) :
    Constraints (ModuleVersionRecord host) where
  admits row :=
    filled row.id && filled row.version && filled row.sourceUri && filled row.checksum &&
    seedHost.inRange row.selectionBaseScore && present modules row.moduleId
  clash left right := left.moduleId = right.moduleId && left.version = right.version

/-- The table is keyed by its unique column; the primary key is the other index. -/
def selectionMetadata (versions : Table (ModuleVersionRecord host)) :
    Constraints SelectionMetadataRow where
  admits row := filled row.id && filled row.description &&
    capabilityClasses.contains row.capabilityClass && present versions row.moduleVersionId
  clash left right := left.id = right.id

def dependencies (modules : Table RegistryRow) (versions : Table (ModuleVersionRecord host)) :
    Constraints ModuleDependencyRow where
  admits row := filled row.id && present versions row.moduleVersionId &&
    present modules row.dependencyId
  clash _ _ := false

def policyBindings (modules : Table RegistryRow) : Constraints PolicyBindingRow where
  admits row := filled row.id && filled row.targetId && present modules row.policyId
  clash _ _ := false

def scopeBindings (modules : Table RegistryRow) : Constraints ScopeBindingRow where
  admits row := filled row.id && row.scopeKind.isScope && filled row.principalId &&
    present modules row.scopeId && present modules row.policyId
  clash _ _ := false

end SeedConstraints

open Seeding SeedConstraints in
/-- `generate_seed_sql`, applied to an empty database: a statement that fails ends it. -/
def applySeed (seedHost : SeedHost host) (records : SeedRecords host) :
    Option (SeedDatabase host) := do
  let tenants ← run tenants .empty records.tenants
  let hostnames ← run (tenantHostnames tenants) .empty records.tenantHostnames
  let dataSources ← run (tenantDataSources tenants) .empty records.tenantDataSources
  let roleBundles ← run (tenantRoleBundles tenants) .empty records.tenantRoleBundles
  let memberships ← run (tenantMemberships tenants) .empty records.tenantMemberships
  let capabilityGrants ← run (tenantRoleCapabilityGrants tenants roleBundles) .empty
    records.tenantRoleCapabilityGrants
  let dataSourceGrants ← run (tenantRoleDataSourceGrants tenants roleBundles dataSources) .empty
    records.tenantRoleDataSourceGrants
  let modules ← run modules .empty records.modules
  let versions ← run (moduleVersions seedHost modules) .empty records.moduleVersions
  let metadata ← run (selectionMetadata versions) .empty records.selectionMetadata
  let dependencies ← run (dependencies modules versions) .empty records.dependencies
  let policyBindings ← run (policyBindings modules) .empty records.policyBindings
  let scopeBindings ← run (scopeBindings modules) .empty records.scopeBindings
  return ⟨tenants, hostnames, dataSources, roleBundles, memberships, capabilityGrants,
    dataSourceGrants, modules, versions, metadata, dependencies, policyBindings, scopeBindings⟩

/-- The database after the seed of some files. -/
def seed (seedHost : SeedHost host) (files : List (ModuleFile host))
    (tenantFiles : List TenantFile) :
    Option (SeedDatabase host) :=
  (buildSeedRecords seedHost files tenantFiles).bind (applySeed seedHost)

open Seeding SeedConstraints in
/-- The tables after all statements of a seed. -/
structure Seeded (seedHost : SeedHost host) (records : SeedRecords host)
    (database : SeedDatabase host) : Prop where
  tenants : run tenants .empty records.tenants = some database.tenants
  tenantHostnames : run (tenantHostnames database.tenants) .empty records.tenantHostnames =
    some database.tenantHostnames
  tenantDataSources : run (tenantDataSources database.tenants) .empty records.tenantDataSources =
    some database.tenantDataSources
  tenantRoleBundles : run (tenantRoleBundles database.tenants) .empty records.tenantRoleBundles =
    some database.tenantRoleBundles
  tenantMemberships : run (tenantMemberships database.tenants) .empty records.tenantMemberships =
    some database.tenantMemberships
  tenantRoleCapabilityGrants :
    run (tenantRoleCapabilityGrants database.tenants database.tenantRoleBundles) .empty
      records.tenantRoleCapabilityGrants = some database.tenantRoleCapabilityGrants
  tenantRoleDataSourceGrants :
    run (tenantRoleDataSourceGrants database.tenants database.tenantRoleBundles
      database.tenantDataSources) .empty records.tenantRoleDataSourceGrants =
        some database.tenantRoleDataSourceGrants
  modules : run modules .empty records.modules = some database.modules
  moduleVersions : run (moduleVersions seedHost database.modules) .empty records.moduleVersions =
    some database.moduleVersions
  selectionMetadata : run (selectionMetadata database.moduleVersions) .empty
    records.selectionMetadata = some database.selectionMetadata
  dependencies : run (dependencies database.modules database.moduleVersions) .empty
    records.dependencies = some database.dependencies
  policyBindings : run (policyBindings database.modules) .empty records.policyBindings =
    some database.policyBindings
  scopeBindings : run (scopeBindings database.modules) .empty records.scopeBindings =
    some database.scopeBindings

variable {seedHost : SeedHost host} {records : SeedRecords host} {database : SeedDatabase host}

theorem applySeed_eq_some :
    applySeed seedHost records = some database ↔ Seeded seedHost records database := by
  constructor
  · intro applied
    obtain ⟨_, tenants, applied⟩ := Option.bind_eq_some_iff.mp applied
    obtain ⟨_, tenantHostnames, applied⟩ := Option.bind_eq_some_iff.mp applied
    obtain ⟨_, tenantDataSources, applied⟩ := Option.bind_eq_some_iff.mp applied
    obtain ⟨_, tenantRoleBundles, applied⟩ := Option.bind_eq_some_iff.mp applied
    obtain ⟨_, tenantMemberships, applied⟩ := Option.bind_eq_some_iff.mp applied
    obtain ⟨_, tenantRoleCapabilityGrants, applied⟩ := Option.bind_eq_some_iff.mp applied
    obtain ⟨_, tenantRoleDataSourceGrants, applied⟩ := Option.bind_eq_some_iff.mp applied
    obtain ⟨_, modules, applied⟩ := Option.bind_eq_some_iff.mp applied
    obtain ⟨_, moduleVersions, applied⟩ := Option.bind_eq_some_iff.mp applied
    obtain ⟨_, selectionMetadata, applied⟩ := Option.bind_eq_some_iff.mp applied
    obtain ⟨_, dependencies, applied⟩ := Option.bind_eq_some_iff.mp applied
    obtain ⟨_, policyBindings, applied⟩ := Option.bind_eq_some_iff.mp applied
    obtain ⟨_, scopeBindings, applied⟩ := Option.bind_eq_some_iff.mp applied
    cases applied
    exact ⟨tenants, tenantHostnames, tenantDataSources, tenantRoleBundles, tenantMemberships,
      tenantRoleCapabilityGrants,
      tenantRoleDataSourceGrants, modules, moduleVersions, selectionMetadata,
      dependencies, policyBindings, scopeBindings⟩
  · intro seeded
    refine Option.bind_eq_some_iff.mpr ⟨_, seeded.tenants, ?_⟩
    refine Option.bind_eq_some_iff.mpr ⟨_, seeded.tenantHostnames, ?_⟩
    refine Option.bind_eq_some_iff.mpr ⟨_, seeded.tenantDataSources, ?_⟩
    refine Option.bind_eq_some_iff.mpr ⟨_, seeded.tenantRoleBundles, ?_⟩
    refine Option.bind_eq_some_iff.mpr ⟨_, seeded.tenantMemberships, ?_⟩
    refine Option.bind_eq_some_iff.mpr ⟨_, seeded.tenantRoleCapabilityGrants, ?_⟩
    refine Option.bind_eq_some_iff.mpr ⟨_, seeded.tenantRoleDataSourceGrants, ?_⟩
    refine Option.bind_eq_some_iff.mpr ⟨_, seeded.modules, ?_⟩
    refine Option.bind_eq_some_iff.mpr ⟨_, seeded.moduleVersions, ?_⟩
    refine Option.bind_eq_some_iff.mpr ⟨_, seeded.selectionMetadata, ?_⟩
    refine Option.bind_eq_some_iff.mpr ⟨_, seeded.dependencies, ?_⟩
    refine Option.bind_eq_some_iff.mpr ⟨_, seeded.policyBindings, ?_⟩
    refine Option.bind_eq_some_iff.mpr ⟨_, seeded.scopeBindings, ?_⟩
    rfl

@[simp] theorem mem_sortRecords {ρ : Type} {id : ρ → Text} {records : List ρ} {row : ρ} :
    row ∈ sortRecords id records ↔ row ∈ records := by
  simp [sortRecords]

@[simp] theorem mem_sortPaths {α : Type} {path : α → Text} {files : List α} {file : α} :
    file ∈ sortPaths path files ↔ file ∈ files := by
  simp [sortPaths]

@[simp] theorem moduleId_inj {left right : Text} :
    moduleId left = moduleId right ↔ left = right := by
  unfold moduleId
  simp

@[simp] theorem moduleId_ne_nil (name : Text) : moduleId name ≠ [] := by
  unfold moduleId
  simp

@[simp] theorem moduleVersionId_ne_nil (name version : Text) :
    moduleVersionId name version ≠ [] := by
  unfold moduleVersionId
  simp

@[simp] theorem dependencyId_ne_nil (source : Text) (field : ReferenceField) (target : Text) :
    dependencyId source field target ≠ [] := by
  unfold dependencyId
  simp

theorem selectionMetadataId_eq {left right version other : Text} :
    selectionMetadataId left version = selectionMetadataId right other ↔
      moduleVersionId left version = moduleVersionId right other := by
  unfold selectionMetadataId moduleVersionId
  simp

theorem present_iff {ρ : Type} [Keyed ρ Text] {table : Table ρ} {key : Text} :
    present table key = true ↔ ∃ row ∈ table, Keyed.key row = key := by
  simp only [present, Option.isSome_iff_exists, Table.find?_eq_some]

@[simp] theorem filled_iff {text : Text} : filled text = true ↔ text ≠ [] := by
  cases text <;> simp [filled]

variable {files : List (ModuleFile host)} {name version : Text} {kind : ModuleKind}

/-- A reference of a file asks for a module of this name and kind. -/
def Wanted (files : List (ModuleFile host)) (name : Text) (kind : ModuleKind) : Prop :=
  ∃ file ∈ files, ∃ reference ∈ file.module.allReferences, reference.wanted = (name, kind)

/-- A file is a module of this name and kind. -/
def Filed (files : List (ModuleFile host)) (name : Text) (kind : ModuleKind) : Prop :=
  ∃ file ∈ files, file.module.name = name ∧ file.module.kind = kind

/-- The module files use a name for a module of this kind and version: there is such a file, or a
reference asks for the kind and no file is of it. -/
inductive Uses (files : List (ModuleFile host)) : Text → ModuleKind → Text → Prop
  | file {file : ModuleFile host} (listed : file ∈ files) :
      Uses files file.module.name file.module.kind file.module.version
  | stub {name : Text} {kind : ModuleKind} (wanted : Wanted files name kind)
      (missing : ¬ Filed files name kind) : Uses files name kind defaultVersion

theorem mem_actualModules {module : SeedModule host} :
    module ∈ actualModules files ↔ ∃ file ∈ files, loadModule file = module := by
  simp [actualModules]

theorem mem_moduleDependencies :
    (name, kind) ∈ moduleDependencies ((actualModules files).map SeedModule.module) ↔
      Wanted files name kind := by
  rw [moduleDependencies, List.mem_eraseDups]
  simp only [List.mem_map, List.mem_flatMap, mem_actualModules, Wanted]
  constructor
  · rintro ⟨reference, ⟨-, ⟨-, ⟨file, listed, rfl⟩, rfl⟩, refers⟩, wanted⟩
    exact ⟨file, listed, reference, refers, wanted⟩
  · rintro ⟨file, listed, reference, refers, wanted⟩
    exact ⟨reference, ⟨_, ⟨_, ⟨file, listed, rfl⟩, rfl⟩, refers⟩, wanted⟩

theorem mem_stubModules {module : SeedModule host} :
    module ∈ stubModules ((actualModules files).map SeedModule.module) ↔
      ∃ name kind, Wanted files name kind ∧ ¬ Filed files name kind ∧
        stubModule ((actualModules files).map SeedModule.module) (name, kind) = module := by
  have filed (name : Text) (kind : ModuleKind) :
      (name, kind) ∈ ((actualModules files).map SeedModule.module).map
        (fun module => (module.name, module.kind)) ↔ Filed files name kind := by
    simp only [List.map_map, List.mem_map, mem_actualModules, Filed]
    constructor
    · rintro ⟨-, ⟨file, listed, rfl⟩, same⟩
      exact ⟨file, listed, Prod.mk.inj same⟩
    · rintro ⟨file, listed, rfl, rfl⟩
      exact ⟨_, ⟨file, listed, rfl⟩, rfl⟩
  simp only [stubModules, List.mem_map (f := stubModule _), List.mem_filter, Prod.exists,
    mem_moduleDependencies, List.contains_eq_mem, filed, Bool.not_eq_true', decide_eq_false_iff_not,
    and_assoc]

theorem uses_iff : Uses files name kind version ↔ ∃ seed ∈ fileModules files,
    seed.module.name = name ∧ seed.module.kind = kind ∧ seed.module.version = version := by
  simp only [fileModules, List.mem_append, mem_actualModules, mem_stubModules]
  constructor
  · rintro (⟨listed⟩ | ⟨wanted, missing⟩)
    · exact ⟨_, .inl ⟨_, listed, rfl⟩, rfl, rfl, rfl⟩
    · exact ⟨_, .inr ⟨_, _, wanted, missing, rfl⟩, rfl, rfl, rfl⟩
  · rintro ⟨seed, ⟨file, listed, rfl⟩ | ⟨wantedName, wantedKind, wanted, missing, rfl⟩,
      rfl, rfl, rfl⟩
    · exact .file listed
    · exact .stub wanted missing

theorem Wanted.uses (wanted : Wanted files name kind) :
    ∃ version, Uses files name kind version := by
  by_cases filed : Filed files name kind
  · obtain ⟨file, listed, rfl, rfl⟩ := filed
    exact ⟨_, .file listed⟩
  · exact ⟨_, .stub wanted filed⟩

end SkillCentric.Control
