import SkillCentric.Control.Seed
import SkillCentric.Library.Stateful

/-!
# Seeds of tenant files

A seed of tenant files keeps every tenant's rows under that tenant exactly when the files own their
data sources and roles, pass the checks of the tables, and no two entries share a row id or a
hostname.
-/

namespace SkillCentric.TenantSeeds

open SkillCentric Control Seeding Stateful

variable {host : Host} {seedHost : SeedHost host} {tenants : List TenantFile}
variable {records : SeedRecords host} {database : SeedDatabase host}

/-- The database holds the rows of a tenant's file, each with the tenant's id. -/
structure Keeps (seedHost : SeedHost host) (database : SeedDatabase host)
    (tenant : TenantFile) : Prop
    where
  hostnames : ∀ entry ∈ tenant.hostnames,
    hostnameRecord seedHost tenant.tenantId entry ∈ database.tenantHostnames
  dataSources : ∀ source ∈ tenant.dataSources, source.tenantId = tenant.tenantId ∧
    dataSourceRecord source ∈ database.tenantDataSources
  roleBundles : ∀ role ∈ tenant.roleBundles, role.tenantId = tenant.tenantId ∧
    roleBundleRecord role ∈ database.tenantRoleBundles
  membership : ∃ row ∈ database.tenantMemberships, tenantMembership tenant = some row ∧
    row.tenantId = tenant.tenantId
  capabilityGrants : ∀ role ∈ tenant.roleBundles, ∀ capability ∈ role.capabilityGrants,
    capabilityGrantRecord role capability ∈ database.tenantRoleCapabilityGrants
  dataSourceGrants : ∀ role ∈ tenant.roleBundles, ∀ grant ∈ role.dataSourceGrants,
    dataSourceGrantRecord role grant ∈ database.tenantRoleDataSourceGrants

/-- The seed of the files runs through and keeps the rows of all of them. -/
def KeepsAll (seedHost : SeedHost host) (tenants : List TenantFile) : Prop :=
  ∃ database, seed seedHost [] tenants = some database ∧
    ∀ tenant ∈ tenants, Keeps seedHost database tenant

/-- The principal of the membership of a tenant. -/
def principal (tenant : TenantFile) : Text := tenant.initialOwner.getD defaultPrincipalId

/-- The fields of a tenant file pass the checks of the tables. -/
structure Sound (tenant : TenantFile) : Prop where
  tenantId : tenant.tenantId ≠ []
  areaId : tenant.areaId ≠ []
  displayName : tenant.displayName ≠ []
  legalName : tenant.legalName ≠ []
  defaultLocale : tenant.defaultLocale ≠ []
  contactEmail : tenant.contactEmail ≠ []
  contactPhone : tenant.contactPhone ≠ some []
  contactWebsite : tenant.contactWebsite ≠ some []
  areaBrainId : tenant.areaBrainId ≠ []
  sharedPromotion : tenant.sharedPromotionAllowed = false
  knowledgeScopeId : tenant.knowledgeScopeId ≠ []
  knowledgeIndexes : ∀ index ∈ tenant.knowledgeIndexes, index ≠ []
  hostnames : ∀ entry ∈ tenant.hostnames, entry.hostname ≠ [] ∧ entry.expectedOrigin ≠ some []
  dataSources : ∀ source ∈ tenant.dataSources, source.id ≠ [] ∧ source.displayName ≠ []
  roleBundles : ∀ role ∈ tenant.roleBundles, role.id ≠ [] ∧ role.displayName ≠ [] ∧
    ∀ capability ∈ role.capabilityGrants, capability ≠ []
  principal : principal tenant ≠ []
  member : tenant.initialOwner = none → tenant.roleBundles ≠ []

/-- A tenant file owns its data sources and roles, and grants only its own data sources. -/
structure Owns (tenant : TenantFile) : Prop where
  dataSources : ∀ source ∈ tenant.dataSources, source.tenantId = tenant.tenantId
  roleBundles : ∀ role ∈ tenant.roleBundles, role.tenantId = tenant.tenantId
  grants : ∀ role ∈ tenant.roleBundles, ∀ grant ∈ role.dataSourceGrants,
    ∃ source ∈ tenant.dataSources, source.id = grant.dataSourceId

/-- No two entries of two files share a row id or a hostname. -/
structure Distinct (seedHost : SeedHost host) (left right : TenantFile) : Prop where
  hostnames : ∀ entry ∈ left.hostnames, ∀ other ∈ right.hostnames,
    entry.hostname = other.hostname ∨ tenantHostnameId seedHost left.tenantId entry.hostname =
      tenantHostnameId seedHost right.tenantId other.hostname →
    left.tenantId = right.tenantId ∧ entry = other
  dataSources : ∀ source ∈ left.dataSources, ∀ other ∈ right.dataSources, source.id = other.id →
    dataSourceRecord source = dataSourceRecord other
  roleBundles : ∀ role ∈ left.roleBundles, ∀ other ∈ right.roleBundles, role.id = other.id →
    roleBundleRecord role = roleBundleRecord other
  memberships : tenantMembershipId left.tenantId (principal left) =
    tenantMembershipId right.tenantId (principal right) → left.tenantId = right.tenantId
  capabilityGrants : ∀ role ∈ left.roleBundles, ∀ other ∈ right.roleBundles,
    ∀ capability ∈ role.capabilityGrants, ∀ otherCapability ∈ other.capabilityGrants,
      tenantCapabilityGrantId role.id capability =
        tenantCapabilityGrantId other.id otherCapability →
      role.id = other.id ∧ capability = otherCapability
  dataSourceGrants : ∀ role ∈ left.roleBundles, ∀ other ∈ right.roleBundles,
    ∀ grant ∈ role.dataSourceGrants, ∀ otherGrant ∈ other.dataSourceGrants,
      tenantDataSourceGrantId role.id grant.dataSourceId =
        tenantDataSourceGrantId other.id otherGrant.dataSourceId →
      role.id = other.id ∧ grant.dataSourceId = otherGrant.dataSourceId ∧
        jsonModes grant.accessModes = jsonModes otherGrant.accessModes

/-- The files are kept apart. -/
structure Apart (seedHost : SeedHost host) (tenants : List TenantFile) : Prop where
  sound : ∀ tenant ∈ tenants, Sound tenant
  owns : ∀ tenant ∈ tenants, Owns tenant
  distinct : ∀ left ∈ tenants, ∀ right ∈ tenants, Distinct seedHost left right

/-- The records of tenant files alone, with their memberships. -/
def tenantRecords (seedHost : SeedHost host) (tenants : List TenantFile)
    (memberships : List TenantMembershipRow) : SeedRecords host :=
  let files := sortPaths TenantFile.path tenants
  let scopes := tenantScopeModules seedHost tenants
  { tenants := sortRecords (·.id) (files.map tenantRecord)
    tenantHostnames := sortRecords (·.id) (files.flatMap fun tenant =>
      tenant.hostnames.map (hostnameRecord seedHost tenant.tenantId))
    tenantDataSources := sortRecords (·.id) (files.flatMap fun tenant =>
      tenant.dataSources.map dataSourceRecord)
    tenantRoleBundles := sortRecords (·.id) (files.flatMap fun tenant =>
      tenant.roleBundles.map roleBundleRecord)
    tenantMemberships := sortRecords (·.id) memberships
    tenantRoleCapabilityGrants := sortRecords (·.id) (files.flatMap fun tenant =>
      tenant.roleBundles.flatMap fun role => role.capabilityGrants.map (capabilityGrantRecord role))
    tenantRoleDataSourceGrants := sortRecords (·.id) (files.flatMap fun tenant =>
      tenant.roleBundles.flatMap fun role => role.dataSourceGrants.map (dataSourceGrantRecord role))
    modules := sortRecords (·.id) ((scopes.map SeedModule.module).map moduleRecord)
    moduleVersions := sortRecords (·.id) (scopes.map moduleVersionRecord)
    selectionMetadata :=
      sortRecords (·.id) ((scopes.map SeedModule.module).map selectionMetadataRecord)
    dependencies := []
    policyBindings := []
    scopeBindings := [] }

/-- The scope of a tenant: an index of its knowledge, or an access mode of a data source. -/
inductive ScopeOf (seedHost : SeedHost host) (tenant : TenantFile) : SeedModule host → Prop
  | knowledge {index : Text} (listed : index ∈ tenant.knowledgeIndexes) :
      ScopeOf seedHost tenant
        (generatedScopeModule seedHost index .knowledgeScope "knowledge_access"
        tenant.tenantId ["research"] ["research", "knowledge-retrieval"])
  | data {source : TenantDataSourceRow} {mode : AccessMode} (listed : source ∈ tenant.dataSources)
      (allowed : mode ∈ source.accessModes) :
      ScopeOf seedHost tenant
        (generatedScopeModule seedHost (source.id ++ '-' :: mode.text) .dataScope
        "data_access" tenant.tenantId ["research", "task-execution"] ["research", "task-execution"])

theorem mem_tenantScopeModules {seed : SeedModule host} :
    seed ∈ tenantScopeModules seedHost tenants ↔
      ∃ tenant ∈ tenants, ScopeOf seedHost tenant seed := by
  simp only [tenantScopeModules, List.mem_insertionSort, List.mem_flatMap, mem_sortPaths,
    List.mem_append, List.mem_map]
  refine exists_congr fun tenant => and_congr_right fun _ => ?_
  constructor
  · rintro (⟨index, listed, rfl⟩ | ⟨source, listed, mode, allowed, rfl⟩)
    · exact .knowledge listed
    · exact .data listed allowed
  · rintro (⟨listed⟩ | ⟨listed, allowed⟩)
    · exact .inl ⟨_, listed, rfl⟩
    · exact .inr ⟨_, listed, _, allowed, rfl⟩

theorem buildSeedRecords_tenants : buildSeedRecords seedHost [] tenants =
    ((sortPaths TenantFile.path tenants).mapM tenantMembership).map
      (tenantRecords seedHost tenants) := by
  have unpoliced : ((tenantScopeModules seedHost tenants).map SeedModule.module).filter
      (fun module => module.kind = .policy) = [] := by
    rw [List.filter_eq_nil_iff]
    intro module listed policy
    obtain ⟨seed, member, rfl⟩ := List.mem_map.mp listed
    obtain ⟨tenant, -, scope⟩ := mem_tenantScopeModules.mp member
    cases scope <;> cases of_decide_eq_true policy
  have unbound : scopeBindingRecords []
      ((tenantScopeModules seedHost tenants).map SeedModule.module) = [] := by
    rw [scopeBindingRecords, unpoliced]
    rfl
  have alone : fileModules ([] : List (ModuleFile host)) ++ tenantScopeModules seedHost tenants =
    tenantScopeModules seedHost tenants := rfl
  have none : (actualModules ([] : List (ModuleFile host))).map SeedModule.module = [] := rfl
  simp only [buildSeedRecords, alone, none, unbound]
  cases (sortPaths TenantFile.path tenants).mapM tenantMembership <;> rfl

variable {tenant : TenantFile}

theorem tenantMembership_eq {row : TenantMembershipRow}
    (found : tenantMembership tenant = some row) :
    ∃ roleId, row = membershipRecord tenant.tenantId (principal tenant) roleId := by
  unfold tenantMembership at found
  unfold principal
  split at found
  · rename_i owner owned
    cases found
    exact ⟨_, by rw [owned]; rfl⟩
  · rename_i unowned
    obtain ⟨roleId, -, rfl⟩ := Option.map_eq_some_iff.mp found
    exact ⟨roleId, by rw [unowned]; rfl⟩

theorem defaultRole_isSome :
    (∃ roleId, defaultRuntimeMembershipRoleId tenant = some roleId) ↔ tenant.roleBundles ≠ [] := by
  unfold defaultRuntimeMembershipRoleId
  split
  · rename_i role found
    exact iff_of_true ⟨_, rfl⟩ (List.ne_nil_of_mem (List.mem_of_find?_eq_some found))
  · cases tenant.roleBundles with
    | nil => exact iff_of_false (fun ⟨_, found⟩ => by cases found) fun some => some rfl
    | cons role rest => exact iff_of_true ⟨_, rfl⟩ (List.cons_ne_nil _ _)

theorem tenantMembership_isSome :
    (∃ row, tenantMembership tenant = some row) ↔
      (tenant.initialOwner = none → tenant.roleBundles ≠ []) := by
  unfold tenantMembership
  split
  · rename_i owner owned
    exact iff_of_true ⟨_, rfl⟩ fun unowned => absurd (owned.symm.trans unowned) (by simp)
  · rename_i unowned
    rw [← defaultRole_isSome, forall_prop_of_true unowned]
    cases defaultRuntimeMembershipRoleId tenant <;> simp

section Rows

variable {memberships : List TenantMembershipRow}

theorem mem_hostnames {row : TenantHostnameRecord} :
    row ∈ (tenantRecords seedHost tenants memberships).tenantHostnames ↔ ∃ tenant ∈ tenants,
      ∃ entry ∈ tenant.hostnames, hostnameRecord seedHost tenant.tenantId entry = row := by
  simp [tenantRecords]

theorem mem_dataSources {row : TenantDataSourceRow} :
    row ∈ (tenantRecords seedHost tenants memberships).tenantDataSources ↔ ∃ tenant ∈ tenants,
      ∃ source ∈ tenant.dataSources, dataSourceRecord source = row := by
  simp [tenantRecords]

theorem mem_roleBundles {row : TenantRoleBundleRow} :
    row ∈ (tenantRecords seedHost tenants memberships).tenantRoleBundles ↔ ∃ tenant ∈ tenants,
      ∃ role ∈ tenant.roleBundles, roleBundleRecord role = row := by
  simp [tenantRecords]

theorem mem_capabilityGrants {row : TenantRoleCapabilityGrantRow} :
    row ∈ (tenantRecords seedHost tenants memberships).tenantRoleCapabilityGrants ↔
      ∃ tenant ∈ tenants, ∃ role ∈ tenant.roleBundles, ∃ capability ∈ role.capabilityGrants,
        capabilityGrantRecord role capability = row := by
  simp [tenantRecords]

theorem mem_dataSourceGrants {row : TenantRoleDataSourceGrantRow} :
    row ∈ (tenantRecords seedHost tenants memberships).tenantRoleDataSourceGrants ↔
      ∃ tenant ∈ tenants, ∃ role ∈ tenant.roleBundles, ∃ grant ∈ role.dataSourceGrants,
        dataSourceGrantRecord role grant = row := by
  simp [tenantRecords]

theorem mem_memberships (passed : (sortPaths TenantFile.path tenants).mapM tenantMembership =
    some memberships) {row : TenantMembershipRow} :
    row ∈ (tenantRecords seedHost tenants memberships).tenantMemberships ↔
      ∃ tenant ∈ tenants, tenantMembership tenant = some row := by
  simp [tenantRecords, mem_mapM passed]

theorem mem_tenants {row : TenantRecord} :
    row ∈ (tenantRecords seedHost tenants memberships).tenants ↔
      ∃ tenant ∈ tenants, tenantRecord tenant = row := by
  simp [tenantRecords]

theorem mem_scopes {row : RegistryRow} :
    row ∈ (tenantRecords seedHost tenants memberships).modules ↔
      ∃ seed ∈ tenantScopeModules seedHost tenants, moduleRecord seed.module = row := by
  simp [tenantRecords]

theorem mem_scopeVersions {row : ModuleVersionRecord host} :
    row ∈ (tenantRecords seedHost tenants memberships).moduleVersions ↔
      ∃ seed ∈ tenantScopeModules seedHost tenants, moduleVersionRecord seed = row := by
  simp [tenantRecords]

theorem mem_scopeMetadata {row : SelectionMetadataRow} :
    row ∈ (tenantRecords seedHost tenants memberships).selectionMetadata ↔
      ∃ seed ∈ tenantScopeModules seedHost tenants, selectionMetadataRecord seed.module = row := by
  simp [tenantRecords]

end Rows

@[simp] theorem nullOrFilled_iff {text : Option Text} :
    nullOrFilled text = true ↔ text ≠ some [] := by
  cases text <;> simp [nullOrFilled]

section Kept

variable {memberships : List TenantMembershipRow}
variable (passed : (sortPaths TenantFile.path tenants).mapM tenantMembership = some memberships)
variable (seeded : Seeded seedHost (tenantRecords seedHost tenants memberships) database)

include passed seeded in
theorem sound_of_seeded : ∀ tenant ∈ tenants, Sound tenant := by
  intro tenant listed
  have row := admits_of_run seeded.tenants _ (mem_tenants.mpr ⟨tenant, listed, rfl⟩)
  simp only [SeedConstraints.tenants, tenantRecord, Bool.and_eq_true, filled_iff, nullOrFilled_iff,
    Bool.not_eq_true'] at row
  obtain ⟨⟨⟨⟨⟨⟨⟨⟨⟨⟨id, area⟩, display⟩, legal⟩, locale⟩, email⟩, phone⟩, website⟩, brain⟩,
      promotion⟩,
    scope⟩ := row
  obtain ⟨membership, member⟩ := mapM_each passed tenant (mem_sortPaths.mpr listed)
  refine ⟨id, area, display, legal, locale, email, phone, website, brain, promotion,
    scope, ?_, ?_, ?_,
    ?_, ?_, tenantMembership_isSome.mp ⟨membership, member⟩⟩
  · intro index indexed
    have scope : ScopeOf seedHost tenant _ := .knowledge indexed
    have row := admits_of_run seeded.modules _
      (mem_scopes.mpr ⟨_, mem_tenantScopeModules.mpr ⟨tenant, listed, scope⟩, rfl⟩)
    simp only [SeedConstraints.modules, Bool.and_eq_true, filled_iff] at row
    exact row.1.2
  · intro entry entered
    have row := admits_of_run seeded.tenantHostnames _
      (mem_hostnames.mpr ⟨tenant, listed, entry, entered, rfl⟩)
    simp only [SeedConstraints.tenantHostnames, Bool.and_eq_true, filled_iff,
      nullOrFilled_iff] at row
    exact row.1
  · intro source sourced
    have row := admits_of_run seeded.tenantDataSources _
      (mem_dataSources.mpr ⟨tenant, listed, source, sourced, rfl⟩)
    simp only [SeedConstraints.tenantDataSources, Bool.and_eq_true, filled_iff] at row
    exact row.1
  · intro role bundled
    have row := admits_of_run seeded.tenantRoleBundles _
      (mem_roleBundles.mpr ⟨tenant, listed, role, bundled, rfl⟩)
    simp only [SeedConstraints.tenantRoleBundles, Bool.and_eq_true, filled_iff] at row
    refine ⟨row.1.1, row.1.2, fun capability granted => ?_⟩
    have grant := admits_of_run seeded.tenantRoleCapabilityGrants _
      (mem_capabilityGrants.mpr ⟨tenant, listed, role, bundled, capability, granted, rfl⟩)
    simp only [SeedConstraints.tenantRoleCapabilityGrants, Bool.and_eq_true, filled_iff] at grant
    exact grant.1.1
  · have row := admits_of_run seeded.tenantMemberships _
      ((mem_memberships passed).mpr ⟨tenant, listed, member⟩)
    obtain ⟨roleId, rfl⟩ := tenantMembership_eq member
    simp only [SeedConstraints.tenantMemberships, Bool.and_eq_true, filled_iff] at row
    exact row.1

variable (distinctIds : (tenants.map TenantFile.tenantId).Nodup)
variable (keeps : ∀ tenant ∈ tenants, Keeps seedHost database tenant)

include seeded distinctIds keeps in
theorem owns_of_keeps : ∀ tenant ∈ tenants, Owns tenant := by
  intro tenant listed
  refine ⟨fun source sourced => ((keeps tenant listed).dataSources source sourced).1,
    fun role bundled => ((keeps tenant listed).roleBundles role bundled).1, ?_⟩
  intro role bundled grant granted
  have row := admits_of_run seeded.tenantRoleDataSourceGrants _
    (mem_dataSourceGrants.mpr ⟨tenant, listed, role, bundled, grant, granted, rfl⟩)
  simp only [SeedConstraints.tenantRoleDataSourceGrants, Bool.and_eq_true, Option.any_eq_true,
    decide_eq_true_eq] at row
  obtain ⟨source, found, tenantId⟩ := row.2
  obtain ⟨there, id⟩ := Table.find?_eq_some.mp found
  rcases mem_of_run seeded.tenantDataSources there with before | generated
  · cases before
  · obtain ⟨other, others, otherSource, sourced, rfl⟩ := mem_dataSources.mp generated
    have owned := ((keeps other others).dataSources otherSource sourced).1
    have roleOwned := ((keeps tenant listed).roleBundles role bundled).1
    have same : other.tenantId = tenant.tenantId :=
      owned.symm.trans (tenantId.trans roleOwned)
    rw [List.inj_on_of_nodup_map distinctIds others listed same] at sourced
    exact ⟨otherSource, sourced, id⟩

include keeps in
theorem distinct_of_keeps (seeded : Seeded seedHost (tenantRecords seedHost tenants memberships)
    database) : ∀ left ∈ tenants, ∀ right ∈ tenants, Distinct seedHost left right := by
  intro left left_mem right right_mem
  have kept := keeps left left_mem
  have otherKept := keeps right right_mem
  constructor
  · intro entry entered other others same
    have ids : tenantHostnameId seedHost left.tenantId entry.hostname =
        tenantHostnameId seedHost right.tenantId other.hostname := by
      rcases same with hostname | id
      · exact clashes_of_run (fun _ _ => by simp [SeedConstraints.tenantHostnames, eq_comm]) nofun
          seeded.tenantHostnames _ (kept.hostnames entry entered) _
            (otherKept.hostnames other others)
          (decide_eq_true hostname)
      · exact id
    have rows : hostnameRecord seedHost left.tenantId entry =
        hostnameRecord seedHost right.tenantId other :=
      Table.eq_of_key (kept.hostnames entry entered) (otherKept.hostnames other others) ids
    simp only [hostnameRecord, TenantHostnameRecord.mk.injEq, TenantHostnameRow.mk.injEq] at rows
    obtain ⟨⟨-, tenantId, hostname⟩, purpose, origin, proxy⟩ := rows
    refine ⟨tenantId, ?_⟩
    obtain ⟨_, _, _, _⟩ := entry
    obtain ⟨_, _, _, _⟩ := other
    cases hostname
    cases purpose
    cases origin
    cases proxy
    rfl
  · intro source sourced other others same
    exact Table.eq_of_key (kept.dataSources source sourced).2
      (otherKept.dataSources other others).2 same
  · intro role bundled other others same
    exact Table.eq_of_key (kept.roleBundles role bundled).2
      (otherKept.roleBundles other others).2 same
  · intro same
    obtain ⟨row, there, found, -⟩ := kept.membership
    obtain ⟨otherRow, otherThere, otherFound, -⟩ := otherKept.membership
    obtain ⟨roleId, rfl⟩ := tenantMembership_eq found
    obtain ⟨otherRoleId, rfl⟩ := tenantMembership_eq otherFound
    have rows := Table.eq_of_key there otherThere same
    exact congrArg TenantMembershipRow.tenantId rows
  · intro role bundled other others capability granted otherCapability otherGranted same
    have rows :
        capabilityGrantRecord role capability = capabilityGrantRecord other otherCapability :=
      Table.eq_of_key (kept.capabilityGrants role bundled capability granted)
        (otherKept.capabilityGrants other others otherCapability otherGranted) same
    exact ⟨congrArg TenantRoleCapabilityGrantRow.roleBundleId rows,
      congrArg TenantRoleCapabilityGrantRow.capabilityId rows⟩
  · intro role bundled other others grant granted otherGrant otherGranted same
    have rows : dataSourceGrantRecord role grant = dataSourceGrantRecord other otherGrant :=
      Table.eq_of_key (kept.dataSourceGrants role bundled grant granted)
        (otherKept.dataSourceGrants other others otherGrant otherGranted) same
    exact ⟨congrArg TenantRoleDataSourceGrantRow.roleBundleId rows,
      congrArg TenantRoleDataSourceGrantRow.dataSourceId rows,
      congrArg TenantRoleDataSourceGrantRow.accessModes rows⟩

end Kept

theorem scope_sound (sound : Sound tenant) {seed : SeedModule host}
    (scope : ScopeOf seedHost tenant seed) : seed.module.name ≠ [] ∧ seed.module.version ≠ [] ∧
      seed.module.description ≠ [] ∧ seed.module.capabilityClass ∈ capabilityClasses ∧
      seed.module.baseScore = some seedHost.half ∧ seed.sourceUri ≠ [] ∧ seed.checksum ≠ [] := by
  have version : defaultVersion ≠ [] := by decide
  have knowledge : ("knowledge_access" : Text) ∈ capabilityClasses := by decide
  have data : ("data_access" : Text) ∈ capabilityClasses := by decide
  cases scope with
  | knowledge listed =>
      exact ⟨sound.knowledgeIndexes _ listed, version, List.cons_ne_nil _ _, knowledge, rfl,
        List.cons_ne_nil _ _, List.cons_ne_nil _ _⟩
  | data listed allowed =>
      exact ⟨by simp [generatedScopeModule], version, List.cons_ne_nil _ _, data, rfl,
        List.cons_ne_nil _ _, List.cons_ne_nil _ _⟩

variable (seedHost) in
theorem scopes_run (sound : ∀ tenant ∈ tenants, Sound tenant)
    (memberships : List TenantMembershipRow) : ∃ modules versions metadata,
    run SeedConstraints.modules .empty (tenantRecords seedHost tenants memberships).modules =
      some modules ∧
    run (SeedConstraints.moduleVersions seedHost modules) .empty
      (tenantRecords seedHost tenants memberships).moduleVersions = some versions ∧
    run (SeedConstraints.selectionMetadata versions) .empty
      (tenantRecords seedHost tenants memberships).selectionMetadata = some metadata := by
  have scopes : ∀ seed ∈ tenantScopeModules seedHost tenants, ∃ tenant, Sound tenant ∧
      ScopeOf seedHost tenant seed := by
    intro seed listed
    obtain ⟨tenant, filed, scope⟩ := mem_tenantScopeModules.mp listed
    exact ⟨tenant, sound tenant filed, scope⟩
  obtain ⟨modules, ran⟩ : ∃ modules, run SeedConstraints.modules .empty
      (tenantRecords seedHost tenants memberships).modules = some modules := by
    apply run_of_sound
    · intro row listed
      obtain ⟨seed, member, rfl⟩ := mem_scopes.mp listed
      obtain ⟨tenant, sound, scope⟩ := scopes seed member
      have name := (scope_sound sound scope).1
      simp [SeedConstraints.modules, moduleRecord, name]
    · rintro old (there | there) row listed clash
      · cases there
      · obtain ⟨left, -, rfl⟩ := mem_scopes.mp there
        obtain ⟨right, -, rfl⟩ := mem_scopes.mp listed
        exact congrArg moduleId (of_decide_eq_true clash)
  obtain ⟨versions, versionsRan⟩ : ∃ versions, run (SeedConstraints.moduleVersions seedHost modules)
      .empty (tenantRecords seedHost tenants memberships).moduleVersions = some versions := by
    apply run_of_sound
    · intro row listed
      obtain ⟨seed, member, rfl⟩ := mem_scopeVersions.mp listed
      obtain ⟨tenant, sound, scope⟩ := scopes seed member
      obtain ⟨-, version, -, -, base, uri, checksum⟩ := scope_sound sound scope
      have there : present modules (moduleId seed.module.name) = true :=
        present_iff.mpr (exists_of_run ran (mem_scopes.mpr ⟨seed, member, rfl⟩))
      simp [SeedConstraints.moduleVersions, moduleVersionRecord, version, uri,
        checksum, base, seedHost.inRange_half, there]
    · rintro old (there | there) row listed clash
      · cases there
      · obtain ⟨left, -, rfl⟩ := mem_scopeVersions.mp there
        obtain ⟨right, -, rfl⟩ := mem_scopeVersions.mp listed
        simp only [SeedConstraints.moduleVersions, Bool.and_eq_true, decide_eq_true_eq] at clash
        exact congrArg₂ moduleVersionId (moduleId_inj.mp clash.1) clash.2
  refine ⟨modules, versions, ?_⟩
  have metadata : ∃ metadata, run (SeedConstraints.selectionMetadata versions) .empty
      (tenantRecords seedHost tenants memberships).selectionMetadata = some metadata := by
    apply run_of_sound
    · intro row listed
      obtain ⟨seed, member, rfl⟩ := mem_scopeMetadata.mp listed
      obtain ⟨tenant, sound, scope⟩ := scopes seed member
      obtain ⟨-, -, description, capability, -⟩ := scope_sound sound scope
      have there : present versions (moduleVersionId seed.module.name seed.module.version) = true :=
        present_iff.mpr (exists_of_run versionsRan (mem_scopeVersions.mpr ⟨seed, member, rfl⟩))
      simp [SeedConstraints.selectionMetadata, selectionMetadataRecord, selectionMetadataId,
        description, capability, there]
    · rintro old (there | there) row listed clash
      · cases there
      · obtain ⟨left, -, rfl⟩ := mem_scopeMetadata.mp there
        obtain ⟨right, -, rfl⟩ := mem_scopeMetadata.mp listed
        exact selectionMetadataId_eq.mp (of_decide_eq_true clash)
  obtain ⟨metadata, metadataRan⟩ := metadata
  exact ⟨metadata, ran, versionsRan, metadataRan⟩

section Apart

variable {memberships : List TenantMembershipRow} {tenantTable : Table TenantRecord}
variable {sources : Table TenantDataSourceRow} {roles : Table TenantRoleBundleRow}
variable (apart : Apart seedHost tenants)
variable (distinctIds : (tenants.map TenantFile.tenantId).Nodup)
variable (passed : (sortPaths TenantFile.path tenants).mapM tenantMembership = some memberships)
variable (tenantsRan : run SeedConstraints.tenants .empty
  (tenantRecords seedHost tenants memberships).tenants = some tenantTable)
variable (sourcesRan : run (SeedConstraints.tenantDataSources tenantTable) .empty
  (tenantRecords seedHost tenants memberships).tenantDataSources = some sources)
variable (rolesRan : run (SeedConstraints.tenantRoleBundles tenantTable) .empty
  (tenantRecords seedHost tenants memberships).tenantRoleBundles = some roles)

include apart in
theorem tenants_run : ∃ table, run SeedConstraints.tenants .empty
    (tenantRecords seedHost tenants memberships).tenants = some table := by
  apply run_of_sound
  · intro row listed
    obtain ⟨tenant, filed, rfl⟩ := mem_tenants.mp listed
    have sound := apart.sound tenant filed
    simp [SeedConstraints.tenants, tenantRecord, sound.tenantId, sound.areaId, sound.displayName,
      sound.legalName, sound.defaultLocale, sound.contactEmail, sound.contactPhone,
      sound.contactWebsite, sound.areaBrainId, sound.sharedPromotion, sound.knowledgeScopeId]
  · intro old _ row _ clash
    cases clash

include tenantsRan in
theorem tenant_present (filed : tenant ∈ tenants) :
    present tenantTable tenant.tenantId = true :=
  present_iff.mpr (exists_of_run tenantsRan (mem_tenants.mpr ⟨tenant, filed, rfl⟩))

variable {role : RoleBundle}

include apart tenantsRan in
theorem role_tenant_present (filed : tenant ∈ tenants)
    (bundled : role ∈ tenant.roleBundles) : present tenantTable role.tenantId = true := by
  rw [(apart.owns tenant filed).roleBundles role bundled]
  exact tenant_present tenantsRan filed

include apart tenantsRan in
theorem hostnames_run : ∃ table, run (SeedConstraints.tenantHostnames tenantTable) .empty
    (tenantRecords seedHost tenants memberships).tenantHostnames = some table := by
  apply run_of_sound
  · intro row listed
    obtain ⟨tenant, filed, entry, entered, rfl⟩ := mem_hostnames.mp listed
    have sound := (apart.sound tenant filed).hostnames entry entered
    simp [SeedConstraints.tenantHostnames, hostnameRecord, sound.1, sound.2,
      tenant_present tenantsRan filed]
  · rintro old (there | there) row listed clash
    · cases there
    · obtain ⟨tenant, filed, entry, entered, rfl⟩ := mem_hostnames.mp there
      obtain ⟨other, others, otherEntry, otherEntered, rfl⟩ := mem_hostnames.mp listed
      obtain ⟨tenantId, rfl⟩ := (apart.distinct tenant filed other others).hostnames entry entered
        otherEntry otherEntered (.inl (of_decide_eq_true clash))
      rw [tenantId]

include apart tenantsRan in
theorem dataSources_run : ∃ table, run (SeedConstraints.tenantDataSources tenantTable) .empty
    (tenantRecords seedHost tenants memberships).tenantDataSources = some table := by
  apply run_of_sound
  · intro row listed
    obtain ⟨tenant, filed, source, sourced, rfl⟩ := mem_dataSources.mp listed
    have sound := (apart.sound tenant filed).dataSources source sourced
    have there := tenant_present tenantsRan filed
    rw [← (apart.owns tenant filed).dataSources source sourced] at there
    simp [SeedConstraints.tenantDataSources, dataSourceRecord, sound.1, sound.2, there]
  · intro old _ row _ clash
    simp only [SeedConstraints.tenantDataSources, Bool.and_eq_true, decide_eq_true_eq] at clash
    exact clash.2

include apart sourcesRan in
theorem dataSource_kept (filed : tenant ∈ tenants) {source : TenantDataSourceRow}
    (sourced : source ∈ tenant.dataSources) : dataSourceRecord source ∈ sources := by
  refine mem_run sourcesRan (mem_dataSources.mpr ⟨tenant, filed, source, sourced, rfl⟩) ?_
  intro row listed same
  obtain ⟨other, others, otherSource, otherSourced, rfl⟩ := mem_dataSources.mp listed
  exact (apart.distinct other others tenant filed).dataSources otherSource otherSourced source
    sourced same

include apart tenantsRan in
theorem roleBundles_run : ∃ table, run (SeedConstraints.tenantRoleBundles tenantTable) .empty
    (tenantRecords seedHost tenants memberships).tenantRoleBundles = some table := by
  apply run_of_sound
  · intro row listed
    obtain ⟨tenant, filed, role, bundled, rfl⟩ := mem_roleBundles.mp listed
    have sound := (apart.sound tenant filed).roleBundles role bundled
    simp [SeedConstraints.tenantRoleBundles, roleBundleRecord, sound.1, sound.2.1,
      role_tenant_present apart tenantsRan filed bundled]
  · intro old _ row _ clash
    simp only [SeedConstraints.tenantRoleBundles, Bool.and_eq_true, decide_eq_true_eq] at clash
    exact clash.2

include apart rolesRan in
theorem roleBundle_kept (filed : tenant ∈ tenants)
    (bundled : role ∈ tenant.roleBundles) : roleBundleRecord role ∈ roles := by
  refine mem_run rolesRan (mem_roleBundles.mpr ⟨tenant, filed, role, bundled, rfl⟩) ?_
  intro row listed same
  obtain ⟨other, others, otherRole, otherBundled, rfl⟩ := mem_roleBundles.mp listed
  exact (apart.distinct other others tenant filed).roleBundles otherRole otherBundled role bundled
    same

include apart rolesRan in
theorem role_of (filed : tenant ∈ tenants) (bundled : role ∈ tenant.roleBundles) :
    SeedConstraints.roleOf roles role.tenantId role.id = true := by
  have found : roles.find? role.id = some (roleBundleRecord role) :=
    Table.find?_eq_some.mpr ⟨roleBundle_kept apart rolesRan filed bundled, rfl⟩
  rw [SeedConstraints.roleOf, found]
  exact decide_eq_true rfl

include apart passed tenantsRan in
theorem memberships_run : ∃ table, run (SeedConstraints.tenantMemberships tenantTable) .empty
    (tenantRecords seedHost tenants memberships).tenantMemberships = some table := by
  apply run_of_sound
  · intro row listed
    obtain ⟨tenant, filed, found⟩ := (mem_memberships passed).mp listed
    obtain ⟨roleId, rfl⟩ := tenantMembership_eq found
    simp [SeedConstraints.tenantMemberships, membershipRecord, (apart.sound tenant filed).principal,
      tenant_present tenantsRan filed]
  · rintro old (there | there) row listed clash
    · cases there
    · obtain ⟨tenant, -, found⟩ := (mem_memberships passed).mp there
      obtain ⟨other, -, otherFound⟩ := (mem_memberships passed).mp listed
      obtain ⟨roleId, rfl⟩ := tenantMembership_eq found
      obtain ⟨otherRoleId, rfl⟩ := tenantMembership_eq otherFound
      simp only [SeedConstraints.tenantMemberships, Bool.and_eq_true, decide_eq_true_eq] at clash
      exact congrArg₂ tenantMembershipId clash.1 clash.2

include apart tenantsRan rolesRan in
theorem capabilityGrants_run :
    ∃ table, run (SeedConstraints.tenantRoleCapabilityGrants tenantTable roles) .empty
      (tenantRecords seedHost tenants memberships).tenantRoleCapabilityGrants = some table := by
  apply run_of_sound
  · intro row listed
    obtain ⟨tenant, filed, role, bundled, capability, granted, rfl⟩ :=
      mem_capabilityGrants.mp listed
    have sound := ((apart.sound tenant filed).roleBundles role bundled).2.2 capability granted
    simp [SeedConstraints.tenantRoleCapabilityGrants, capabilityGrantRecord, sound,
      role_tenant_present apart tenantsRan filed bundled, role_of apart rolesRan filed bundled]
  · rintro old (there | there) row listed clash
    · cases there
    · obtain ⟨_, -, role, -, capability, -, rfl⟩ := mem_capabilityGrants.mp there
      obtain ⟨_, -, other, -, otherCapability, -, rfl⟩ := mem_capabilityGrants.mp listed
      simp only [SeedConstraints.tenantRoleCapabilityGrants, Bool.and_eq_true, decide_eq_true_eq]
        at clash
      exact congrArg₂ tenantCapabilityGrantId clash.1.2 clash.2

include apart tenantsRan sourcesRan rolesRan in
theorem dataSourceGrants_run :
    ∃ table, run (SeedConstraints.tenantRoleDataSourceGrants tenantTable roles sources) .empty
      (tenantRecords seedHost tenants memberships).tenantRoleDataSourceGrants = some table := by
  apply run_of_sound
  · intro row listed
    obtain ⟨tenant, filed, role, bundled, grant, granted, rfl⟩ := mem_dataSourceGrants.mp listed
    obtain ⟨source, sourced, id⟩ := (apart.owns tenant filed).grants role bundled grant granted
    have found : sources.find? grant.dataSourceId = some (dataSourceRecord source) :=
      Table.find?_eq_some.mpr ⟨dataSource_kept apart sourcesRan filed sourced, id⟩
    have owner : (dataSourceRecord source).tenantId = role.tenantId :=
      ((apart.owns tenant filed).dataSources source sourced).trans
        ((apart.owns tenant filed).roleBundles role bundled).symm
    simp [SeedConstraints.tenantRoleDataSourceGrants, dataSourceGrantRecord, found, owner,
      role_tenant_present apart tenantsRan filed bundled, role_of apart rolesRan filed bundled]
  · rintro old (there | there) row listed clash
    · cases there
    · obtain ⟨_, -, role, -, grant, -, rfl⟩ := mem_dataSourceGrants.mp there
      obtain ⟨_, -, other, -, otherGrant, -, rfl⟩ := mem_dataSourceGrants.mp listed
      simp only [SeedConstraints.tenantRoleDataSourceGrants, Bool.and_eq_true, decide_eq_true_eq]
        at clash
      exact congrArg₂ tenantDataSourceGrantId clash.1.2 clash.2

include apart passed distinctIds in
theorem keeps_of_seeded
    (seeded : Seeded seedHost (tenantRecords seedHost tenants memberships) database)
    (filed : tenant ∈ tenants) : Keeps seedHost database tenant := by
  have owns := apart.owns tenant filed
  constructor
  · intro entry entered
    refine mem_run seeded.tenantHostnames
      (mem_hostnames.mpr ⟨tenant, filed, entry, entered, rfl⟩) ?_
    intro row listed same
    obtain ⟨other, others, otherEntry, otherEntered, rfl⟩ := mem_hostnames.mp listed
    obtain ⟨tenantId, rfl⟩ := (apart.distinct other others tenant filed).hostnames otherEntry
      otherEntered entry entered (.inr same)
    rw [tenantId]
  · exact fun source sourced =>
      ⟨owns.dataSources source sourced,
        dataSource_kept apart seeded.tenantDataSources filed sourced⟩
  · exact fun role bundled =>
      ⟨owns.roleBundles role bundled, roleBundle_kept apart seeded.tenantRoleBundles filed bundled⟩
  · obtain ⟨row, found⟩ := mapM_each passed tenant (mem_sortPaths.mpr filed)
    refine ⟨row, ?_, found, ?_⟩
    · refine mem_run seeded.tenantMemberships
        ((mem_memberships passed).mpr ⟨tenant, filed, found⟩) ?_
      intro otherRow listed same
      obtain ⟨other, others, otherFound⟩ := (mem_memberships passed).mp listed
      obtain ⟨roleId, rfl⟩ := tenantMembership_eq found
      obtain ⟨otherRoleId, rfl⟩ := tenantMembership_eq otherFound
      have tenantId := (apart.distinct other others tenant filed).memberships same
      have one : other = tenant := List.inj_on_of_nodup_map distinctIds others filed tenantId
      subst one
      rw [found] at otherFound
      exact (Option.some.inj otherFound).symm
    · obtain ⟨roleId, rfl⟩ := tenantMembership_eq found
      rfl
  · intro role bundled capability granted
    refine mem_run seeded.tenantRoleCapabilityGrants
      (mem_capabilityGrants.mpr ⟨tenant, filed, role, bundled, capability, granted, rfl⟩) ?_
    intro row listed same
    obtain ⟨other, others, otherRole, otherBundled, otherCapability, otherGranted, rfl⟩ :=
      mem_capabilityGrants.mp listed
    have distinct := apart.distinct other others tenant filed
    obtain ⟨id, rfl⟩ :=
      distinct.capabilityGrants otherRole otherBundled role bundled otherCapability
      otherGranted capability granted same
    have bundles := distinct.roleBundles otherRole otherBundled role bundled id
    have tenantId : otherRole.tenantId = role.tenantId :=
      show (roleBundleRecord otherRole).tenantId = (roleBundleRecord role).tenantId by rw [bundles]
    rw [capabilityGrantRecord, capabilityGrantRecord, id, tenantId]
  · intro role bundled grant granted
    refine mem_run seeded.tenantRoleDataSourceGrants
      (mem_dataSourceGrants.mpr ⟨tenant, filed, role, bundled, grant, granted, rfl⟩) ?_
    intro row listed same
    obtain ⟨other, others, otherRole, otherBundled, otherGrant, otherGranted, rfl⟩ :=
      mem_dataSourceGrants.mp listed
    have distinct := apart.distinct other others tenant filed
    obtain ⟨id, source, modes⟩ := distinct.dataSourceGrants otherRole otherBundled role bundled
      otherGrant otherGranted grant granted same
    have bundles := distinct.roleBundles otherRole otherBundled role bundled id
    have tenantId : otherRole.tenantId = role.tenantId :=
      show (roleBundleRecord otherRole).tenantId = (roleBundleRecord role).tenantId by rw [bundles]
    rw [dataSourceGrantRecord, dataSourceGrantRecord, id, tenantId, source, modes]

end Apart

theorem apart_of_keepsAll (distinctIds : (tenants.map TenantFile.tenantId).Nodup)
    (keepsAll : KeepsAll seedHost tenants) : Apart seedHost tenants := by
  obtain ⟨database, applied, keeps⟩ := keepsAll
  rw [seed, buildSeedRecords_tenants] at applied
  obtain ⟨records, built, applied⟩ := Option.bind_eq_some_iff.mp applied
  obtain ⟨memberships, passed, rfl⟩ := Option.map_eq_some_iff.mp built
  have seeded := applySeed_eq_some.mp applied
  exact ⟨sound_of_seeded passed seeded, owns_of_keeps seeded distinctIds keeps,
    distinct_of_keeps keeps seeded⟩

/-- A seed of tenants with distinct ids keeps every tenant's rows under that tenant exactly when the
files are kept apart. -/
theorem keepsAll_iff (distinctIds : (tenants.map TenantFile.tenantId).Nodup) :
    KeepsAll seedHost tenants ↔ Apart seedHost tenants := by
  refine ⟨apart_of_keepsAll distinctIds, fun apart => ?_⟩
  obtain ⟨memberships, passed⟩ : ∃ memberships,
      (sortPaths TenantFile.path tenants).mapM tenantMembership = some memberships :=
    mapM_isSome fun tenant listed =>
      tenantMembership_isSome.mpr (apart.sound tenant (mem_sortPaths.mp listed)).member
  obtain ⟨tenantTable, tenantsRan⟩ := tenants_run apart
  obtain ⟨hostnames, hostnamesRan⟩ := hostnames_run apart tenantsRan
  obtain ⟨sources, sourcesRan⟩ := dataSources_run apart tenantsRan
  obtain ⟨roles, rolesRan⟩ := roleBundles_run apart tenantsRan
  obtain ⟨members, membersRan⟩ := memberships_run apart passed tenantsRan
  obtain ⟨capabilities, capabilitiesRan⟩ := capabilityGrants_run apart tenantsRan rolesRan
  obtain ⟨grants, grantsRan⟩ := dataSourceGrants_run apart tenantsRan sourcesRan rolesRan
  obtain ⟨modules, versions, metadata, modulesRan, versionsRan, metadataRan⟩ :=
    scopes_run seedHost apart.sound memberships
  have seeded : Seeded seedHost (tenantRecords seedHost tenants memberships)
      ⟨tenantTable, hostnames, sources, roles, members, capabilities, grants, modules, versions,
        metadata, .empty, .empty, .empty⟩ :=
    ⟨tenantsRan, hostnamesRan, sourcesRan, rolesRan, membersRan, capabilitiesRan, grantsRan,
      modulesRan, versionsRan, metadataRan, rfl, rfl, rfl⟩
  refine ⟨_, ?_, fun tenant filed => keeps_of_seeded apart distinctIds passed seeded filed⟩
  rw [seed, buildSeedRecords_tenants, passed]
  exact applySeed_eq_some.mpr seeded

/-- A tenant with an owner and nothing else. -/
def ownedTenant (tenantId owner : Text) : TenantFile where
  path := tenantId ++ (".json" : Text)
  tenantId
  areaId := "area"
  displayName := "Tenant"
  legalName := "Tenant GmbH"
  status := .active
  defaultLocale := "de-DE"
  contactEmail := "a@b.de"
  contactPhone := none
  contactWebsite := none
  areaBrainId := "brain"
  sharedPromotionAllowed := false
  knowledgeScopeId := "scope"
  knowledgeIndexes := []
  policyBundle := []
  validators := []
  hostnames := []
  dataSources := []
  initialOwner := some owner
  roleBundles := []

theorem sound_ownedTenant {tenantId owner : Text} (named : tenantId ≠ []) (owned : owner ≠ []) :
    Sound (ownedTenant tenantId owner) := by
  constructor <;> simp [ownedTenant, principal, named, owned, Text]

theorem two_owners_kept : KeepsAll plainSeedHost [ownedTenant "a" "b", ownedTenant "c" "d"] := by
  have owns : ∀ tenantId owner, Owns (ownedTenant tenantId owner) := fun _ _ =>
    ⟨nofun, nofun, nofun⟩
  refine (keepsAll_iff (by decide)).mpr ⟨?_, ?_, fun left listed right filed => ?_⟩
  · simpa using ⟨sound_ownedTenant (by decide) (by decide),
      sound_ownedTenant (by decide) (by decide)⟩
  · simpa using ⟨owns "a" "b", owns "c" "d"⟩
  · simp only [List.mem_cons, List.not_mem_nil, or_false] at listed filed
    rcases listed with rfl | rfl <;> rcases filed with rfl | rfl <;>
      exact ⟨nofun, nofun, nofun, by decide, nofun, nofun⟩

/-- The owner `b-c` of tenant `a` and the owner `c` of tenant `a-b` have one membership row. -/
theorem shared_membership_lost :
    ([ownedTenant "a" "b-c", ownedTenant "a-b" "c"].map TenantFile.tenantId).Nodup ∧
      ¬ KeepsAll plainSeedHost [ownedTenant "a" "b-c", ownedTenant "a-b" "c"] := by
  refine ⟨by decide, fun keepsAll => ?_⟩
  have apart := apart_of_keepsAll (by decide) keepsAll
  have tenantId := (apart.distinct (ownedTenant "a" "b-c") List.mem_cons_self
    (ownedTenant "a-b" "c") (List.mem_cons_of_mem _ List.mem_cons_self)).memberships (by decide)
  exact absurd tenantId (by decide)

end SkillCentric.TenantSeeds
