import SkillCentric.Control.FileRecords

/-!
# Seed and registry agree

A seed of module files keeps all its rows exactly when every name stands for one module and the ids
that are joined from names tell their parts apart.  The database then answers as the registry does.
-/

namespace SkillCentric.SeedAgreement

open SkillCentric Control Seeding InMemoryModuleRegistry

variable {host : Host} {seedHost : SeedHost host} {files : List (ModuleFile host)}
variable {records : SeedRecords host} {database : SeedDatabase host}

/-- The database holds every generated row. -/
structure Holds (records : SeedRecords host) (database : SeedDatabase host) : Prop where
  tenants : ∀ row ∈ records.tenants, row ∈ database.tenants
  tenantHostnames : ∀ row ∈ records.tenantHostnames, row ∈ database.tenantHostnames
  tenantDataSources : ∀ row ∈ records.tenantDataSources, row ∈ database.tenantDataSources
  tenantRoleBundles : ∀ row ∈ records.tenantRoleBundles, row ∈ database.tenantRoleBundles
  tenantMemberships : ∀ row ∈ records.tenantMemberships, row ∈ database.tenantMemberships
  tenantRoleCapabilityGrants :
    ∀ row ∈ records.tenantRoleCapabilityGrants, row ∈ database.tenantRoleCapabilityGrants
  tenantRoleDataSourceGrants :
    ∀ row ∈ records.tenantRoleDataSourceGrants, row ∈ database.tenantRoleDataSourceGrants
  modules : ∀ row ∈ records.modules, row ∈ database.modules
  moduleVersions : ∀ row ∈ records.moduleVersions, row ∈ database.moduleVersions
  selectionMetadata : ∀ row ∈ records.selectionMetadata, row ∈ database.selectionMetadata
  dependencies : ∀ row ∈ records.dependencies, row ∈ database.dependencies
  policyBindings : ∀ row ∈ records.policyBindings, row ∈ database.policyBindings
  scopeBindings : ∀ row ∈ records.scopeBindings, row ∈ database.scopeBindings

/-- A module row stands for a module: it has its kind, its current version is the version of the
module, and the dependencies of that version are the references of the module. -/
structure StandsFor (database : SeedDatabase host) (row : RegistryRow)
    (module : ModuleMetadata host) :
    Prop where
  kind : row.kind = module.kind
  version : ∃ version ∈ database.moduleVersions, version.id = row.currentVersionId ∧
    version.moduleId = row.id ∧ version.version = module.version
  dependencies : ∀ kind id isRequired,
    (∃ dependency ∈ database.dependencies, dependency.moduleVersionId = row.currentVersionId ∧
      dependency.dependencyKind = kind ∧ dependency.dependencyId = id ∧
      dependency.isRequired = isRequired) ↔
    ∃ reference ∈ module.allReferences, reference.field.kind = kind ∧
      moduleId reference.targetName = id ∧ reference.field.isRequired = isRequired

/-- The names that the registry resolves stand for what they resolve to. -/
def Agrees (registry : InMemoryModuleRegistry host) (database : SeedDatabase host) : Prop :=
  ∀ name module, registry.resolve name = .ok module →
    ∃ row ∈ database.modules, row.name = name ∧ StandsFor database row module

/-- The files are seeded without losing a row, and agree with the registry. -/
def SeedAgrees (seedHost : SeedHost host) (files : List (ModuleFile host))
    (registry : InMemoryModuleRegistry host) : Prop :=
  ∃ records database, buildSeedRecords seedHost files [] = some records ∧
    applySeed seedHost records = some database ∧ Holds records database ∧ Agrees registry database

/-- Every name stands for one module, and the joined ids tell their parts apart. -/
structure ToldApart (seedHost : SeedHost host) (files : List (ModuleFile host)) : Prop
    extends Seedable seedHost files where
  names : ∀ name kind version otherKind otherVersion, Uses files name kind version →
    Uses files name otherKind otherVersion → kind = otherKind ∧ version = otherVersion
  versions : ∀ name kind version other otherKind otherVersion, Uses files name kind version →
    Uses files other otherKind otherVersion →
      moduleVersionId name version = moduleVersionId other otherVersion → name = other
  dependencies : ∀ left right, Refers files left → Refers files right →
    dependencyId left.sourceName left.field left.targetName =
      dependencyId right.sourceName right.field right.targetName → left = right
  policies : ∀ left right, Refers files left → Refers files right → left.field = .policies →
    right.field = .policies → policyBindingId left.targetName left.sourceName =
      policyBindingId right.targetName right.sourceName → left = right

variable {left right : SeedModule host}

theorem modules_apart (holds : Holds (fileRecords files) database)
    (left_mem : left ∈ fileModules files) (right_mem : right ∈ fileModules files)
    (same : left.module.name = right.module.name) :
    moduleRecord left.module = moduleRecord right.module :=
  Table.eq_of_key (holds.modules _ (mem_modules.mpr ⟨left, left_mem, rfl⟩))
    (holds.modules _ (mem_modules.mpr ⟨right, right_mem, rfl⟩)) (congrArg moduleId same)

theorem versions_apart (holds : Holds (fileRecords files) database)
    (left_mem : left ∈ fileModules files) (right_mem : right ∈ fileModules files)
    (same : moduleVersionId left.module.name left.module.version =
      moduleVersionId right.module.name right.module.version) :
    moduleVersionRecord left = moduleVersionRecord right :=
  Table.eq_of_key (holds.moduleVersions _ (mem_moduleVersions.mpr ⟨left, left_mem, rfl⟩))
    (holds.moduleVersions _ (mem_moduleVersions.mpr ⟨right, right_mem, rfl⟩)) same

theorem names_of_holds (holds : Holds (fileRecords files) database)
    {name version otherVersion : Text}
    {kind otherKind : ModuleKind} (used : Uses files name kind version)
    (other : Uses files name otherKind otherVersion) :
    kind = otherKind ∧ version = otherVersion := by
  obtain ⟨left, left_mem, rfl, rfl, rfl⟩ := uses_iff.mp used
  obtain ⟨right, right_mem, same, rfl, rfl⟩ := uses_iff.mp other
  have rows := modules_apart holds left_mem right_mem same.symm
  have version :=
    versions_apart holds left_mem right_mem (congrArg RegistryRow.currentVersionId rows)
  exact ⟨congrArg RegistryRow.kind rows, congrArg (fun row => row.version) version⟩

theorem versions_of_holds (holds : Holds (fileRecords files) database)
    {name version other otherVersion : Text} {kind otherKind : ModuleKind}
    (used : Uses files name kind version) (others : Uses files other otherKind otherVersion)
    (same : moduleVersionId name version = moduleVersionId other otherVersion) : name = other := by
  obtain ⟨left, left_mem, rfl, rfl, rfl⟩ := uses_iff.mp used
  obtain ⟨right, right_mem, rfl, rfl, rfl⟩ := uses_iff.mp others
  have version := versions_apart holds left_mem right_mem same
  exact moduleId_inj.mp (congrArg (fun row => row.moduleId) version)

theorem field_of_dependencyId {source target : Text} {left right : ReferenceField}
    (same : dependencyId source left target = dependencyId source right target) : left = right := by
  have fields : replaceChar '_' '-' left.text = replaceChar '_' '-' right.text := by
    unfold dependencyId at same
    simpa using same
  revert fields
  cases left <;> cases right <;> decide

theorem dependencies_of_holds (holds : Holds (fileRecords files) database)
    {left right : FileReference} (left_mem : Refers files left) (right_mem : Refers files right)
    (same : dependencyId left.sourceName left.field left.targetName =
      dependencyId right.sourceName right.field right.targetName) : left = right := by
  obtain ⟨file, listed, refers⟩ := left_mem
  obtain ⟨other, others, otherRefers⟩ := right_mem
  have source := (mem_allReferences.mp refers).1
  have otherSource := (mem_allReferences.mp otherRefers).1
  have rows : dependencyRow file.module left = dependencyRow other.module right :=
    Table.eq_of_key (holds.dependencies _ (mem_dependencies.mpr ⟨file, listed, left, refers, rfl⟩))
      (holds.dependencies _ (mem_dependencies.mpr ⟨other, others, right, otherRefers, rfl⟩))
      (by
        show dependencyId file.module.name _ _ = dependencyId other.module.name _ _
        rw [← source, ← otherSource]
        exact same)
  have sources : left.sourceName = right.sourceName := by
    rw [source, otherSource]
    exact versions_of_holds holds (.file listed) (.file others)
      (congrArg ModuleDependencyRow.moduleVersionId rows)
  have targets : left.targetName = right.targetName :=
    moduleId_inj.mp (congrArg ModuleDependencyRow.dependencyId rows)
  rw [sources, targets] at same
  exact FileReference.ext sources (field_of_dependencyId same) targets

theorem toldApart_of_holds (seeded : Seeded seedHost (fileRecords files) database)
    (holds : Holds (fileRecords files) database) : ToldApart seedHost files where
  toSeedable := seedable_of_seeded seeded
  names _ _ _ _ _ := names_of_holds holds
  versions _ _ _ _ _ _ := versions_of_holds holds
  dependencies _ _ := dependencies_of_holds holds
  policies left right left_mem right_mem left_field right_field same := by
    have rows : policyRow left.targetName left.sourceName =
        policyRow right.targetName right.sourceName :=
      Table.eq_of_key
        (holds.policyBindings _ (mem_policyBindings.mpr ⟨left, left_mem, left_field, rfl⟩))
        (holds.policyBindings _ (mem_policyBindings.mpr ⟨right, right_mem, right_field, rfl⟩)) same
    have targets := moduleId_inj.mp (congrArg PolicyBindingRow.policyId rows)
    have sources := moduleId_inj.mp (congrArg PolicyBindingRow.targetId rows)
    exact FileReference.ext sources (left_field.trans right_field.symm) targets

variable {toInt : Text → Option Int} {registry : InMemoryModuleRegistry host}

theorem file_unique (created : fromPaths toInt files = .ok registry)
    {left right : ModuleFile host} (left_mem : left ∈ files) (right_mem : right ∈ files)
    (name : left.module.name = right.module.name)
    (version : left.module.version = right.module.version) : left = right := by
  have nodup := (create_eq_ok.mp created).1.1
  rw [List.map_map] at nodup
  exact List.inj_on_of_nodup_map nodup left_mem right_mem (Prod.ext name version)

theorem module_unique (created : fromPaths toInt files = .ok registry)
    (apart : ToldApart seedHost files)
    (left_mem : left ∈ fileModules files) (right_mem : right ∈ fileModules files)
    (name : left.module.name = right.module.name) : left = right := by
  obtain ⟨kind, version⟩ := apart.names _ _ _ _ _ (uses_iff.mpr ⟨left, left_mem, rfl, rfl, rfl⟩)
    (uses_iff.mpr ⟨right, right_mem, name.symm, rfl, rfl⟩)
  rcases List.mem_append.mp left_mem with left_file | left_stub <;>
    rcases List.mem_append.mp right_mem with right_file | right_stub
  · obtain ⟨file, listed, rfl⟩ := mem_actualModules.mp left_file
    obtain ⟨other, others, rfl⟩ := mem_actualModules.mp right_file
    rw [file_unique created listed others name version]
  · obtain ⟨file, listed, rfl⟩ := mem_actualModules.mp left_file
    obtain ⟨_, _, -, missing, rfl⟩ := mem_stubModules.mp right_stub
    exact absurd ⟨file, listed, name, kind⟩ missing
  · obtain ⟨_, _, -, missing, rfl⟩ := mem_stubModules.mp left_stub
    obtain ⟨file, listed, rfl⟩ := mem_actualModules.mp right_file
    exact absurd ⟨file, listed, name.symm, kind.symm⟩ missing
  · obtain ⟨_, _, -, -, rfl⟩ := mem_stubModules.mp left_stub
    obtain ⟨_, _, -, -, rfl⟩ := mem_stubModules.mp right_stub
    cases name
    cases kind
    rfl

theorem module_of_version (created : fromPaths toInt files = .ok registry)
    (apart : ToldApart seedHost files)
    (left_mem : left ∈ fileModules files) (right_mem : right ∈ fileModules files)
    (same : moduleVersionId left.module.name left.module.version =
      moduleVersionId right.module.name right.module.version) : left = right :=
  module_unique created apart left_mem right_mem (apart.versions _ _ _ _ _ _
    (uses_iff.mpr ⟨left, left_mem, rfl, rfl, rfl⟩)
      (uses_iff.mpr ⟨right, right_mem, rfl, rfl, rfl⟩) same)

theorem holds_of_toldApart (created : fromPaths toInt files = .ok registry)
    (apart : ToldApart seedHost files) (seeded : Seeded seedHost (fileRecords files) database) :
    Holds (fileRecords files) database where
  tenants := nofun
  tenantHostnames := nofun
  tenantDataSources := nofun
  tenantRoleBundles := nofun
  tenantMemberships := nofun
  tenantRoleCapabilityGrants := nofun
  tenantRoleDataSourceGrants := nofun
  modules row listed := by
    obtain ⟨left, left_mem, rfl⟩ := mem_modules.mp listed
    refine mem_run seeded.modules listed ?_
    intro other others same
    obtain ⟨right, right_mem, rfl⟩ := mem_modules.mp others
    rw [module_unique created apart right_mem left_mem (moduleId_inj.mp same)]
  moduleVersions row listed := by
    obtain ⟨left, left_mem, rfl⟩ := mem_moduleVersions.mp listed
    refine mem_run seeded.moduleVersions listed ?_
    intro other others same
    obtain ⟨right, right_mem, rfl⟩ := mem_moduleVersions.mp others
    rw [module_of_version created apart right_mem left_mem same]
  selectionMetadata row listed := by
    obtain ⟨left, left_mem, rfl⟩ := mem_selectionMetadata.mp listed
    refine mem_run seeded.selectionMetadata listed ?_
    intro other others same
    obtain ⟨right, right_mem, rfl⟩ := mem_selectionMetadata.mp others
    rw [module_of_version created apart right_mem left_mem same]
  dependencies row listed := by
    obtain ⟨file, filed, reference, refers, rfl⟩ := mem_dependencies.mp listed
    refine mem_run seeded.dependencies listed ?_
    intro other others same
    obtain ⟨otherFile, otherFiled, otherReference, otherRefers, rfl⟩ := mem_dependencies.mp others
    have source := (mem_allReferences.mp refers).1
    have otherSource := (mem_allReferences.mp otherRefers).1
    have one : otherReference = reference := by
      apply apart.dependencies _ _ ⟨otherFile, otherFiled, otherRefers⟩ ⟨file, filed, refers⟩
      rw [source, otherSource]
      exact same
    subst one
    have name : otherFile.module.name = file.module.name := otherSource.symm.trans source
    have used : Uses files otherFile.module.name file.module.kind file.module.version :=
      name ▸ .file filed
    rw [dependencyRow, dependencyRow, name, (apart.names _ _ _ _ _ (.file otherFiled) used).2]
  policyBindings row listed := by
    obtain ⟨reference, refers, field, rfl⟩ := mem_policyBindings.mp listed
    refine mem_run seeded.policyBindings listed ?_
    intro other others same
    obtain ⟨otherReference, otherRefers, otherField, rfl⟩ := mem_policyBindings.mp others
    rw [apart.policies _ _ otherRefers refers otherField field same]
  scopeBindings row listed := by
    rcases scopeBindings_cases files with none | ⟨policyName, -, bound⟩
    · rw [none] at listed
      cases listed
    refine mem_run seeded.scopeBindings listed ?_
    intro other others same
    obtain ⟨name, kind, -, ⟨_, used⟩, rfl⟩ := bound row listed
    obtain ⟨otherName, otherKind, -, ⟨_, otherUsed⟩, rfl⟩ := bound other others
    have ids : scopeBindingId otherName defaultPrincipalId =
      scopeBindingId name defaultPrincipalId := same
    have names : otherName = name := by
      unfold scopeBindingId at ids
      simpa using ids
    subst names
    rw [(apart.names _ _ _ _ _ otherUsed used).1]

theorem agrees_of_holds (created : fromPaths toInt files = .ok registry)
    (apart : ToldApart seedHost files) (seeded : Seeded seedHost (fileRecords files) database)
    (holds : Holds (fileRecords files) database) : Agrees registry database := by
  obtain ⟨-, rfl⟩ := create_eq_ok.mp created
  intro name module resolved
  obtain ⟨listed, rfl⟩ := mem_versionsOf.mp
    (List.mem_of_head? (resolve_eq_ok.mp resolved))
  obtain ⟨file, filed, rfl⟩ := List.mem_map.mp listed
  have member : loadModule file ∈ fileModules files :=
    List.mem_append_left _ (mem_actualModules.mpr ⟨file, filed, rfl⟩)
  refine ⟨moduleRecord file.module, holds.modules _ (mem_modules.mpr ⟨_, member, rfl⟩), rfl, rfl,
    ⟨_, holds.moduleVersions _ (mem_moduleVersions.mpr ⟨_, member, rfl⟩), rfl, rfl, rfl⟩, ?_⟩
  intro kind id isRequired
  constructor
  · rintro ⟨row, there, version, rfl, rfl, rfl⟩
    rcases mem_of_run seeded.dependencies there with before | generated
    · cases before
    · obtain ⟨other, others, reference, refers, rfl⟩ := mem_dependencies.mp generated
      have names : other.module.name = file.module.name :=
        apart.versions _ _ _ _ _ _ (.file others) (.file filed) version
      have used : Uses files other.module.name file.module.kind file.module.version :=
        names ▸ .file filed
      have one := file_unique created others filed names
        (apart.names _ _ _ _ _ (.file others) used).2
      subst one
      exact ⟨reference, refers, rfl, rfl, rfl⟩
  · rintro ⟨reference, refers, rfl, rfl, rfl⟩
    exact ⟨_, holds.dependencies _ (mem_dependencies.mpr ⟨file, filed, reference, refers, rfl⟩),
      rfl, rfl, rfl, rfl⟩

/-- A seed keeps all its rows, and the database then answers as the registry does, exactly when
every name stands for one module and the joined ids tell their parts apart. -/
theorem seed_agrees_iff (created : fromPaths toInt files = .ok registry) :
    SeedAgrees seedHost files registry ↔ ToldApart seedHost files := by
  constructor
  · rintro ⟨records, database, built, applied, holds, -⟩
    rw [buildSeedRecords_files] at built
    cases built
    exact toldApart_of_holds (applySeed_eq_some.mp applied) holds
  · intro apart
    obtain ⟨database, seeded⟩ := apart.toSeedable.seeded
    have holds := holds_of_toldApart created apart seeded
    exact ⟨_, database, buildSeedRecords_files, applySeed_eq_some.mpr seeded, holds,
      agrees_of_holds created apart seeded holds⟩

/-- A tool that is chosen directly. -/
def toolFile (path name version : Text) : ModuleFile plainHost where
  path
  repoPath := path
  digest := "d1"
  module :=
    { name
      version
      kind := .tool
      description := "A tool."
      capabilityClass := "tool_access"
      mode := .direct }

theorem lone_file_agrees : SeedAgrees plainSeedHost [toolFile "a.json" "search" "0.1.0"]
      ⟨[(toolFile "a.json" "search" "0.1.0").module],
        versionsOf plainInt [(toolFile "a.json" "search" "0.1.0").module]⟩ := by
  have unreferred : ∀ reference, ¬Refers [toolFile "a.json" "search" "0.1.0"] reference := by
    rintro reference ⟨file, listed, refers⟩
    cases List.mem_singleton.mp listed
    cases refers
  have used : ∀ {name kind version}, Uses [toolFile "a.json" "search" "0.1.0"] name kind version →
      name = "search".toList ∧ kind = .tool ∧ version = "0.1.0".toList := by
    rintro _ _ _ (⟨listed⟩ | ⟨⟨file, listed, reference, refers, -⟩, -⟩)
    · cases List.mem_singleton.mp listed
      exact ⟨rfl, rfl, rfl⟩
    · exact (unreferred reference ⟨file, listed, refers⟩).elim
  refine (seed_agrees_iff (show fromPaths plainInt _ = .ok _ from
    create_eq_ok.mpr ⟨⟨by decide, by decide⟩, rfl⟩)).mpr
    { sound := fun file listed => ?_
      named := fun reference refers => (unreferred _ refers).elim
      names := fun _ _ _ _ _ one other => ⟨(used one).2.1.trans (used other).2.1.symm,
        (used one).2.2.trans (used other).2.2.symm⟩
      versions := fun _ _ _ _ _ _ one other _ => (used one).1.trans (used other).1.symm
      dependencies := fun left _ refers => (unreferred _ refers).elim
      policies := fun left _ refers => (unreferred _ refers).elim }
  cases List.mem_singleton.mp listed
  exact ⟨by decide, by decide, by decide, by decide, nofun⟩

/-- Two versions of one tool make a registry, but the row of one version replaces the other. -/
theorem second_version_lost :
    ∃ files : List (ModuleFile plainHost), ∃ registry,
      fromPaths plainInt files = .ok registry ∧
        ¬ SeedAgrees plainSeedHost files registry := by
  refine ⟨[toolFile "a.json" "search" "0.1.0", toolFile "b.json" "search" "0.2.0"],
    ⟨_, versionsOf plainInt _⟩,
    create_eq_ok.mpr ⟨⟨?_, ?_⟩, rfl⟩, ?_⟩
  · decide
  · decide
  rintro ⟨records, database, built, -, holds, -⟩
  rw [buildSeedRecords_files] at built
  cases built
  have first : Uses [toolFile "a.json" "search" "0.1.0", toolFile "b.json" "search" "0.2.0"]
      "search" .tool "0.1.0" := .file List.mem_cons_self
  have second : Uses [toolFile "a.json" "search" "0.1.0", toolFile "b.json" "search" "0.2.0"]
      "search" .tool "0.2.0" := .file (List.mem_cons_of_mem _ List.mem_cons_self)
  have versions := (names_of_holds holds first second).2
  exact absurd versions (by decide)

end SkillCentric.SeedAgreement
