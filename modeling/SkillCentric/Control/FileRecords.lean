import SkillCentric.Control.Seed

/-!
# The records of module files

The rows of a seed without tenant files.  Such a seed runs through exactly when the fields of the
files pass the checks of the tables: the other statements refer only to rows that are there.
-/

namespace SkillCentric.Control

open SkillCentric Seeding

variable {host : Host} {seedHost : SeedHost host} {files : List (ModuleFile host)}
variable {database : SeedDatabase host}

/-- The references of some files. -/
def Refers (files : List (ModuleFile host)) (reference : FileReference) : Prop :=
  ∃ file ∈ files, reference ∈ file.module.allReferences

theorem Wanted.of_reference {file : ModuleFile host} {reference : FileReference}
    (listed : file ∈ files)
    (refers : reference ∈ file.module.allReferences) :
    Wanted files reference.targetName reference.field.kind := ⟨file, listed, reference, refers, rfl⟩

/-- The records of module files alone. -/
def fileRecords (files : List (ModuleFile host)) : SeedRecords host :=
  let actual := (actualModules files).map SeedModule.module
  let modules := (fileModules files).map SeedModule.module
  { tenants := []
    tenantHostnames := []
    tenantDataSources := []
    tenantRoleBundles := []
    tenantMemberships := []
    tenantRoleCapabilityGrants := []
    tenantRoleDataSourceGrants := []
    modules := sortRecords (·.id) (modules.map moduleRecord)
    moduleVersions := sortRecords (·.id) ((fileModules files).map moduleVersionRecord)
    selectionMetadata := sortRecords (·.id) (modules.map selectionMetadataRecord)
    dependencies := sortRecords (·.id) (actual.flatMap dependencyRecords)
    policyBindings := sortRecords (·.id) (actual.flatMap policyBindingRecords)
    scopeBindings := sortRecords (·.id) (scopeBindingRecords actual modules) }

theorem buildSeedRecords_files : buildSeedRecords seedHost files [] = some (fileRecords files) := by
  have scopes : tenantScopeModules seedHost [] = [] := rfl
  simp only [buildSeedRecords, scopes, List.append_nil]
  rfl

theorem mem_modules {row : RegistryRow} : row ∈ (fileRecords files).modules ↔
    ∃ seed ∈ fileModules files, moduleRecord seed.module = row := by
  simp [fileRecords]

theorem mem_moduleVersions {row : ModuleVersionRecord host} :
    row ∈ (fileRecords files).moduleVersions ↔
      ∃ seed ∈ fileModules files, moduleVersionRecord seed = row := by
  simp [fileRecords]

theorem mem_selectionMetadata {row : SelectionMetadataRow} :
    row ∈ (fileRecords files).selectionMetadata ↔
      ∃ seed ∈ fileModules files, selectionMetadataRecord seed.module = row := by
  simp [fileRecords]

/-- The row of a reference. -/
def dependencyRow (module : ModuleMetadata host) (reference : FileReference) :
    ModuleDependencyRow where
  id := dependencyId module.name reference.field reference.targetName
  moduleVersionId := moduleVersionId module.name module.version
  dependencyKind := reference.field.kind
  dependencyId := moduleId reference.targetName
  isRequired := reference.field.isRequired

theorem mem_dependencies {row : ModuleDependencyRow} : row ∈ (fileRecords files).dependencies ↔
    ∃ file ∈ files, ∃ reference ∈ file.module.allReferences,
      dependencyRow file.module reference = row := by
  simp only [fileRecords, mem_sortRecords, List.mem_flatMap, List.mem_map, mem_actualModules]
  constructor
  · rintro ⟨-, ⟨-, ⟨file, listed, rfl⟩, rfl⟩, refers⟩
    obtain ⟨reference, found, rfl⟩ := List.mem_map.mp refers
    exact ⟨file, listed, reference, found, rfl⟩
  · rintro ⟨file, listed, reference, found, rfl⟩
    exact ⟨_, ⟨_, ⟨file, listed, rfl⟩, rfl⟩, List.mem_map.mpr ⟨reference, found, rfl⟩⟩

/-- The row that allows a module by a policy. -/
def policyRow (policyName moduleName : Text) : PolicyBindingRow where
  id := policyBindingId policyName moduleName
  policyId := moduleId policyName
  targetKind := .module
  targetId := moduleId moduleName
  effect := .allow
  priority := 100

theorem mem_allReferences {module : ModuleMetadata host} {reference : FileReference} :
    reference ∈ module.allReferences ↔ reference.sourceName = module.name ∧
      reference.targetName ∈ module.references reference.field := by
  simp only [ModuleMetadata.allReferences, List.mem_flatMap, List.mem_map]
  constructor
  · rintro ⟨field, -, target, found, rfl⟩
    exact ⟨rfl, found⟩
  · rintro ⟨source, found⟩
    exact ⟨reference.field, reference.field.mem_all, _, found, by rw [← source]⟩

theorem mem_policyBindings {row : PolicyBindingRow} : row ∈ (fileRecords files).policyBindings ↔
    ∃ reference, Refers files reference ∧ reference.field = .policies ∧
      policyRow reference.targetName reference.sourceName = row := by
  simp only [fileRecords, mem_sortRecords, List.mem_flatMap, List.mem_map,
    mem_actualModules, Refers]
  constructor
  · rintro ⟨-, ⟨-, ⟨file, listed, rfl⟩, rfl⟩, bound⟩
    obtain ⟨policyName, found, rfl⟩ := List.mem_map.mp bound
    exact ⟨⟨file.module.name, .policies, policyName⟩,
      ⟨file, listed, mem_allReferences.mpr ⟨rfl, found⟩⟩, rfl, rfl⟩
  · rintro ⟨⟨source, field, target⟩, ⟨file, listed, refers⟩, rfl, rfl⟩
    obtain ⟨rfl, found⟩ := mem_allReferences.mp refers
    exact ⟨_, ⟨_, ⟨file, listed, rfl⟩, rfl⟩, List.mem_map.mpr ⟨target, found, rfl⟩⟩

/-- The row that binds a scope. -/
def scopeRow (policyName name : Text) (kind : ModuleKind) : ScopeBindingRow where
  id := scopeBindingId name defaultPrincipalId
  scopeId := moduleId name
  scopeKind := kind
  principalKind := .role
  principalId := defaultPrincipalId
  policyId := moduleId policyName
  effect := .allow

variable (files) in
theorem scopeBindings_cases : (fileRecords files).scopeBindings = [] ∨
    ∃ policyName, (∃ version, Uses files policyName .policy version) ∧
      ∀ row ∈ (fileRecords files).scopeBindings, ∃ name kind, kind.isScope = true ∧
        (∃ version, Uses files name kind version) ∧ row = scopeRow policyName name kind := by
  simp only [fileRecords, mem_sortRecords, scopeBindingRecords]
  split
  · exact .inl rfl
  · rename_i policyName rest sorted
    right
    have policy : policyName ∈ (((fileModules files).map SeedModule.module).filter
        fun module => module.kind = .policy).map ModuleMetadata.name := by
      rw [← List.mem_insertionSort (· ≤ ·), sorted]
      exact List.mem_cons_self
    obtain ⟨module, policed, rfl⟩ := List.mem_map.mp policy
    obtain ⟨member, kind⟩ := List.mem_filter.mp policed
    obtain ⟨seed, seed_mem, rfl⟩ := List.mem_map.mp member
    refine ⟨seed.module.name,
      ⟨_, uses_iff.mpr ⟨seed, seed_mem, rfl, of_decide_eq_true kind, rfl⟩⟩, ?_⟩
    intro row listed
    obtain ⟨⟨name, scope⟩, found, rfl⟩ := List.mem_map.mp listed
    rw [List.mem_eraseDups, List.mem_append] at found
    rcases found with asked | there
    · obtain ⟨wanted, isScope⟩ := List.mem_filter.mp asked
      exact ⟨name, scope, isScope, Wanted.uses (mem_moduleDependencies.mp wanted), rfl⟩
    · obtain ⟨module, filtered, same⟩ := List.mem_map.mp there
      obtain ⟨module_mem, isScope⟩ := List.mem_filter.mp filtered
      obtain ⟨other, other_mem, rfl⟩ := List.mem_map.mp module_mem
      cases same
      exact ⟨_, _, isScope, ⟨_, uses_iff.mpr ⟨other, other_mem, rfl, rfl, rfl⟩⟩, rfl⟩

/-- The fields of a module pass the checks of the tables. -/
structure Sound (seedHost : SeedHost host) (module : ModuleMetadata host) : Prop where
  name : module.name ≠ []
  version : module.version ≠ []
  description : module.description ≠ []
  capabilityClass : module.capabilityClass ∈ capabilityClasses
  baseScore : ∀ score ∈ module.baseScore, seedHost.inRange score = true

/-- The files pass the checks of the tables. -/
structure Seedable (seedHost : SeedHost host) (files : List (ModuleFile host)) : Prop where
  sound : ∀ file ∈ files, Sound seedHost file.module
  named : ∀ reference, Refers files reference → reference.targetName ≠ []

theorem seedable_of_seeded (seeded : Seeded seedHost (fileRecords files) database) :
    Seedable seedHost files := by
  constructor
  · intro file listed
    have member : loadModule file ∈ fileModules files :=
      List.mem_append_left _ (mem_actualModules.mpr ⟨file, listed, rfl⟩)
    have named := admits_of_run seeded.modules _ (mem_modules.mpr ⟨_, member, rfl⟩)
    have ranged := admits_of_run seeded.moduleVersions _ (mem_moduleVersions.mpr ⟨_, member, rfl⟩)
    have described := admits_of_run seeded.selectionMetadata _
      (mem_selectionMetadata.mpr ⟨_, member, rfl⟩)
    simp only [SeedConstraints.modules, SeedConstraints.moduleVersions,
      SeedConstraints.selectionMetadata, Bool.and_eq_true, filled_iff, List.contains_iff_mem]
      at named ranged described
    refine ⟨named.1.2, ranged.1.1.1.1.2, described.1.1.2, described.1.2, ?_⟩
    intro score scored
    have base : (moduleVersionRecord (loadModule file)).selectionBaseScore = score := by
      show file.module.baseScore.getD host.zero = score
      rw [Option.mem_def.mp scored, Option.getD_some]
    exact base ▸ ranged.1.2
  · rintro reference ⟨file, listed, refers⟩
    obtain ⟨version, used⟩ := (Wanted.of_reference listed refers).uses
    obtain ⟨seed, member, name, -, -⟩ := uses_iff.mp used
    have admitted := admits_of_run seeded.modules _ (mem_modules.mpr ⟨seed, member, rfl⟩)
    simp only [SeedConstraints.modules, Bool.and_eq_true, filled_iff] at admitted
    exact name ▸ admitted.1.2

theorem Seedable.modules (seedable : Seedable seedHost files) {seed : SeedModule host}
    (member : seed ∈ fileModules files) :
    Sound seedHost seed.module ∧ seed.sourceUri ≠ [] ∧ seed.checksum ≠ [] := by
  rcases List.mem_append.mp member with filed | stub
  · obtain ⟨file, listed, rfl⟩ := mem_actualModules.mp filed
    have sound := seedable.sound file listed
    exact ⟨⟨sound.name, sound.version, sound.description, sound.capabilityClass, sound.baseScore⟩,
      by simp [loadModule], by simp [loadModule]⟩
  · obtain ⟨name, kind, wanted, -, rfl⟩ := mem_stubModules.mp stub
    obtain ⟨file, listed, reference, refers, asked⟩ := wanted
    obtain ⟨rfl, rfl⟩ := Prod.mk.inj asked
    refine ⟨⟨seedable.named reference ⟨file, listed, refers⟩, (by decide : defaultVersion ≠ []),
      by simp [stubModule], ?_, nofun⟩, by simp [stubModule], by simp [stubModule]⟩
    show capabilityClassByKind reference.field.kind ∈ capabilityClasses
    cases reference.field <;> decide

section

variable {modules : Table RegistryRow} {versions : Table (ModuleVersionRecord host)}
variable (seedable : Seedable seedHost files)
variable (ran : run SeedConstraints.modules .empty (fileRecords files).modules = some modules)
variable (versionsRan : run (SeedConstraints.moduleVersions seedHost modules) .empty
  (fileRecords files).moduleVersions = some versions)

include ran in
theorem present_of_uses {name version : Text} {kind : ModuleKind}
    (used : Uses files name kind version) :
    present modules (moduleId name) = true := by
  obtain ⟨seed, member, rfl, -, -⟩ := uses_iff.mp used
  exact present_iff.mpr (exists_of_run ran (mem_modules.mpr ⟨seed, member, rfl⟩))

include versionsRan in
theorem present_version {seed : SeedModule host} (member : seed ∈ fileModules files) :
    present versions (moduleVersionId seed.module.name seed.module.version) = true :=
  present_iff.mpr (exists_of_run versionsRan (mem_moduleVersions.mpr ⟨seed, member, rfl⟩))

include seedable in
theorem modules_run :
    ∃ modules, run SeedConstraints.modules .empty (fileRecords files).modules = some modules := by
  apply run_of_sound
  · intro row listed
    obtain ⟨seed, member, rfl⟩ := mem_modules.mp listed
    have sound := (seedable.modules member).1
    simp [SeedConstraints.modules, moduleRecord, sound.name]
  · rintro old (there | there) row listed clash
    · cases there
    · obtain ⟨left, -, rfl⟩ := mem_modules.mp there
      obtain ⟨right, -, rfl⟩ := mem_modules.mp listed
      exact congrArg moduleId (of_decide_eq_true clash)

include seedable ran in
theorem moduleVersions_run :
    ∃ versions, run (SeedConstraints.moduleVersions seedHost modules) .empty
    (fileRecords files).moduleVersions = some versions := by
  apply run_of_sound
  · intro row listed
    obtain ⟨seed, member, rfl⟩ := mem_moduleVersions.mp listed
    obtain ⟨sound, uri, checksum⟩ := seedable.modules member
    have there := present_of_uses ran (uses_iff.mpr ⟨seed, member, rfl, rfl, rfl⟩)
    have ranged : seedHost.inRange (seed.module.baseScore.getD host.zero) = true := by
      cases scored : seed.module.baseScore with
      | none => exact seedHost.inRange_zero
      | some score => exact sound.baseScore score scored
    simp [SeedConstraints.moduleVersions, moduleVersionRecord, sound.version, uri,
      checksum, ranged, there]
  · rintro old (there | there) row listed clash
    · cases there
    · obtain ⟨left, -, rfl⟩ := mem_moduleVersions.mp there
      obtain ⟨right, -, rfl⟩ := mem_moduleVersions.mp listed
      simp only [SeedConstraints.moduleVersions, Bool.and_eq_true, decide_eq_true_eq] at clash
      exact congrArg₂ moduleVersionId (moduleId_inj.mp clash.1) clash.2

include seedable versionsRan in
theorem selectionMetadata_run : ∃ metadata, run (SeedConstraints.selectionMetadata versions) .empty
    (fileRecords files).selectionMetadata = some metadata := by
  apply run_of_sound
  · intro row listed
    obtain ⟨seed, member, rfl⟩ := mem_selectionMetadata.mp listed
    have sound := (seedable.modules member).1
    simp [SeedConstraints.selectionMetadata, selectionMetadataRecord, selectionMetadataId,
      sound.description, sound.capabilityClass, present_version versionsRan member]
  · rintro old (there | there) row listed clash
    · cases there
    · obtain ⟨left, -, rfl⟩ := mem_selectionMetadata.mp there
      obtain ⟨right, -, rfl⟩ := mem_selectionMetadata.mp listed
      exact selectionMetadataId_eq.mp (of_decide_eq_true clash)

include ran versionsRan in
theorem dependencies_run :
    ∃ dependencies, run (SeedConstraints.dependencies modules versions) .empty
    (fileRecords files).dependencies = some dependencies := by
  apply run_of_sound
  · intro row listed
    obtain ⟨file, filed, reference, refers, rfl⟩ := mem_dependencies.mp listed
    have member : loadModule file ∈ fileModules files :=
      List.mem_append_left _ (mem_actualModules.mpr ⟨file, filed, rfl⟩)
    have source : present versions (moduleVersionId file.module.name file.module.version) = true :=
      present_version versionsRan member
    obtain ⟨version, used⟩ := (Wanted.of_reference filed refers).uses
    simp [SeedConstraints.dependencies, dependencyRow, source, present_of_uses ran used]
  · intro old _ row _ clash
    cases clash

include ran in
theorem policyBindings_run : ∃ policies, run (SeedConstraints.policyBindings modules) .empty
    (fileRecords files).policyBindings = some policies := by
  apply run_of_sound
  · intro row listed
    obtain ⟨reference, ⟨file, filed, refers⟩, -, rfl⟩ := mem_policyBindings.mp listed
    obtain ⟨version, used⟩ := (Wanted.of_reference filed refers).uses
    have target : filled (moduleId reference.sourceName) = true := by simp
    have named : policyBindingId reference.targetName reference.sourceName ≠ [] := by
      unfold policyBindingId
      simp
    simp [SeedConstraints.policyBindings, policyRow, named, present_of_uses ran used, target]
  · intro old _ row _ clash
    cases clash

include ran in
theorem scopeBindings_run : ∃ scopes, run (SeedConstraints.scopeBindings modules) .empty
    (fileRecords files).scopeBindings = some scopes := by
  rcases scopeBindings_cases files with none | ⟨policyName, ⟨_, policed⟩, bound⟩
  · rw [none]
    exact ⟨_, rfl⟩
  apply run_of_sound
  · intro row listed
    obtain ⟨name, kind, isScope, ⟨_, used⟩, rfl⟩ := bound row listed
    have there := present_of_uses ran used
    have policy := present_of_uses ran policed
    have principal : defaultPrincipalId ≠ [] := by decide
    simp [SeedConstraints.scopeBindings, scopeRow, scopeBindingId, principal,
      isScope, there, policy]
  · intro old _ row _ clash
    cases clash

end

theorem Seedable.seeded (seedable : Seedable seedHost files) :
    ∃ database, Seeded seedHost (fileRecords files) database := by
  obtain ⟨modules, ran⟩ := modules_run seedable
  obtain ⟨versions, versionsRan⟩ := moduleVersions_run seedable ran
  obtain ⟨metadata, metadataRan⟩ := selectionMetadata_run seedable versionsRan
  obtain ⟨dependencies, dependenciesRan⟩ := dependencies_run ran versionsRan
  obtain ⟨policies, policiesRan⟩ := policyBindings_run ran
  obtain ⟨scopes, scopesRan⟩ := scopeBindings_run ran
  exact ⟨⟨.empty, .empty, .empty, .empty, .empty, .empty, .empty, modules, versions, metadata,
    dependencies, policies, scopes⟩, ⟨rfl, rfl, rfl, rfl, rfl, rfl, rfl, ran, versionsRan,
      metadataRan, dependenciesRan, policiesRan, scopesRan⟩⟩

end SkillCentric.Control
