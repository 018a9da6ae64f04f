import SkillCentric.Control.Composition
import SkillCentric.Control.FileRecords
import SkillCentric.Library.Stateful

/-!
# Dependency-only modules and direct selection

The registry never discovers a dependency-only module.  The rows of a seed carry no selection mode,
so the Worker selects such a module like any other: exactly when its rows stand, it matches the task
and its policies allow it.
-/

namespace SkillCentric.DirectSelection

open SkillCentric Control Seeding Stateful

variable {host : Host} {seedHost : SeedHost host} {files : List (ModuleFile host)}
variable {database : SeedDatabase host} {request : CompositionRequest}

/-- The identity is that of the module. -/
def Names (identity : ModuleIdentity) (module : ModuleMetadata host) : Prop :=
  identity.name = module.name ∧ identity.kind = module.kind ∧ identity.version = module.version

/-- No query discovers a dependency-only module. -/
def NeverDiscovered (files : List (ModuleFile host)) : Prop :=
  ∀ toInt registry query, InMemoryModuleRegistry.fromPaths toInt files = .ok registry →
    ∀ module ∈ registry.discover toInt query, module.mode ≠ .dependencyOnly

/-- After the seed of the files no answer to the request has a dependency-only file among its
candidates. -/
def NeverCandidate (seedHost : SeedHost host) (files : List (ModuleFile host))
    (request : CompositionRequest) : Prop :=
  ∀ database registryVersion tenantAuthority response, seed seedHost files [] = some database →
    compositionContextResponse database.registry registryVersion tenantAuthority request =
      .ok response →
    ∀ reference ∈ response.candidateModules, ∀ file ∈ files, file.module.mode = .dependencyOnly →
      ¬ Names reference.module file.module

def versionId (seed : SeedModule host) : Text :=
  moduleVersionId seed.module.name seed.module.version

/-- The rows of this kind and this module stand under its name: the last module of the name has the
kind, and the last module with its version id is the module. -/
def Stands (files : List (ModuleFile host)) (kind : ModuleKind)
    (module : ModuleMetadata host) : Prop :=
  ∃ named stored, standing (·.module.name) (fileModules files) module.name = some named ∧
    named.module.kind = kind ∧
      standing versionId (fileModules files) (versionId named) = some stored ∧
    stored.module = module

/-- A value is listed, up to normalisation. -/
def Has (host : Host) (values : List Text) (value : Text) : Prop :=
  host.normalize value ∈ values.map host.normalize

/-- A module matches a task: it is meant for tasks of the type, its inputs are at hand, and one of
five signals is there. -/
structure Matches (module : ModuleMetadata host) (request : CompositionRequest) : Prop where
  taskType : module.taskTypes = [] ∨ Has host module.taskTypes request.taskType
  inputs : ∀ input ∈ module.requiredInputs, Has host request.availableInputs input
  signal :
    Has host module.taskTypes request.taskType ∨ Has host module.riskLevels request.riskLevel ∨
    (∃ tag ∈ module.domainTags ++ module.taskDomains, Has host request.domainTags tag) ∨
    (∃ input ∈ module.requiredInputs, Has host request.availableInputs input) ∨
    Has host request.capabilityHints module.capabilityClass

def policyPairs (files : List (ModuleFile host)) : List (Text × Text) :=
  (actualModules files).flatMap fun seed =>
    (seed.module.references .policies).map fun policyName => (policyName, seed.module.name)

/-- The standing bindings list the module under the policy. -/
def Allows (files : List (ModuleFile host)) (policyName moduleName : Text) : Prop :=
  standing (fun pair => policyBindingId pair.1 pair.2) (policyPairs files)
    (policyBindingId policyName moduleName) = some (policyName, moduleName)

/-- The references of the files, each with its module. -/
def references (files : List (ModuleFile host)) : List (ModuleMetadata host × FileReference) :=
  (actualModules files).flatMap fun seed =>
    seed.module.allReferences.map fun reference => (seed.module, reference)

def referenceId (entry : ModuleMetadata host × FileReference) : Text :=
  dependencyId entry.1.name entry.2.field entry.2.targetName

/-- A standing reference of the module names the policy. -/
def Requires (files : List (ModuleFile host)) (module : ModuleMetadata host) (policyName : Text) :
    Prop :=
  ∃ entry, standing referenceId (references files) (referenceId entry) = some entry ∧
    moduleVersionId entry.1.name entry.1.version = moduleVersionId module.name module.version ∧
    entry.2.field = .policies ∧ entry.2.targetName = policyName

/-- The policies allow a module of this kind. -/
structure Permitted (files : List (ModuleFile host)) (kind : ModuleKind)
    (module : ModuleMetadata host) : Prop where
  tool : kind = .tool → ∃ policyName, Allows files policyName module.name
  all : module.requiresAllPolicies = true → ∀ policyName, Requires files module policyName →
    Allows files policyName module.name

/-- The Worker selects the module of a file for the request. -/
structure Selectable (files : List (ModuleFile host)) (request : CompositionRequest)
    (file : ModuleFile host) (module : ModuleMetadata host) : Prop where
  candidate : file.module.kind.isCandidate = true
  name : module.name = file.module.name
  version : module.version = file.module.version
  stands : Stands files file.module.kind module
  fits : Matches module request
  permitted : Permitted files file.module.kind module

section Tables

variable (seeded : Seeded seedHost (fileRecords files) database)

include seeded

theorem find?_modules (name : Text) : database.modules.find? (moduleId name) =
    (standing (·.module.name) (fileModules files) name).map fun seed =>
      moduleRecord seed.module := by
  have injective : Function.Injective moduleId := fun _ _ => moduleId_inj.mp
  have level : ∀ left ∈ ((fileModules files).map SeedModule.module).map moduleRecord,
      ∀ right ∈ ((fileModules files).map SeedModule.module).map moduleRecord,
        left.id = right.id → left.id ≤ right.id := fun _ _ _ _ => le_of_eq
  rw [find?_run seeded.modules]
  refine Option.or_none.trans ((standing_insertionSort level _).trans ?_)
  rw [List.map_map, standing_map]
  exact congrArg _
    (standing_injective injective (fun seed : SeedModule host => seed.module.name) _ name)

theorem find?_moduleVersions (key : Text) : database.moduleVersions.find? key =
    (standing versionId (fileModules files) key).map moduleVersionRecord := by
  have level : ∀ left ∈ (fileModules files).map moduleVersionRecord,
      ∀ right ∈ (fileModules files).map moduleVersionRecord,
        left.id = right.id → left.id ≤ right.id := fun _ _ _ _ => le_of_eq
  rw [find?_run seeded.moduleVersions]
  exact Option.or_none.trans ((standing_insertionSort level _).trans (standing_map _ _ _ _))

theorem find?_selectionMetadata (key : Text) : database.selectionMetadata.find? key =
    (standing versionId (fileModules files) key).map fun seed =>
      selectionMetadataRecord seed.module := by
  have level : ∀ left ∈ ((fileModules files).map SeedModule.module).map selectionMetadataRecord,
      ∀ right ∈ ((fileModules files).map SeedModule.module).map selectionMetadataRecord,
        left.moduleVersionId = right.moduleVersionId → left.id ≤ right.id := by
    intro left left_mem right right_mem same
    obtain ⟨_, -, rfl⟩ := List.mem_map.mp left_mem
    obtain ⟨_, -, rfl⟩ := List.mem_map.mp right_mem
    exact le_of_eq (selectionMetadataId_eq.mpr same)
  rw [find?_run seeded.selectionMetadata]
  refine Option.or_none.trans ((standing_insertionSort level _).trans ?_)
  rw [List.map_map]
  exact standing_map _ _ _ _

theorem mem_policyBindings {row : PolicyBindingRow} : row ∈ database.policyBindings ↔
    ∃ policyName moduleName, Allows files policyName moduleName ∧
      policyRow policyName moduleName = row := by
  have rows : (fileRecords files).policyBindings =
      sortRecords (·.id) ((policyPairs files).map fun pair => policyRow pair.1 pair.2) := by
    simp only [fileRecords, policyPairs, List.map_flatMap, List.flatMap_map, List.map_map]
    rfl
  have level : ∀ left ∈ (policyPairs files).map fun pair => policyRow pair.1 pair.2,
      ∀ right ∈ (policyPairs files).map fun pair => policyRow pair.1 pair.2,
        left.id = right.id → left.id ≤ right.id := fun _ _ _ _ => le_of_eq
  have stands (key : Text) : standing PolicyBindingRow.id (fileRecords files).policyBindings key =
      (standing (fun pair => policyBindingId pair.1 pair.2) (policyPairs files) key).map
        fun pair => policyRow pair.1 pair.2 := by
    rw [rows]
    exact (standing_insertionSort level key).trans (standing_map _ _ _ _)
  rw [mem_run_iff seeded.policyBindings]
  show standing PolicyBindingRow.id _ row.id = some row ↔ _
  rw [stands, Option.map_eq_some_iff]
  constructor
  · rintro ⟨pair, found, rfl⟩
    exact ⟨pair.1, pair.2, found, rfl⟩
  · rintro ⟨policyName, moduleName, allows, rfl⟩
    exact ⟨(policyName, moduleName), allows, rfl⟩

theorem mem_dependencies {row : ModuleDependencyRow} : row ∈ database.dependencies ↔
    ∃ entry, standing referenceId (references files) (referenceId entry) = some entry ∧
      dependencyRow entry.1 entry.2 = row := by
  have rows : (fileRecords files).dependencies =
      sortRecords (·.id) ((references files).map fun entry => dependencyRow entry.1 entry.2) := by
    simp only [fileRecords, references, List.map_flatMap, List.flatMap_map, List.map_map]
    rfl
  have level : ∀ left ∈ (references files).map fun entry => dependencyRow entry.1 entry.2,
      ∀ right ∈ (references files).map fun entry => dependencyRow entry.1 entry.2,
        left.id = right.id → left.id ≤ right.id := fun _ _ _ _ => le_of_eq
  have stands (key : Text) : standing ModuleDependencyRow.id (fileRecords files).dependencies key =
      (standing referenceId (references files) key).map
        fun entry => dependencyRow entry.1 entry.2 := by
    rw [rows]
    exact (standing_insertionSort level key).trans (standing_map _ _ _ _)
  rw [mem_run_iff seeded.dependencies]
  show standing ModuleDependencyRow.id _ row.id = some row ↔ _
  rw [stands, Option.map_eq_some_iff]
  constructor
  · rintro ⟨entry, found, rfl⟩
    exact ⟨entry, found, rfl⟩
  · rintro ⟨entry, found, rfl⟩
    exact ⟨entry, found, rfl⟩

end Tables

/-- A module as the Worker reads it from its rows. -/
def loaded (kind : ModuleKind) (module : ModuleMetadata host) : RegistryModule host where
  id := moduleId module.name
  name := module.name
  kind
  moduleVersionId := moduleVersionId module.name module.version
  version := module.version
  description := module.description
  capabilityClass := module.capabilityClass
  domainTags := jsonTexts module.domainTags
  taskTypes := jsonTexts module.taskTypes
  riskLevels := jsonTexts module.riskLevels
  taskDomains := jsonTexts module.taskDomains
  requiredInputs := jsonTexts module.requiredInputs
  phrases := jsonTexts module.phrases
  negativePhrases := jsonTexts module.negativePhrases
  triggers := jsonTexts module.triggers
  inputs := jsonTexts module.inputs
  outputs := jsonTexts module.outputs
  baseScore := module.baseScore.getD host.zero
  scoreModifiers := module.scoreModifiers
  requiresAllPolicies := module.requiresAllPolicies

theorem parse_jsonArray (values : List Text) (field : Text) :
    parseStringArray (jsonArray values) field = .ok (jsonTexts values) := by
  show ((jsonTexts values).map Json.str).mapM _ = _
  rw [List.mapM_map]
  exact (mapM_ok (g := id) fun _ _ => rfl).trans (congrArg _ (List.map_id _))

theorem parse_scoreModifiers (numbers : ∀ number, host.ofJson (host.toJson number) = some number)
    (modifiers : List (ScoreModifier host)) :
    parseScoreModifiers (.arr (modifiers.map ScoreModifier.toJson)) = .ok modifiers := by
  have each (modifier : ScoreModifier host) :
      parseScoreModifier (ScoreModifier.toJson modifier) = .ok modifier := by
    have signal : (ScoreModifier.toJson modifier).get? "signal" = some (.str modifier.signal) := rfl
    have weight : (ScoreModifier.toJson modifier).get? "weight" =
      some (host.toJson modifier.weight) := rfl
    have reason : (ScoreModifier.toJson modifier).get? "reason" = some (.str modifier.reason) := rfl
    simp only [parseScoreModifier, signal, weight, reason, Option.bind_some, numbers]
  show (modifiers.map ScoreModifier.toJson).mapM parseScoreModifier = _
  rw [List.mapM_map]
  exact (mapM_ok (g := id) fun modifier _ => each modifier).trans (congrArg _ (List.map_id _))

theorem parse_rows (numbers : ∀ number, host.ofJson (host.toJson number) = some number)
    {named stored : SeedModule host} (name : stored.module.name = named.module.name) :
    parseRegistryModule (moduleRecord named.module) (moduleVersionRecord stored).toModuleVersionRow
      (selectionMetadataRecord stored.module) = .ok (loaded named.module.kind stored.module) := by
  have id : (moduleRecord named.module).id = moduleId stored.module.name := by
    rw [name]
    rfl
  have nameRow : (moduleRecord named.module).name = stored.module.name := name.symm
  simp only [parseRegistryModule, selectionMetadataRecord, parse_jsonArray,
    parse_scoreModifiers numbers, id, nameRow]
  rfl

section Loading

variable (seeded : Seeded seedHost (fileRecords files) database)

include seeded

theorem joined_iff {named : SeedModule host}
    {joined : ModuleVersionRow host × SelectionMetadataRow} :
    joinedRow database.registry (moduleRecord named.module) = some joined ↔
      ∃ stored, standing versionId (fileModules files) (versionId named) = some stored ∧
        stored.module.name = named.module.name ∧
        joined = ((moduleVersionRecord stored).toModuleVersionRow,
          selectionMetadataRecord stored.module) := by
  have versions (key : Text) : database.registry.moduleVersions.find? key =
      (standing versionId (fileModules files) key).map
        fun seed => (moduleVersionRecord seed).toModuleVersionRow := by
    have found := find?_moduleVersions seeded key
    simp only [Table.find?] at found
    show (database.moduleVersions.rows.map _).find? _ = _
    rw [List.find?_map]
    exact (congrArg _ found).trans (Option.map_map _ _ _)
  have metadata := find?_selectionMetadata seeded
  show ((database.registry.moduleVersions.find? (versionId named)).bind fun version =>
    (database.selectionMetadata.find? version.id).bind fun metadata =>
      if version.moduleId = moduleId named.module.name then some (version, metadata)
      else none) = _ ↔ _
  rw [versions]
  cases stands : standing versionId (fileModules files) (versionId named) with
  | none => simp
  | some stored =>
      have again : standing versionId (fileModules files) (versionId stored) = some stored :=
        (mem_of_standing stands).2 ▸ stands
      have described := (metadata (versionId stored)).trans (congrArg _ again)
      simp only [Option.map_some, Option.bind_some, Option.some.injEq, exists_eq_left']
      show ((database.selectionMetadata.find? (versionId stored)).bind fun metadata =>
        if moduleId stored.module.name = moduleId named.module.name then
          some ((moduleVersionRecord stored).toModuleVersionRow, metadata) else none) = _ ↔ _
      rw [described, Option.map_some, Option.bind_some, Option.ite_none_right_eq_some, moduleId_inj,
        Option.some.injEq]
      exact and_congr_right fun _ => eq_comm

theorem loadRegistryModules_iff
    (numbers : ∀ number, host.ofJson (host.toJson number) = some number) :
    ∃ modules, loadRegistryModules database.registry = .ok modules ∧
      ∀ module, module ∈ modules ↔
        ∃ kind metadata, Stands files kind metadata ∧ loaded kind metadata = module := by
  -- every row of the table comes from the last module of its name
  have rows : ∀ row ∈ database.modules, ∃ named,
      standing (·.module.name) (fileModules files) named.module.name = some named ∧
        moduleRecord named.module = row := by
    intro row there
    rcases mem_of_run seeded.modules there with before | listed
    · cases before
    · obtain ⟨seed, -, rfl⟩ := mem_modules.mp listed
      have found := find?_modules seeded seed.module.name
      have looked : database.modules.find? (moduleId seed.module.name) =
          some (moduleRecord seed.module) := Table.find?_eq_some.mpr ⟨there, rfl⟩
      rw [looked] at found
      obtain ⟨named, stands, same⟩ := Option.map_eq_some_iff.mp found.symm
      refine ⟨named, ?_, same⟩
      rw [(mem_of_standing stands).2]
      exact stands
  have entries : ∀ entry, entry ∈ (((database.registry.modules.rows.filter fun module =>
      module.status = .active).insertionSort fun left right => left.name ≤ right.name).filterMap
        fun module => (joinedRow database.registry module).map fun joined => (module, joined)) ↔
      ∃ named stored, standing (·.module.name) (fileModules files) named.module.name = some named ∧
        standing versionId (fileModules files) (versionId named) = some stored ∧
        stored.module.name = named.module.name ∧
        entry = (moduleRecord named.module, (moduleVersionRecord stored).toModuleVersionRow,
          selectionMetadataRecord stored.module) := by
    intro entry
    simp only [List.mem_filterMap, List.mem_insertionSort, List.mem_filter, Option.map_eq_some_iff]
    constructor
    · rintro ⟨row, ⟨there, -⟩, joined, found, rfl⟩
      obtain ⟨named, stands, rfl⟩ := rows row there
      obtain ⟨stored, standsStored, name, rfl⟩ := (joined_iff seeded).mp found
      exact ⟨named, stored, stands, standsStored, name, rfl⟩
    · rintro ⟨named, stored, stands, standsStored, name, rfl⟩
      have there : moduleRecord named.module ∈ database.modules :=
        (Table.find?_eq_some.mp ((find?_modules seeded named.module.name).trans
          (congrArg _ stands))).1
      exact ⟨_, ⟨there, by simp [moduleRecord]⟩, _,
        (joined_iff seeded).mpr ⟨stored, standsStored, name, rfl⟩, rfl⟩
  obtain ⟨modules, parsed, listed⟩ := mapM_exists
    (f := fun entry : RegistryRow × ModuleVersionRow host × SelectionMetadataRow =>
      parseRegistryModule entry.1 entry.2.1 entry.2.2) fun entry there => by
      obtain ⟨named, stored, -, -, name, rfl⟩ := (entries entry).mp there
      exact ⟨_, parse_rows numbers name⟩
  refine ⟨modules, parsed, fun module => ?_⟩
  rw [listed]
  constructor
  · rintro ⟨entry, there, read⟩
    obtain ⟨named, stored, stands, standsStored, name, rfl⟩ := (entries entry).mp there
    rw [parse_rows numbers name] at read
    cases read
    exact ⟨_, _, ⟨named, stored, name ▸ stands, rfl, standsStored, rfl⟩, rfl⟩
  · rintro ⟨_, _, ⟨named, stored, stands, rfl, standsStored, rfl⟩, rfl⟩
    have name : named.module.name = stored.module.name := (mem_of_standing stands).2
    exact ⟨_, (entries _).mpr ⟨named, stored, name ▸ stands, standsStored, name.symm, rfl⟩,
      parse_rows numbers name.symm⟩

end Loading

@[simp] theorem mem_jsonTexts {values : List Text} {value : Text} :
    value ∈ jsonTexts values ↔ value ∈ values := by
  simp [jsonTexts]

theorem has_jsonTexts {values : List Text} {value : Text} :
    ((jsonTexts values).map host.normalize).contains (host.normalize value) = true ↔
      Has host values value := by
  simp [Has]

theorem matchedSignals_isEmpty {kind : ModuleKind} {module : ModuleMetadata host} :
    (matchedSignals (loaded kind module) request).isEmpty = false ↔
      Has host module.taskTypes request.taskType ∨ Has host module.riskLevels request.riskLevel ∨
        (∃ tag ∈ module.domainTags ++ module.taskDomains, Has host request.domainTags tag) ∨
        (∃ input ∈ module.requiredInputs, Has host request.availableInputs input) ∨
        Has host request.capabilityHints module.capabilityClass := by
  have among (values right : List Text) (label : Text) :
      ((intersects host values right).map (label ++ ·)).isEmpty = false ↔
        ∃ value ∈ values, Has host right value := by
    simp [intersects, Has]
  have single (condition : Bool) (signal : Text) :
      (if condition = true then [signal] else []).isEmpty = false ↔ condition = true := by
    cases condition <;> simp
  have hint : (request.capabilityHints.map host.normalize).contains
      (host.normalize module.capabilityClass) = true ↔
        Has host request.capabilityHints module.capabilityClass := by
    simp [Has]
  have joined (left right : List Text) : (left ++ right).isEmpty = false ↔
      left.isEmpty = false ∨ right.isEmpty = false := by
    cases left <;> simp
  simp only [matchedSignals, joined, or_assoc, among, single]
  refine or_congr has_jsonTexts (or_congr has_jsonTexts (or_congr ?_ (or_congr ?_ hint)))
  · simp only [loaded, List.mem_append, mem_jsonTexts]
  · simp only [loaded, mem_jsonTexts]

theorem scoreModule_isSome {kind : ModuleKind} {module : ModuleMetadata host} :
    (scoreModule (loaded kind module) request).isSome = true ↔ Matches module request := by
  have taskTypes :
      (jsonTexts module.taskTypes).map host.normalize = [] ↔ module.taskTypes = [] := by
    rw [List.map_eq_nil_iff, jsonTexts, ← List.length_eq_zero_iff, List.length_insertionSort,
      List.length_eq_zero_iff]
  have inputs : includesAll host request.availableInputs (jsonTexts module.requiredInputs) = true ↔
      ∀ input ∈ module.requiredInputs, Has host request.availableInputs input := by
    simp [includesAll, Has]
  have meant : (!((jsonTexts module.taskTypes).map host.normalize).isEmpty &&
      !((jsonTexts module.taskTypes).map host.normalize).contains
        (host.normalize request.taskType)) =
        true ↔ ¬ (module.taskTypes = [] ∨ Has host module.taskTypes request.taskType) := by
    rw [← has_jsonTexts, Bool.and_eq_true, Bool.not_eq_true', Bool.not_eq_true',
      List.isEmpty_eq_false_iff, ne_eq, taskTypes, not_or, Bool.not_eq_true]
  unfold scoreModule
  dsimp only
  split
  · rename_i other
    exact iff_of_false (by simp) fun fits => meant.mp other fits.taskType
  · rename_i fitting
    have taskType := not_not.mp (mt meant.mpr fitting)
    split
    · rename_i lacking
      refine iff_of_false (by simp) fun fits => ?_
      rw [Bool.not_eq_true', ← Bool.not_eq_true] at lacking
      exact lacking (inputs.mpr fits.inputs)
    · rename_i supplied
      rw [Bool.not_eq_true', Bool.not_eq_false] at supplied
      split
      · rename_i silent
        refine iff_of_false (by simp) fun fits => ?_
        rw [matchedSignals_isEmpty.mpr fits.signal] at silent
        cases silent
      · rename_i signal
        exact iff_of_true rfl ⟨taskType, inputs.mp supplied,
          matchedSignals_isEmpty.mp (Bool.not_eq_true _ ▸ signal)⟩

theorem scored_module {module : RegistryModule host} {scored : ScoredModule host}
    (found : scoreModule module request = some scored) : scored.module = module := by
  unfold scoreModule at found
  dsimp only at found
  split at found
  · cases found
  · split at found
    · cases found
    · split at found
      · cases found
      · cases found
        rfl

section Decisions

variable (seeded : Seeded seedHost (fileRecords files) database)

include seeded

theorem mem_allowedPolicyIds {kind : ModuleKind} {module : ModuleMetadata host} {policyId : Text} :
    policyId ∈ allowedPolicyIds (loaded kind module) (loadPolicyBindings database.registry) ↔
      ∃ policyName, Allows files policyName module.name ∧ moduleId policyName = policyId := by
  have rows (row : PolicyBindingRow) : row ∈ loadPolicyBindings database.registry ↔
      ∃ policyName moduleName, Allows files policyName moduleName ∧
        policyRow policyName moduleName = row := by
    rw [← mem_policyBindings seeded, loadPolicyBindings, List.mem_insertionSort]
    rfl
  simp only [allowedPolicyIds, List.mem_map, List.mem_filter, rows, Bool.and_eq_true,
    decide_eq_true_eq]
  constructor
  · rintro ⟨row, ⟨⟨policyName, moduleName, allows, rfl⟩, ⟨-, target⟩, -⟩, rfl⟩
    have name : moduleName = module.name := moduleId_inj.mp target
    exact ⟨policyName, name ▸ allows, rfl⟩
  · rintro ⟨policyName, allows, rfl⟩
    exact ⟨_, ⟨⟨policyName, _, allows, rfl⟩, ⟨rfl, rfl⟩, rfl⟩, rfl⟩

theorem mem_dependenciesOf {row : ModuleDependencyRow} {key : Text} :
    row ∈ dependenciesOf database.registry key ↔ row.moduleVersionId = key ∧
      ∃ entry, standing referenceId (references files) (referenceId entry) = some entry ∧
        dependencyRow entry.1 entry.2 = row := by
  rw [dependenciesOf, dependenciesByVersionId, loadDependencies, List.mem_filter,
    List.mem_insertionSort, decide_eq_true_eq, ← mem_dependencies seeded, and_comm]
  rfl

theorem not_denied (module : RegistryModule host) :
    (loadPolicyBindings database.registry).find? (fun binding => binding.targetKind = .module &&
      binding.targetId = module.id && binding.effect = .deny) = none := by
  rw [List.find?_eq_none]
  intro row listed denied
  rw [loadPolicyBindings, List.mem_insertionSort] at listed
  obtain ⟨policyName, moduleName, -, rfl⟩ := (mem_policyBindings seeded).mp listed
  simp [policyRow] at denied

theorem decisionOn_allow {kind : ModuleKind} {module : ModuleMetadata host} :
    (decisionOn database.registry (loaded kind module)).effect = .allow ↔
      Permitted files kind module := by
  have allowed (policyName : Text) : moduleId policyName ∈
      allowedPolicyIds (loaded kind module) (loadPolicyBindings database.registry) ↔
        Allows files policyName module.name := by
    rw [mem_allowedPolicyIds seeded]
    simp
  have some_allowed : (allowedPolicyIds (loaded kind module)
      (loadPolicyBindings database.registry)).isEmpty = false ↔
        ∃ policyName, Allows files policyName module.name := by
    rw [List.isEmpty_eq_false_iff_exists_mem]
    simp [mem_allowedPolicyIds seeded]
  have missing : ((((dependenciesOf database.registry (loaded kind module).moduleVersionId).filter
      fun dependency => dependency.dependencyKind = .policy && dependency.isRequired).map
        ModuleDependencyRow.dependencyId).filter fun policyId =>
          !(allowedPolicyIds (loaded kind module) (loadPolicyBindings database.registry)).contains
            policyId).isEmpty = true ↔
      ∀ policyName, Requires files module policyName → Allows files policyName module.name := by
    rw [List.isEmpty_iff, List.filter_eq_nil_iff]
    simp only [List.mem_map, List.mem_filter, mem_dependenciesOf seeded, Bool.and_eq_true,
      decide_eq_true_eq, Bool.not_eq_true', Bool.not_eq_false, List.contains_iff_mem]
    constructor
    · rintro all policyName ⟨entry, stands, version, field, rfl⟩
      refine (allowed _).mp (all _ ⟨_, ⟨⟨version, entry, stands, rfl⟩, ?_, ?_⟩, rfl⟩)
      · simp only [dependencyRow, field]
        rfl
      · simp only [dependencyRow, field]
        rfl
    · rintro all policyId ⟨row, ⟨⟨version, entry, stands, rfl⟩, policy, required⟩, rfl⟩
      refine (allowed _).mpr (all _ ⟨entry, stands, version, ?_, rfl⟩)
      revert policy
      simp only [dependencyRow]
      cases entry.2.field <;> decide
  unfold decisionOn policyDecisionForModule
  dsimp only
  rw [not_denied seeded]
  dsimp only
  split
  · rename_i unallowed
    rw [Bool.and_eq_true, decide_eq_true_eq] at unallowed
    refine iff_of_false (by simp) fun permitted => ?_
    rw [some_allowed.mpr (permitted.tool unallowed.1)] at unallowed
    cases unallowed.2
  · rename_i tool
    have tool : kind = .tool → ∃ policyName, Allows files policyName module.name := by
      intro isTool
      rw [← some_allowed, ← Bool.not_eq_true]
      intro none
      exact tool (Bool.and_eq_true _ _ ▸ ⟨decide_eq_true isTool, none⟩)
    split
    · rename_i lacking
      rw [Bool.and_eq_true, Bool.not_eq_true'] at lacking
      refine iff_of_false (by simp) fun permitted => ?_
      rw [missing.mpr (permitted.all lacking.1)] at lacking
      cases lacking.2
    · rename_i complete
      refine iff_of_true rfl ⟨tool, fun all => missing.mp ?_⟩
      rw [← Bool.not_eq_false]
      intro some
      exact complete (Bool.and_eq_true _ _ ▸ ⟨all, Bool.not_eq_true' _ ▸ some⟩)

end Decisions

theorem setReference_sub {references : List (ModuleReference host)}
    {reference member : ModuleReference host} (found : member ∈ setReference references reference) :
    member ∈ references ∨ member = reference := by
  unfold setReference at found
  split at found
  · simpa using found
  · split at found
    · obtain ⟨old, there, rfl⟩ := List.mem_map.mp found
      split
      · exact .inr rfl
      · exact .inl there
    · exact .inl found

theorem setReference_ids {references : List (ModuleReference host)}
    {reference : ModuleReference host}
    {id : Text} (had : id = reference.module.id ∨ ∃ member ∈ references, member.module.id = id) :
    ∃ member ∈ setReference references reference, member.module.id = id := by
  unfold setReference
  split
  · rcases had with rfl | ⟨member, there, rfl⟩
    · exact ⟨reference, by simp, rfl⟩
    · exact ⟨member, List.mem_append_left _ there, rfl⟩
  · rename_i existing found
    have there := List.mem_of_find?_eq_some found
    have same : existing.module.id = reference.module.id := by simpa using List.find?_some found
    obtain ⟨member, member_mem, rfl⟩ : ∃ member ∈ references, member.module.id = id := by
      rcases had with rfl | had
      · exact ⟨existing, there, same⟩
      · exact had
    split
    · refine ⟨_, List.mem_map_of_mem member_mem, ?_⟩
      split
      · exact Eq.symm ‹_›
      · rfl
    · exact ⟨member, member_mem, rfl⟩

variable {member : ModuleReference host}

theorem mem_of_foldl_setReference {list references : List (ModuleReference host)}
    (found : member ∈ list.foldl setReference references) :
    member ∈ references ∨ member ∈ list := by
  induction list generalizing references with
  | nil => exact .inl found
  | cons reference rest ih =>
      rcases ih found with before | later
      · rcases setReference_sub before with old | rfl
        · exact .inl old
        · exact .inr List.mem_cons_self
      · exact .inr (List.mem_cons_of_mem _ later)

theorem foldl_setReference_ids {list references : List (ModuleReference host)} {id : Text}
    (had : ∃ member, (member ∈ references ∨ member ∈ list) ∧ member.module.id = id) :
    ∃ member ∈ list.foldl setReference references, member.module.id = id := by
  induction list generalizing references with
  | nil =>
      obtain ⟨member, there | none, same⟩ := had
      · exact ⟨member, there, same⟩
      · cases none
  | cons reference rest ih =>
      obtain ⟨member, there, rfl⟩ := had
      apply ih
      by_cases later : member ∈ rest
      · exact ⟨member, .inr later, rfl⟩
      · have known : member.module.id = reference.module.id ∨
            ∃ other ∈ references, other.module.id = member.module.id := by
          rcases there with there | listed
          · exact .inr ⟨member, there, rfl⟩
          · rcases List.mem_cons.mp listed with rfl | listed
            · exact .inl rfl
            · exact absurd listed later
        obtain ⟨other, found, same⟩ := setReference_ids known
        exact ⟨other, .inl found, same⟩

theorem mem_of_dedupeReferences {list : List (ModuleReference host)}
    (found : member ∈ dedupeReferences list) : member ∈ list := by
  rw [dedupeReferences, List.mem_insertionSort] at found
  rcases mem_of_foldl_setReference found with none | listed
  · cases none
  · exact listed

theorem dedupeReferences_ids {list : List (ModuleReference host)}
    (listed : member ∈ list) :
    ∃ other ∈ dedupeReferences list, other.module.id = member.module.id := by
  obtain ⟨other, found, same⟩ := @foldl_setReference_ids _ list [] _
    ⟨member, .inr listed, rfl⟩
  exact ⟨other, by rwa [dedupeReferences, List.mem_insertionSort], same⟩

theorem mem_allowedCandidates {registry : Registry host} {modules : List (RegistryModule host)}
    (unique : ∀ left ∈ modules, ∀ right ∈ modules, left.id = right.id → left = right)
    {scored : ScoredModule host} : scored ∈ allowedCandidates registry modules request ↔
      scored ∈ candidateScores modules request ∧
        (decisionOn registry scored.module).effect = .allow := by
  have identity (module : RegistryModule host) :
      (decisionOn registry module).module.id = module.id := by
    unfold decisionOn policyDecisionForModule
    dsimp only
    split
    · rfl
    · split
      · rfl
      · split <;> rfl
  have listed {scored : ScoredModule host} (candidate : scored ∈ candidateScores modules request) :
      scored.module ∈ modules := by
    obtain ⟨module, there, found⟩ := List.mem_filterMap.mp (List.mem_filter.mp candidate).1
    rw [scored_module found]
    exact there
  simp only [allowedCandidates, List.mem_filter (p := fun scored : ScoredModule host => _),
    List.contains_iff_mem, List.mem_map, List.mem_filter, decide_eq_true_eq]
  refine and_congr_right fun candidate => ?_
  constructor
  · rintro ⟨decision, ⟨⟨other, otherCandidate, rfl⟩, allow⟩, same⟩
    rw [identity] at same
    rw [← unique _ (listed otherCandidate) _ (listed candidate) same]
    exact allow
  · intro allow
    exact ⟨_, ⟨⟨scored, candidate, rfl⟩, allow⟩, identity _⟩

theorem loaded_unique {kind otherKind : ModuleKind} {module other : ModuleMetadata host}
    (stands : Stands files kind module) (otherStands : Stands files otherKind other)
    (same : module.name = other.name) : loaded kind module = loaded otherKind other := by
  obtain ⟨named, stored, last, rfl, current, rfl⟩ := stands
  obtain ⟨otherNamed, otherStored, otherLast, rfl, otherCurrent, rfl⟩ := otherStands
  rw [same, otherLast] at last
  cases last
  rw [otherCurrent] at current
  cases current
  rfl

theorem mem_candidateModules (seeded : Seeded seedHost (fileRecords files) database)
    (numbers : ∀ number, host.ofJson (host.toJson number) = some number)
    {registryVersion : Text} {tenantAuthority : Except Text (Option Json)}
    {response : CompositionContextResponse host}
    (answered :
      compositionContextResponse database.registry registryVersion tenantAuthority request =
      .ok response) {identity : ModuleIdentity} :
    (∃ reference ∈ response.candidateModules, reference.module = identity) ↔
      ∃ kind module, Stands files kind module ∧ kind.isCandidate = true ∧ Matches module request ∧
        Permitted files kind module ∧ (loaded kind module).identity = identity := by
  obtain ⟨modules, read, listed⟩ := loadRegistryModules_iff seeded numbers
  rw [compositionContextResponse, read] at answered
  cases answered
  have unique : ∀ left ∈ modules, ∀ right ∈ modules, left.id = right.id → left = right := by
    intro left left_mem right right_mem same
    obtain ⟨_, _, stands, rfl⟩ := (listed left).mp left_mem
    obtain ⟨_, _, otherStands, rfl⟩ := (listed right).mp right_mem
    exact loaded_unique stands otherStands (moduleId_inj.mp same)
  have allowed (scored : ScoredModule host) :
      scored ∈ allowedCandidates database.registry modules request ↔
        ∃ kind module, Stands files kind module ∧ kind.isCandidate = true ∧
          Permitted files kind module ∧ scored.module = loaded kind module ∧
          scoreModule (loaded kind module) request = some scored := by
    rw [mem_allowedCandidates unique, candidateScores, List.mem_filter, List.mem_filterMap]
    constructor
    · rintro ⟨⟨⟨module, there, found⟩, candidate⟩, allow⟩
      obtain ⟨kind, metadata, stands, rfl⟩ := (listed module).mp there
      have scoredModule := scored_module found
      rw [scoredModule] at candidate allow
      exact ⟨kind, metadata, stands, candidate, (decisionOn_allow seeded).mp allow, scoredModule,
        found⟩
    · rintro ⟨kind, metadata, stands, candidate, permitted, same, found⟩
      rw [same]
      exact ⟨⟨⟨_, (listed _).mpr ⟨kind, metadata, stands, rfl⟩, found⟩, candidate⟩,
        (decisionOn_allow seeded).mpr permitted⟩
  simp only [answerFrom]
  constructor
  · rintro ⟨reference, found, rfl⟩
    obtain ⟨scored, there, rfl⟩ := List.mem_map.mp (mem_of_dedupeReferences found)
    obtain ⟨kind, metadata, stands, candidate, permitted, same, score⟩ := (allowed scored).mp there
    exact ⟨kind, metadata, stands, candidate, scoreModule_isSome.mp (by rw [score]; rfl),
      permitted, by rw [← same]⟩
  · rintro ⟨kind, metadata, stands, candidate, fits, permitted, rfl⟩
    obtain ⟨scored, score⟩ := Option.isSome_iff_exists.mp (scoreModule_isSome.mpr fits)
    have there := (allowed scored).mpr
      ⟨kind, metadata, stands, candidate, permitted, scored_module score, score⟩
    obtain ⟨reference, found, id⟩ := dedupeReferences_ids (List.mem_map_of_mem
      (f := fun scored => (⟨scored.module.identity, scored.score, scored.reason⟩ :
        ModuleReference host)) there)
    obtain ⟨other, otherThere, rfl⟩ := List.mem_map.mp (mem_of_dedupeReferences found)
    obtain ⟨_, _, otherStands, -, -, same, -⟩ := (allowed other).mp otherThere
    refine ⟨_, found, ?_⟩
    have ids : other.module.id = scored.module.id := id
    rw [scored_module score, same] at ids
    show other.module.identity = _
    rw [same, loaded_unique otherStands stands (moduleId_inj.mp ids)]

/-- Dependency-only modules are never selected directly, exactly when the seed of the files fails or
no dependency-only file is one the Worker selects for the request. -/
theorem never_selected_iff (numbers : ∀ number, host.ofJson (host.toJson number) = some number) :
    (NeverDiscovered files ∧ NeverCandidate seedHost files request) ↔
      ¬ (Seedable seedHost files ∧ ∃ file ∈ files, file.module.mode = .dependencyOnly ∧
        ∃ module, Selectable files request file module) := by
  constructor
  · rintro ⟨-, never⟩ ⟨seedable, file, filed, mode, module, selectable⟩
    obtain ⟨database, seeded⟩ := seedable.seeded
    have applied : seed seedHost files [] = some database := by
      rw [seed, buildSeedRecords_files]
      exact applySeed_eq_some.mpr seeded
    obtain ⟨modules, read, -⟩ := loadRegistryModules_iff seeded numbers
    have answered : compositionContextResponse database.registry [] (.ok none) request =
        .ok (answerFrom database.registry modules [] (.ok none) request) := by
      rw [compositionContextResponse, read]
      rfl
    obtain ⟨reference, found, same⟩ := (mem_candidateModules seeded numbers answered).mpr
      ⟨_, module, selectable.stands, selectable.candidate, selectable.fits,
        selectable.permitted, rfl⟩
    refine never _ _ _ _ applied answered reference found file filed mode ?_
    rw [same]
    exact ⟨selectable.name, rfl, selectable.version⟩
  · intro unselectable
    constructor
    · intro toInt registry query _ module found mode
      simp [InMemoryModuleRegistry.discover, InMemoryModuleRegistry.matchesQuery, mode] at found
    · intro database registryVersion tenantAuthority response applied answered reference found file
        filed mode names
      rw [seed, buildSeedRecords_files] at applied
      have seeded := applySeed_eq_some.mp applied
      obtain ⟨kind, module, stands, candidate, fits, permitted, same⟩ :=
        (mem_candidateModules seeded numbers answered).mp ⟨reference, found, rfl⟩
      rw [← same] at names
      obtain ⟨name, rfl, version⟩ := names
      exact unselectable ⟨seedable_of_seeded seeded, file, filed, mode, module, candidate, name,
        version, stands, fits, permitted⟩

/-- A skill that other modules may depend on, for tasks of low risk. -/
def helperFile : ModuleFile plainHost where
  path := "helper.json"
  repoPath := "helper.json"
  digest := "d1"
  module :=
    { name := "helper"
      version := "0.1.0"
      kind := .skill
      description := "A helper."
      capabilityClass := "analysis"
      riskLevels := ["low"]
      mode := .dependencyOnly }

/-- A research task of the given risk. -/
def researchRequest (riskLevel : Text) : CompositionRequest where
  principal := ⟨.role, "repository-maintainer"⟩
  taskType := "research"
  objective := "Find the price."
  riskLevel
  domainTags := []
  capabilityHints := []
  availableInputs := []
  constraints := []

theorem helper_not_selected : NeverDiscovered [helperFile] ∧
    NeverCandidate plainSeedHost [helperFile] (researchRequest "high") := by
  refine (never_selected_iff fun _ => rfl).mpr ?_
  rintro ⟨-, file, listed, -, module, selectable⟩
  cases List.mem_singleton.mp listed
  obtain ⟨named, stored, -, -, stands, rfl⟩ := selectable.stands
  cases (List.mem_singleton.mp (mem_of_standing stands).1 : stored = loadModule helperFile)
  rcases selectable.fits.signal with typed | risky | ⟨tag, tagged, -⟩ | ⟨input, needed, -⟩ | hinted
  · cases typed
  · exact absurd risky (by unfold Has; decide)
  · cases tagged
  · cases needed
  · cases hinted

/-- A task of low risk gets the dependency-only skill as a candidate. -/
theorem helper_selected :
    ¬ NeverCandidate plainSeedHost [helperFile] (researchRequest "low") := by
  intro never
  have seedable : Seedable plainSeedHost [helperFile] := by
    constructor
    · intro file listed
      obtain rfl := List.mem_singleton.mp listed
      exact ⟨by decide, by decide, by decide, by decide, nofun⟩
    · rintro reference ⟨file, listed, refers⟩
      obtain rfl := List.mem_singleton.mp listed
      cases refers
  obtain ⟨database, seeded⟩ := seedable.seeded
  have applied : seed plainSeedHost [helperFile] [] = some database := by
    rw [seed, buildSeedRecords_files]
    exact applySeed_eq_some.mpr seeded
  have numbers : ∀ number, plainHost.ofJson (plainHost.toJson number) = some number := fun _ => rfl
  obtain ⟨modules, read, -⟩ := loadRegistryModules_iff seeded numbers
  have answered :
      compositionContextResponse database.registry [] (.ok none) (researchRequest "low") =
      .ok (answerFrom database.registry modules [] (.ok none) (researchRequest "low")) := by
    rw [compositionContextResponse, read]
    rfl
  have stands : Stands [helperFile] .skill (normalizeModule helperFile.module) :=
    ⟨loadModule helperFile, loadModule helperFile, rfl, rfl, rfl, rfl⟩
  have risk : Has plainHost helperFile.module.riskLevels "low" := List.mem_cons_self
  obtain ⟨reference, found, same⟩ := (mem_candidateModules seeded numbers answered).mpr
    ⟨_, _, stands, rfl, ⟨.inl rfl, nofun, .inr (.inl risk)⟩, ⟨nofun, nofun⟩, rfl⟩
  refine never _ _ _ _ applied answered reference found helperFile List.mem_cons_self rfl ?_
  rw [same]
  exact ⟨rfl, rfl, rfl⟩

end SkillCentric.DirectSelection
