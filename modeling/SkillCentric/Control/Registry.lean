import SkillCentric.Control.Retrieval

/-!
# The module registry

The tables a composition request is answered from, and how the Worker loads them.  Metadata columns
hold JSON (the tables check that they do); a column of another shape makes the load fail.  Numbers,
lower-casing and collation are those of the host language, which are parameters.
-/

namespace SkillCentric.Control

open SkillCentric

/-- What the host language does with numbers and texts. -/
structure Host where
  /-- Double-precision numbers. -/
  Number : Type
  add : Number → Number → Number
  /-- `left < right`. -/
  less : Number → Number → Bool
  zero : Number
  /-- `Math.round(Math.max(0, Math.min(1, score)) * 10000) / 10000`. -/
  clamp : Number → Number
  /-- The value of a number in JSON. -/
  ofJson : Json → Option Number
  toJson : Number → Json
  /-- `value.trim().toLowerCase()`. -/
  normalize : Text → Text
  /-- `left.localeCompare(right)`. -/
  localeCompare : Text → Text → Ordering
  /-- `texts.sort()`. -/
  sort : List Text → List Text

inductive PolicyTargetKind where
  | module
  | knowledgeSource
  | knowledgeDocument
  | memoryRecord
  | scope
  deriving DecidableEq, Repr

/-- `modules`. -/
structure RegistryRow where
  id : Text
  name : Text
  kind : ModuleKind
  status : RecordStatus
  currentVersionId : Text

/-- `module_versions`. -/
structure ModuleVersionRow (host : Host) where
  id : Text
  moduleId : Text
  version : Text
  selectionBaseScore : host.Number

/-- `module_selection_metadata`. -/
structure SelectionMetadataRow where
  id : Text
  moduleVersionId : Text
  description : Text
  capabilityClass : Text
  domainTagsJson : Json
  taskTypesJson : Json
  riskLevelsJson : Json
  taskDomainsJson : Json
  requiredInputsJson : Json
  phrasesJson : Json
  negativePhrasesJson : Json
  triggersJson : Json
  inputsJson : Json
  outputsJson : Json
  scoreModifiersJson : Json
  requiresAllPolicies : Bool

/-- `module_dependencies`. -/
structure ModuleDependencyRow where
  id : Text
  moduleVersionId : Text
  dependencyKind : ModuleKind
  dependencyId : Text
  isRequired : Bool

/-- `policy_bindings`. -/
structure PolicyBindingRow where
  id : Text
  policyId : Text
  targetKind : PolicyTargetKind
  targetId : Text
  effect : Effect
  priority : Nat

instance : Keyed RegistryRow Text := ⟨RegistryRow.id⟩
instance {host : Host} : Keyed (ModuleVersionRow host) Text := ⟨ModuleVersionRow.id⟩
instance : Keyed ModuleDependencyRow Text := ⟨ModuleDependencyRow.id⟩
instance : Keyed PolicyBindingRow Text := ⟨PolicyBindingRow.id⟩

/-- `module_version_id` is unique besides the primary key. -/
instance : Keyed SelectionMetadataRow Text := ⟨SelectionMetadataRow.moduleVersionId⟩

/-- The part of the control database that composition reads. -/
structure Registry (host : Host) where
  modules : Table RegistryRow := .empty
  moduleVersions : Table (ModuleVersionRow host) := .empty
  selectionMetadata : Table SelectionMetadataRow := .empty
  dependencies : Table ModuleDependencyRow := .empty
  policyBindings : Table PolicyBindingRow := .empty
  scopeBindings : Table ScopeBindingRow := .empty

/-- `ScoreModifier`. -/
structure ScoreModifier (host : Host) where
  signal : Text
  weight : host.Number
  reason : Text

/-- `RegistryModule`. -/
structure RegistryModule (host : Host) where
  id : Text
  name : Text
  kind : ModuleKind
  moduleVersionId : Text
  version : Text
  description : Text
  capabilityClass : Text
  domainTags : List Text
  taskTypes : List Text
  riskLevels : List Text
  taskDomains : List Text
  requiredInputs : List Text
  phrases : List Text
  negativePhrases : List Text
  triggers : List Text
  inputs : List Text
  outputs : List Text
  baseScore : host.Number
  scoreModifiers : List (ScoreModifier host)
  requiresAllPolicies : Bool

variable {host : Host}

/-- `parseStringArray`. -/
def parseStringArray (value : Json) (field : Text) : Except Text (List Text) :=
  match value with
  | .arr items =>
      items.mapM fun item => match item with
        | .str text => .ok text
        | _ => .error (("Invalid registry metadata array: " : Text) ++ field)
  | _ => .error (("Invalid registry metadata array: " : Text) ++ field)

/-- One item of `parseScoreModifiers`. -/
def parseScoreModifier (item : Json) : Except Text (ScoreModifier host) :=
  match item.get? "signal", (item.get? "weight").bind host.ofJson, item.get? "reason" with
  | some (.str signal), some weight, some (.str reason) => .ok ⟨signal, weight, reason⟩
  | _, _, _ => .error "Invalid score modifier metadata."

/-- `parseScoreModifiers`. -/
def parseScoreModifiers (value : Json) : Except Text (List (ScoreModifier host)) :=
  match value with
  | .arr items => items.mapM parseScoreModifier
  | _ => .error "Invalid registry metadata array: score_modifiers"

/-- `parseRegistryModule` on a joined row. -/
def parseRegistryModule (module : RegistryRow) (version : ModuleVersionRow host)
    (metadata : SelectionMetadataRow) : Except Text (RegistryModule host) := do
  return {
    id := module.id
    name := module.name
    kind := module.kind
    moduleVersionId := version.id
    version := version.version
    description := metadata.description
    capabilityClass := metadata.capabilityClass
    domainTags := ← parseStringArray metadata.domainTagsJson "domain_tags"
    taskTypes := ← parseStringArray metadata.taskTypesJson "task_types"
    riskLevels := ← parseStringArray metadata.riskLevelsJson "risk_levels"
    taskDomains := ← parseStringArray metadata.taskDomainsJson "task_domains"
    requiredInputs := ← parseStringArray metadata.requiredInputsJson "required_inputs"
    phrases := ← parseStringArray metadata.phrasesJson "phrases"
    negativePhrases := ← parseStringArray metadata.negativePhrasesJson "negative_phrases"
    triggers := ← parseStringArray metadata.triggersJson "triggers"
    inputs := ← parseStringArray metadata.inputsJson "inputs"
    outputs := ← parseStringArray metadata.outputsJson "outputs"
    baseScore := version.selectionBaseScore
    scoreModifiers := ← parseScoreModifiers metadata.scoreModifiersJson
    requiresAllPolicies := metadata.requiresAllPolicies }

/-- The joined row of an active module, if its current version and metadata are there. -/
def joinedRow (registry : Registry host) (module : RegistryRow) :
    Option (ModuleVersionRow host × SelectionMetadataRow) := do
  let version ← registry.moduleVersions.find? module.currentVersionId
  let metadata ← registry.selectionMetadata.find? version.id
  if version.moduleId = module.id then some (version, metadata) else none

/-- `loadRegistryModules`. -/
def loadRegistryModules (registry : Registry host) : Except Text (List (RegistryModule host)) :=
  let active := (registry.modules.rows.filter fun module => module.status = .active).insertionSort
    fun left right => left.name ≤ right.name
  (active.filterMap fun module => (joinedRow registry module).map fun joined =>
    (module, joined)).mapM fun (module, version, metadata) =>
      parseRegistryModule module version metadata

/-- `loadDependencies`. -/
def loadDependencies (registry : Registry host) : List ModuleDependencyRow :=
  registry.dependencies.rows.insertionSort fun left right =>
    inOrder ModuleDependencyRow.moduleVersionId ModuleDependencyRow.dependencyId left right

/-- `dependenciesByVersionId(dependencies).get(moduleVersionId) ?? []`. -/
def dependenciesByVersionId (dependencies : List ModuleDependencyRow) (moduleVersionId : Text) :
    List ModuleDependencyRow :=
  dependencies.filter fun dependency => dependency.moduleVersionId = moduleVersionId

/-- The dependencies of a module version in the registry. -/
def dependenciesOf (registry : Registry host) (moduleVersionId : Text) : List ModuleDependencyRow :=
  dependenciesByVersionId (loadDependencies registry) moduleVersionId

/-- `loadPolicyBindings`. -/
def loadPolicyBindings (registry : Registry host) : List PolicyBindingRow :=
  registry.policyBindings.rows.insertionSort fun left right => right.priority ≤ left.priority

/-- `loadScopeBindings` of the registry. -/
def scopeBindingsFor (registry : Registry host) (principal : Principal) : List ScopeBinding :=
  loadScopeBindings { scopeBindings := registry.scopeBindings } principal

end SkillCentric.Control
