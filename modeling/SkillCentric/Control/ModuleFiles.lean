import SkillCentric.Control.Registry
import SkillCentric.Library.DepthFirst

/-!
# Module files

The module files of the repository and `InMemoryModuleRegistry`, which is built from them.
-/

namespace SkillCentric.Control

open SkillCentric

/-- `selection.mode`. -/
inductive SelectionMode where
  | direct
  | dependencyOnly
  deriving DecidableEq, Repr

/-- The fields of a module that name other modules. -/
inductive ReferenceField where
  | requiredTools
  | optionalTools
  | knowledgeScopes
  | dataScopes
  | policies
  | validators
  deriving DecidableEq, Repr

namespace ReferenceField

/-- `MODULE_REFERENCE_KINDS`, and `REFERENCE_FIELDS` of the seed, in order. -/
def all : List ReferenceField :=
  [.requiredTools, .optionalTools, .knowledgeScopes, .dataScopes, .policies, .validators]

/-- The name of the field. -/
def text : ReferenceField → Text
  | .requiredTools => "required_tools"
  | .optionalTools => "optional_tools"
  | .knowledgeScopes => "knowledge_scopes"
  | .dataScopes => "data_scopes"
  | .policies => "policies"
  | .validators => "validators"

/-- The kind of the modules it names. -/
def kind : ReferenceField → ModuleKind
  | .requiredTools | .optionalTools => .tool
  | .knowledgeScopes => .knowledgeScope
  | .dataScopes => .dataScope
  | .policies => .policy
  | .validators => .validator

theorem mem_all (field : ReferenceField) : field ∈ all := by cases field <;> decide

end ReferenceField

/-- `ModuleMetadata`: a module as the registry and the seed read it. -/
structure ModuleMetadata (host : Host) where
  name : Text
  version : Text
  kind : ModuleKind
  description : Text
  capabilityClass : Text
  domainTags : List Text := []
  taskTypes : List Text := []
  riskLevels : List Text := []
  taskDomains : List Text := []
  requiredInputs : List Text := []
  phrases : List Text := []
  negativePhrases : List Text := []
  triggers : List Text := []
  inputs : List Text := []
  outputs : List Text := []
  references : ReferenceField → List Text := fun _ => []
  mode : SelectionMode
  baseScore : Option host.Number := none
  scoreModifiers : List (ScoreModifier host) := []
  requiresAllPolicies : Bool := false

/-- A module file. -/
structure ModuleFile (host : Host) where
  path : Text
  /-- `_repo_relative_path(path)`. -/
  repoPath : Text
  digest : Text
  module : ModuleMetadata host

variable {host : Host}

/-- A reference of a module: the field and the name in it. -/
@[ext]
structure FileReference where
  sourceName : Text
  field : ReferenceField
  targetName : Text
  deriving DecidableEq

/-- `references`. -/
def ModuleMetadata.allReferences (module : ModuleMetadata host) : List FileReference :=
  ReferenceField.all.flatMap fun field =>
    (module.references field).map fun targetName => ⟨module.name, field, targetName⟩

/-- A host that counts scores in hundredths and compares texts by code points. -/
def plainHost : Host where
  Number := Int
  add := (· + ·)
  less left right := left < right
  zero := 0
  clamp score := max 0 (min 100 score)
  ofJson
    | .int score => some score
    | _ => none
  toJson := .int
  normalize := Slug.casefold
  localeCompare left right := if left < right then .lt else if left = right then .eq else .gt
  sort texts := texts.insertionSort (· ≤ ·)

inductive RegistryError where
  | duplicateModule (message : Text)
  | unknownModule (message : Text)
  /-- A version that `_semver_key` does not parse. -/
  | valueError
  deriving DecidableEq

/-- `_semver_key`; `toInt` is `int` on texts. -/
def semverKey (toInt : Text → Option Int) (version : Text) : Option (Int ×ₗ Int ×ₗ Int) :=
  match version.splitOn '.' with
  | [major, minor, patch] => do
      return toLex (← toInt major, toLex (← toInt minor, ← toInt patch))
  | _ => none

/-- `int` on digits. -/
def plainInt (text : Text) : Option Int :=
  if isNumber text then some (text.foldl (fun value c => 10 * value + (c.toNat - 48)) 0) else none

/-- The version of the left module is not above that of the right one. -/
def notAbove (toInt : Text → Option Int) (left right : ModuleMetadata host) : Bool :=
  match semverKey toInt left.version, semverKey toInt right.version with
  | some lower, some upper => lower ≤ upper
  | _, _ => true

/-- `InMemoryModuleRegistry`: the modules in the order they were given, and the versions of a name,
highest first. -/
structure InMemoryModuleRegistry (host : Host) where
  modules : List (ModuleMetadata host)
  byName : Text → List (ModuleMetadata host)

namespace InMemoryModuleRegistry

/-- The first module that repeats the name and version of one before it. -/
def duplicate? :
    List (ModuleMetadata host) → List (ModuleMetadata host) → Option (ModuleMetadata host)
  | _, [] => none
  | seen, module :: rest =>
      if seen.any fun other => other.name = module.name && other.version = module.version then
        some module
      else duplicate? (seen ++ [module]) rest

/-- The versions of a name, highest first. -/
def versionsOf (toInt : Text → Option Int) (modules : List (ModuleMetadata host)) (name : Text) :
    List (ModuleMetadata host) :=
  (modules.filter fun module => module.name = name).insertionSort fun left right =>
    notAbove toInt right left

/-- `InMemoryModuleRegistry(modules)`. -/
def create (toInt : Text → Option Int) (modules : List (ModuleMetadata host)) :
    Except RegistryError (InMemoryModuleRegistry host) :=
  match duplicate? [] modules with
  | some module => .error (.duplicateModule (("Duplicate module version: " : Text) ++ module.name ++
      '@' :: module.version))
  | none =>
      if modules.all fun module => (semverKey toInt module.version).isSome then
        .ok ⟨modules, versionsOf toInt modules⟩
      else .error .valueError

/-- `from_paths`. -/
def fromPaths (toInt : Text → Option Int) (files : List (ModuleFile host)) :
    Except RegistryError (InMemoryModuleRegistry host) := create toInt (files.map ModuleFile.module)

variable (registry : InMemoryModuleRegistry host)

/-- `name in self._by_name`. -/
def knows (name : Text) : Bool := !(registry.byName name).isEmpty

/-- `resolve(name)`. -/
def resolve (name : Text) : Except RegistryError (ModuleMetadata host) :=
  match registry.byName name with
  | [] => .error (.unknownModule (("Unknown module: " : Text) ++ name))
  | module :: _ => .ok module

/-- `RegistryQuery`. -/
structure RegistryQuery where
  kinds : List ModuleKind := []
  capabilityClasses : List Text := []
  domains : List Text := []
  taskTypes : List Text := []
  availableInputs : List Text := []
  requireAvailableInputs : Bool := false

/-- `_matches_query`. -/
def matchesQuery (module : ModuleMetadata host) (query : RegistryQuery) : Bool :=
  if module.mode = .dependencyOnly then false
  else if !query.kinds.isEmpty && !query.kinds.contains module.kind then false
  else if !query.capabilityClasses.isEmpty &&
      !query.capabilityClasses.contains module.capabilityClass then false
  else if !query.domains.isEmpty &&
      !(module.domainTags ++ module.taskDomains).any query.domains.contains then false
  else if !query.taskTypes.isEmpty && !module.taskTypes.any query.taskTypes.contains then false
  else !(query.requireAvailableInputs && !module.requiredInputs.all query.availableInputs.contains)

/-- `discover`; the order is that of `all_modules`. -/
def discover (toInt : Text → Option Int) (query : RegistryQuery) : List (ModuleMetadata host) :=
  (registry.modules.insertionSort fun left right => left.name < right.name ∨
    left.name = right.name ∧
      notAbove toInt left right).filter fun module => matchesQuery module query

/-- The references of the module that a name resolves to. -/
def referencesOf (name : Text) : List FileReference :=
  match registry.resolve name with
  | .error _ => []
  | .ok module => module.allReferences

/-- A reference to a name without a module. -/
def missingError (reference : FileReference) : Text :=
  reference.sourceName ++ '.' :: reference.field.text ++ (" references missing " : Text) ++
    reference.field.kind.text ++ (": " : Text) ++ reference.targetName

/-- `_collect_reachable`: a module that was met is not visited again, without a report. -/
def reachability : Traversal Text Text FileReference (Option Text) where
  key name := name
  edges := registry.referencesOf
  target reference :=
    if registry.knows reference.targetName then some reference.targetName else none
  edgeErrors _ reference :=
    if registry.knows reference.targetName then [] else [some (missingError reference)]
  cycleError _ _ := none
  cutError := none

/-- The reference check of `validate_graph`. -/
def referenceErrors (reference : FileReference) : List Text :=
  match registry.resolve reference.targetName with
  | .error _ => [missingError reference]
  | .ok target =>
      if target.kind = reference.field.kind then []
      else [reference.sourceName ++ '.' :: reference.field.text ++ (" references " : Text) ++
        reference.targetName ++ (" as " : Text) ++ reference.field.kind.text ++ (", got " : Text) ++
        target.kind.text]

/-- `_cycle_errors` among some names. -/
def cycles (names : List Text) : Traversal Text Text Text Text where
  key name := name
  edges name := ((registry.referencesOf name).map FileReference.targetName).filter names.contains
  target name := some name
  edgeErrors _ _ := []
  cycleError path name := ("circular dependency: " : Text) ++
    List.intercalate (" -> " : Text) (path.dropWhile (· ≠ name) ++ [name])
  cutError := "maximum recursion depth exceeded"

/-- The capability check of `validate_graph`. -/
def capabilityErrors (deniedCapabilityClasses : List Text) (name : Text) : List Text :=
  match registry.resolve name with
  | .error _ => []
  | .ok module =>
      if deniedCapabilityClasses.contains module.capabilityClass then
        [("reachable module " : Text) ++ module.name ++ (" uses denied capability " : Text) ++
          module.capabilityClass]
      else []

/-- `GraphValidationResult`. -/
structure GraphValidationResult where
  isValid : Bool
  errors : List Text
  reachableModules : List Text
  deriving DecidableEq

/-- `validate_graph`, with the denied capability classes of the policy context. -/
def validateGraph (selectedModuleNames : List Text) (deniedCapabilityClasses : List Text := []) :
    GraphValidationResult :=
  let selected := selectedModuleNames.eraseDups
  let fuel := registry.modules.length + 1
  let collected := registry.reachability.traverse fuel (selected.filter registry.knows)
  let reachable := collected.reached.insertionSort (· ≤ ·)
  let errors :=
    ((selected.filter fun name => !registry.knows name).map
      (("missing selected module: " : Text) ++ ·)) ++
    collected.errors.filterMap id ++
    reachable.flatMap (fun name => (registry.referencesOf name).flatMap registry.referenceErrors ++
      registry.capabilityErrors deniedCapabilityClasses name) ++
    ((registry.cycles reachable).traverse fuel reachable).errors
  { isValid := errors.isEmpty
    errors := errors.eraseDups
    reachableModules := reachable }

theorem duplicate?_eq_none {seen modules : List (ModuleMetadata host)} :
    duplicate? seen modules = none ↔
      (∀ module ∈ modules, ∀ other ∈ seen,
        (other.name, other.version) ≠ (module.name, module.version)) ∧
      (modules.map fun module => (module.name, module.version)).Nodup := by
  induction modules generalizing seen with
  | nil => simp [duplicate?]
  | cons module rest ih =>
      rw [duplicate?]
      split
      · rename_i met
        obtain ⟨other, found, same⟩ := List.any_eq_true.mp met
        simp only [Bool.and_eq_true, decide_eq_true_eq] at same
        simp only [reduceCtorEq, false_iff, not_and]
        intro fresh
        exact absurd (Prod.ext same.1 same.2) (fresh module List.mem_cons_self other found)
      · rename_i fresh
        rw [ih]
        simp only [List.any_eq_true, Bool.and_eq_true, decide_eq_true_eq, not_exists, not_and]
          at fresh
        simp only [List.mem_append, List.mem_cons, forall_eq_or_imp,
          List.map_cons, List.nodup_cons, List.mem_map, not_exists, not_and, ne_eq, Prod.mk.injEq]
        grind

theorem create_eq_ok {toInt : Text → Option Int} {modules : List (ModuleMetadata host)}
    {registry : InMemoryModuleRegistry host} : create toInt modules = .ok registry ↔
      ((modules.map fun module => (module.name, module.version)).Nodup ∧
        ∀ module ∈ modules, (semverKey toInt module.version).isSome = true) ∧
      registry = ⟨modules, versionsOf toInt modules⟩ := by
  have unrepeated := @duplicate?_eq_none host [] modules
  simp only [List.not_mem_nil, false_implies, implies_true, true_and] at unrepeated
  unfold create
  cases repeated : duplicate? [] modules with
  | some module =>
      have nodup := mt unrepeated.mpr (by simp [repeated])
      simp [nodup]
  | none =>
      have nodup := unrepeated.mp repeated
      dsimp only
      split
      · rename_i parsed
        rw [List.all_eq_true] at parsed
        rw [Except.ok.injEq, eq_comm, and_iff_right ⟨nodup, parsed⟩]
      · rename_i unparsed
        rw [List.all_eq_true] at unparsed
        simp only [unparsed, and_false, false_and, reduceCtorEq]

variable {name : Text}

theorem mem_versionsOf {toInt : Text → Option Int} {modules : List (ModuleMetadata host)}
    {module : ModuleMetadata host} :
    module ∈ versionsOf toInt modules name ↔ module ∈ modules ∧ module.name = name := by
  simp [versionsOf]

variable {registry}

theorem resolve_eq_ok {module : ModuleMetadata host} :
    registry.resolve name = .ok module ↔ (registry.byName name).head? = some module := by
  unfold resolve
  cases registry.byName name <;> simp

theorem knows_iff :
    registry.knows name = true ↔ ∃ module, registry.resolve name = .ok module := by
  unfold knows resolve
  cases registry.byName name <;> simp

theorem mem_referencesOf {reference : FileReference} :
    reference ∈ registry.referencesOf name ↔
      ∃ module, registry.resolve name = .ok module ∧ reference ∈ module.allReferences := by
  unfold referencesOf
  cases registry.resolve name <;> simp

end InMemoryModuleRegistry

end SkillCentric.Control
