import SkillCentric.Control.Registry
import SkillCentric.Library.DepthFirst

/-!
# Composition contexts

`compositionContextResponse`: the modules of the registry are scored against a request, policies
decide on the candidates, the dependencies of the allowed candidates are traversed, and the answer
is ready when nothing stands against it.  The registry version and the outcome of
`loadTenantAuthority` are arguments.
-/

namespace SkillCentric.Control

open SkillCentric

/-- `CompositionRequest`, as far as the answer depends on it. -/
structure CompositionRequest where
  principal : Principal
  taskType : Text
  objective : Text
  riskLevel : Text
  domainTags : List Text
  capabilityHints : List Text
  availableInputs : List Text
  constraints : List Text

/-- `ModuleIdentity`. -/
structure ModuleIdentity where
  id : Text
  name : Text
  kind : ModuleKind
  version : Text
  deriving DecidableEq

/-- `CANDIDATE_KINDS.has(kind)`. -/
def ModuleKind.isCandidate : ModuleKind → Bool
  | .instruction | .skill | .tool => true
  | _ => false

variable {host : Host}

/-- `moduleIdentity`. -/
def RegistryModule.identity (module : RegistryModule host) : ModuleIdentity :=
  ⟨module.id, module.name, module.kind, module.version⟩

/-- `intersects`. -/
def intersects (host : Host) (left right : List Text) : List Text :=
  left.filter fun value => (right.map host.normalize).contains (host.normalize value)

/-- `includesAll`. -/
def includesAll (host : Host) (values requiredValues : List Text) : Bool :=
  requiredValues.all fun value => (values.map host.normalize).contains (host.normalize value)

/-- `normalizedTaskText`. -/
def normalizedTaskText (host : Host) (request : CompositionRequest) : Text :=
  host.normalize (List.intercalate (" " : Text) (request.objective :: request.constraints))

/-- `haystack.includes(needle)` on texts. -/
def textIncludes (text needle : Text) : Bool := decide (needle <:+: text)

/-- `signalMatches`. -/
def signalMatches (signal : Text) (module : RegistryModule host) (request : CompositionRequest) :
    Bool :=
  let (source, value) := signal.span (· ≠ ':')
  let value := host.normalize (value.drop 1)
  let among (values : List Text) := (values.map host.normalize).contains value
  if !signal.contains ':' then false
  else if source = ("task_type" : Text) then host.normalize request.taskType = value
  else if source = ("risk_level" : Text) then host.normalize request.riskLevel = value
  else if source = ("domain" : Text) then
    among (module.domainTags ++ module.taskDomains) && among request.domainTags
  else if source = ("input" : Text) then among request.availableInputs
  else if source = ("capability_class" : Text) then
    host.normalize module.capabilityClass = value || among request.capabilityHints
  else if (["phrase", "trigger", "constraint"] : List Text).contains source then
    textIncludes (normalizedTaskText host request) value
  else false

/-- The signals that make a module a match. -/
def matchedSignals (module : RegistryModule host) (request : CompositionRequest) : List Text :=
  let has (values : List Text) (value : Text) :=
    (values.map host.normalize).contains (host.normalize value)
  (if has module.taskTypes request.taskType then
      [("task_type:" : Text) ++ request.taskType] else []) ++
    (if has module.riskLevels request.riskLevel then
      [("risk_level:" : Text) ++ request.riskLevel] else []) ++
    (intersects host (module.domainTags ++ module.taskDomains) request.domainTags).map
      (("domain:" : Text) ++ ·) ++
    (intersects host module.requiredInputs request.availableInputs).map (("input:" : Text) ++ ·) ++
    if has request.capabilityHints module.capabilityClass then
      [("capability_class:" : Text) ++ module.capabilityClass] else []

/-- `ScoredModule`. -/
structure ScoredModule (host : Host) where
  module : RegistryModule host
  score : host.Number
  matchedSignals : List Text
  negativeSignals : List Text
  reason : Text

/-- The score of a module that matches. -/
def scoreMatched (module : RegistryModule host) (request : CompositionRequest) (found : List Text) :
    ScoredModule host :=
  let modifiers := module.scoreModifiers.filter fun modifier =>
    signalMatches modifier.signal module request
  let negative (modifier : ScoreModifier host) := host.less modifier.weight host.zero
  let score :=
    modifiers.foldl (fun score modifier => host.add score modifier.weight) module.baseScore
  let found := (found ++ (modifiers.filter fun modifier => !negative modifier).map
    ScoreModifier.signal).eraseDups
  let phrases := module.negativePhrases.filter fun phrase =>
    textIncludes (normalizedTaskText host request) (host.normalize phrase)
  { module
    score := host.clamp score
    matchedSignals := host.sort found
    negativeSignals := host.sort
      (((modifiers.filter negative).map ScoreModifier.signal ++
        phrases.map (("phrase:" : Text) ++ ·)).eraseDups)
    reason :=
      if modifiers.isEmpty then ("Matched " : Text) ++ Json.join (host.sort found) ++ ("." : Text)
      else List.intercalate (" " : Text) (modifiers.map ScoreModifier.reason) }

/-- `scoreModule`. -/
def scoreModule (module : RegistryModule host) (request : CompositionRequest) :
    Option (ScoredModule host) :=
  let taskTypes := module.taskTypes.map host.normalize
  if !taskTypes.isEmpty && !taskTypes.contains (host.normalize request.taskType) then none
  else if !includesAll host request.availableInputs module.requiredInputs then none
  else if (matchedSignals module request).isEmpty then none
  else some (scoreMatched module request (matchedSignals module request))

/-- `ModuleReference`. -/
structure ModuleReference (host : Host) where
  module : ModuleIdentity
  score : host.Number
  reason : Text

/-- The reference replaces one of the same module with a lower score. -/
def setReference (references : List (ModuleReference host)) (reference : ModuleReference host) :
    List (ModuleReference host) :=
  match references.find? fun existing => existing.module.id = reference.module.id with
  | none => references ++ [reference]
  | some existing =>
      if host.less existing.score reference.score then
        references.map fun old => if old.module.id = reference.module.id then reference else old
      else references

/-- `dedupeReferences`. -/
def dedupeReferences (references : List (ModuleReference host)) : List (ModuleReference host) :=
  (references.foldl setReference []).insertionSort fun left right =>
    host.less right.score left.score ||
      (!host.less left.score right.score &&
        host.localeCompare left.module.name right.module.name != .gt)

inductive PolicyEffect where
  | allow
  | deny
  | needsClarification
  deriving DecidableEq, Repr

/-- `PolicyDecision`. -/
structure PolicyDecision where
  module : ModuleIdentity
  effect : PolicyEffect
  reasons : List Text
  deriving DecidableEq

/-- The policies that a module is allowed by. -/
def allowedPolicyIds (module : RegistryModule host) (policyBindings : List PolicyBindingRow) :
    List Text :=
  (policyBindings.filter fun binding => binding.targetKind = .module &&
    binding.targetId = module.id && binding.effect = .allow).map PolicyBindingRow.policyId

/-- `policyDecisionForModule`. -/
def policyDecisionForModule (module : RegistryModule host) (dependencies : List ModuleDependencyRow)
    (policyBindings : List PolicyBindingRow) : PolicyDecision :=
  let decide (effect : PolicyEffect) (reason : Text) : PolicyDecision :=
    ⟨module.identity, effect, [reason]⟩
  let denied := policyBindings.find? fun binding => binding.targetKind = .module &&
    binding.targetId = module.id && binding.effect = .deny
  let allowed := allowedPolicyIds module policyBindings
  let missing := ((dependencies.filter fun dependency =>
    dependency.dependencyKind = .policy && dependency.isRequired).map
      ModuleDependencyRow.dependencyId).filter fun policyId => !allowed.contains policyId
  match denied with
  | some binding => decide .deny (("Policy " : Text) ++ binding.policyId ++
      (" denies module " : Text) ++ module.name ++ ("." : Text))
  | none =>
      if module.kind = .tool && allowed.isEmpty then
        decide .needsClarification (("Tool " : Text) ++ module.name ++
          (" requires an explicit policy allow." : Text))
      else if module.requiresAllPolicies && !missing.isEmpty then
        decide .needsClarification (("Missing required policy allows: " : Text) ++
          Json.join missing ++ ("." : Text))
      else decide .allow "Required policies are allowed for the module."

/-- `dedupePolicyDecisions`: the first decision on a module. -/
def dedupePolicyDecisions (decisions : List PolicyDecision) : List PolicyDecision :=
  decisions.foldl (fun deduped decision =>
    if deduped.any fun seen => seen.module.id = decision.module.id then deduped
    else deduped ++ [decision]) []

/-- `modulesById.get(id)`. -/
def moduleById (modules : List (RegistryModule host)) (id : Text) : Option (RegistryModule host) :=
  modules.find? fun module => module.id = id

/-- The traversal of `validateGraph` over dependency rows, which come in any order. -/
def dependencyGraphOver (dependencies : List ModuleDependencyRow)
    (modules : List (RegistryModule host))
    (scopeBindings : List ScopeBinding) :
    Traversal (RegistryModule host) Text ModuleDependencyRow Text where
  key := RegistryModule.id
  edges module := dependenciesByVersionId dependencies module.moduleVersionId
  target dependency := moduleById modules dependency.dependencyId
  edgeErrors module dependency :=
    match moduleById modules dependency.dependencyId with
    | none => [module.name ++ (" references missing " : Text) ++ dependency.dependencyKind.text ++
        ("." : Text)]
    | some found =>
        (if found.kind ≠ dependency.dependencyKind then
          [module.name ++ (" references " : Text) ++ found.name ++ (" as " : Text) ++
            dependency.dependencyKind.text ++ (", got " : Text) ++ found.kind.text ++ ("." : Text)]
          else []) ++
        if found.kind.isScope && !scopeBindingAllows found.id scopeBindings then
          [found.name ++ (" is not allowed for the principal." : Text)] else []
  cycleError path module := ("circular dependency: " : Text) ++
    List.intercalate (" -> " : Text) ((path ++ [module]).map RegistryModule.name)
  cutError := "Maximum call stack size exceeded"

/-- `GraphValidation`. -/
structure GraphValidation where
  isValid : Bool
  errors : List Text
  reachableModules : List ModuleIdentity
  deriving DecidableEq

/-- `validateGraph` over dependency rows; no path is longer than the number of modules. -/
def validateGraphOver (dependencies : List ModuleDependencyRow)
    (modules : List (RegistryModule host))
    (scopeBindings : List ScopeBinding) (selectedModules : List (RegistryModule host)) :
    GraphValidation :=
  let traversed := (dependencyGraphOver dependencies modules scopeBindings).traverse
    (modules.length + 1) selectedModules
  { isValid := traversed.errors.isEmpty
    errors := traversed.errors.eraseDups
    reachableModules := ((traversed.reached.filterMap (moduleById modules)).map
      RegistryModule.identity).insertionSort fun left right =>
        host.localeCompare left.name right.name != .gt }

/-- `validateGraph` over the rows of a registry. -/
def validateGraph (registry : Registry host) : (modules : List (RegistryModule host)) →
    (scopeBindings : List ScopeBinding) → (selectedModules : List (RegistryModule host)) →
    GraphValidation :=
  validateGraphOver (loadDependencies registry)

inductive CompositionStatus where
  | ready
  | denied
  deriving DecidableEq, Repr

/-- `CompositionContextResponse`. -/
structure CompositionContextResponse (host : Host) where
  registryVersion : Text
  compositionStatus : CompositionStatus
  candidateModules : List (ModuleReference host)
  applicablePolicies : List (ModuleReference host)
  allowedScopes : List (ModuleReference host)
  validationRequirements : List (ModuleReference host)
  policyDecisions : List PolicyDecision
  graphValidation : GraphValidation
  tenantAuthority : Option Json

/-- `referencesForDependencies`. -/
def referencesForDependencies (modules : List (RegistryModule host))
    (scoredModules : List (ScoredModule host)) (dependencies : List ModuleDependencyRow)
    (kind : ModuleKind) (reason : Text) : List (ModuleReference host) :=
  (dependencies.filter fun dependency => dependency.dependencyKind = kind).filterMap
    fun dependency =>
    (moduleById modules dependency.dependencyId).map fun module =>
      let scored := scoredModules.find? fun scored => scored.module.id = module.id
      ⟨module.identity, (scored.map ScoredModule.score).getD module.baseScore, reason⟩

/-- The decision on a module of the registry. -/
def decisionOn (registry : Registry host) (module : RegistryModule host) : PolicyDecision :=
  policyDecisionForModule module (dependenciesOf registry module.moduleVersionId)
    (loadPolicyBindings registry)

/-- The scored modules that may be candidates. -/
def candidateScores (modules : List (RegistryModule host)) (request : CompositionRequest) :
    List (ScoredModule host) :=
  (modules.filterMap fun module => scoreModule module request).filter fun scored =>
    scored.module.kind.isCandidate

/-- The candidates that policies allow. -/
def allowedCandidates (registry : Registry host) (modules : List (RegistryModule host))
    (request : CompositionRequest) : List (ScoredModule host) :=
  let candidates := candidateScores modules request
  let allowedCandidateIds :=
    ((candidates.map fun scored => decisionOn registry scored.module).filter
    fun decision => decision.effect = .allow).map fun decision => decision.module.id
  candidates.filter fun scored => allowedCandidateIds.contains scored.module.id

/-- The decisions on the reachable tools. -/
def graphToolDecisions (registry : Registry host) (modules : List (RegistryModule host))
    (graph : GraphValidation) : List PolicyDecision :=
  (graph.reachableModules.filter fun module => module.kind = .tool).filterMap fun module =>
    (moduleById modules module.id).map (decisionOn registry)

/-- `compositionContextResponse` over the loaded modules. -/
def answerFrom (registry : Registry host) (modules : List (RegistryModule host))
    (registryVersion : Text) (tenantAuthority : Except Text (Option Json))
    (request : CompositionRequest) : CompositionContextResponse host :=
  let scopeBindings := scopeBindingsFor registry request.principal
  let scoredModules := modules.filterMap fun module => scoreModule module request
  let candidates := candidateScores modules request
  let allowed := allowedCandidates registry modules request
  let dependencies := allowed.flatMap fun scored =>
    dependenciesOf registry scored.module.moduleVersionId
  let required (kind : ModuleKind) := dedupeReferences
    (referencesForDependencies modules scoredModules dependencies kind
      "Required by selected module.")
  let graph := validateGraph registry modules scopeBindings (allowed.map ScoredModule.module)
  let toolDecisions := graphToolDecisions registry modules graph
  let denied := candidates.isEmpty || allowed.isEmpty ||
    !(toolDecisions.all fun decision => decision.effect = .allow) || !tenantAuthority.isOk
  { registryVersion
    compositionStatus := if graph.isValid && !denied then .ready else .denied
    candidateModules := dedupeReferences
      (allowed.map fun scored => ⟨scored.module.identity, scored.score, scored.reason⟩)
    applicablePolicies := required .policy
    allowedScopes := dedupeReferences (((scoredModules.filter fun scored =>
      scored.module.kind.isScope).filter fun scored =>
        scopeBindingAllows scored.module.id scopeBindings).map fun scored =>
          ⟨scored.module.identity, scored.score, "Allowed for principal by scope binding."⟩)
    validationRequirements := required .validator
    policyDecisions := dedupePolicyDecisions
      ((candidates.map fun scored => decisionOn registry scored.module) ++ toolDecisions)
    graphValidation := graph
    tenantAuthority := (tenantAuthority.toOption.getD none) }

/-- `compositionContextResponse`. -/
def compositionContextResponse (registry : Registry host) (registryVersion : Text)
    (tenantAuthority : Except Text (Option Json)) (request : CompositionRequest) :
    Except Text (CompositionContextResponse host) := do
  let modules ← loadRegistryModules registry
  return answerFrom registry modules registryVersion tenantAuthority request

end SkillCentric.Control
