import SkillCentric.Runtime.AuthClaims
import SkillCentric.Runtime.ProfileComposer

/-!
# Task intake

`TaskAnalyzer.analyze` with everything it derives from a task: the classification, the signals, the
auth claims and the principal the control plane is asked for, and the composition request built
from them.  The Unicode tables of the host language are a parameter.
-/

namespace SkillCentric

open Slug

/-- The Unicode tables of the host language. -/
structure CharacterTables where
  /-- `str.casefold` of one character. -/
  casefoldChar : Char → Text
  /-- The class `\w` of regular expressions. -/
  isWord : Char → Bool

namespace CharacterTables

/-- `str.casefold`. -/
def casefold (tables : CharacterTables) (value : Text) : Text := value.flatMap tables.casefoldChar

/-- The assertion `\b` between two characters, or at an end of the text. -/
def boundary (tables : CharacterTables) (left right : Option Char) : Bool :=
  left.any tables.isWord != right.any tables.isWord

/-- `re.search(rf"\b{term}\b", text)`, `previous` being the character before the text. -/
def searchWord (tables : CharacterTables) (term : Text) : Option Char → Text → Bool
  | _, [] => false
  | previous, c :: rest =>
      (tables.boundary previous (some c) && startsWith (c :: rest) term &&
        tables.boundary term.getLast? ((c :: rest).drop term.length).head?) ||
      searchWord tables term (some c) rest

/-- The tables on ASCII text. -/
def ascii : CharacterTables where
  casefoldChar := Slug.casefoldChar
  isWord c := isWordChar c || ('A' ≤ c && c ≤ 'Z') || c == '_'

end CharacterTables

/-- `needle in text`. -/
def occursIn (text needle : Text) : Bool := decide (needle <:+: text)

/-- `TaskClassification`. -/
structure TaskClassification where
  taskType : Text
  confidence : Text
  reasons : List Text
  ambiguousTaskTypes : List Text
  requiresHumanReview : Bool

/-- `AnalyzedTask` with the fields that only the control plane is sent. -/
structure TaskIntake extends TaskAnalysis where
  domains : List Text
  requiredInputs : List Text
  availableInputs : List Text
  constraints : List Text
  controlPlanePrincipalKind : Text
  controlPlanePrincipalId : Text

namespace TaskAnalyzer

/-- The specialized task types and their terms. -/
def categories : List (Text × List Text) :=
  [("code-review", ["review", "pull request", "pr", "diff", "commit", "regression",
      "missing tests"]),
    ("research", ["research", "investigate", "compare", "summarize", "find information", "look up",
      "survey", "diagnose", "debug", "troubleshoot", "explain", "what causes", "why does",
      "how do i", "how should", "stack overflow", "error", "exception"]),
    ("task-execution", ["implement", "build", "fix", "update", "change", "create", "refactor",
      "migrate", "add", "remove"])]

/-- `_contains_task_term`. -/
def containsTaskTerm (tables : CharacterTables) (text term : Text) : Bool :=
  if !term.isEmpty && term.all isWordChar then tables.searchWord term none text
  else occursIn text term

/-- `_is_information_request`. -/
def isInformationRequest (text : Text) : Bool :=
  (["how do i", "how should", "why does", "why do", "what causes", "what is", "explain"] :
    List Text).any (occursIn text)

/-- `_filter_information_request_execution_terms`. -/
def filterInformationRequestExecutionTerms (text : Text) (matchedTerms : List Text) : List Text :=
  if isInformationRequest text then matchedTerms.filter (· ≠ ("fix" : Text)) else matchedTerms

/-- The terms of a category that a text has. -/
def matchedTerms (tables : CharacterTables) (text : Text)
    (category : Text × List Text) : List Text :=
  let found := category.2.filter (containsTaskTerm tables text)
  if category.1 = ("task-execution" : Text) then filterInformationRequestExecutionTerms text found
  else found

/-- The categories with a matching term. -/
def categoryMatches (tables : CharacterTables) (text : Text) : List (Text × List Text) :=
  (categories.map fun category => (category.1, matchedTerms tables text category)).filter
    fun entry => !entry.2.isEmpty

/-- The reason a match is recorded with. -/
def matchReason (entry : Text × List Text) : Text :=
  ("Matched " : Text) ++ entry.1 ++ (" task signals: " : Text) ++ Json.join entry.2 ++ ("." : Text)

/-- `_classify_task`. -/
def classifyTask (tables : CharacterTables) (objective : Text) : TaskClassification :=
  match categoryMatches tables (tables.casefold objective) with
  | [] =>
      { taskType := "general-task"
        confidence := "medium"
        reasons := ["No specialized task signals matched; using general-task fallback."]
        ambiguousTaskTypes := []
        requiresHumanReview := false }
  | [entry] =>
      { taskType := entry.1
        confidence := "high"
        reasons := [matchReason entry]
        ambiguousTaskTypes := []
        requiresHumanReview := false }
  | several =>
      { taskType := "general-task"
        confidence := "low"
        reasons := several.map matchReason ++
          [("Fell back to general-task because multiple specialized task types matched." : Text)]
        ambiguousTaskTypes := several.map Prod.fst
        requiresHumanReview := true }

/-- `if condition: values.append(value)`. -/
def onlyIf (condition : Bool) (value : Text) : List Text := if condition then [value] else []

/-- `_dedupe` of texts. -/
def dedupeTexts (values : List Text) : List Text := dedupe (values.map Json.str)

/-- `_repository_context is not None`. -/
def hasRepository (task : Json) : Bool :=
  ((task.get? "context").bind (·.get? "repository")).any Json.isMapping

/-- `_domains`. -/
def domains (taskType : Text) (repository : Bool) : List Text :=
  let specialized : List Text :=
    if taskType = ("code-review" : Text) then ["software-engineering", "git", "code-review"]
    else if taskType = ("research" : Text) then ["research", "knowledge-retrieval"]
    else if taskType = ("task-execution" : Text) then
      ("task-execution" : Text) :: onlyIf repository "software-engineering"
    else []
  dedupeTexts (specialized ++ onlyIf repository "repository")

/-- `_objective_mentions_diff_source`. -/
def objectiveMentionsDiffSource (tables : CharacterTables) (objective : Text) : Bool :=
  (["diff", "commit", "pull request", "pr", "changes"] : List Text).any
    (occursIn (tables.casefold objective))

/-- `_required_inputs`. -/
def requiredInputs (tables : CharacterTables) (taskType objective : Text) (repository : Bool) :
    List Text :=
  let review : Bool := taskType = ("code-review" : Text)
  dedupeTexts (onlyIf (review || repository) "repository" ++
    onlyIf (review && objectiveMentionsDiffSource tables objective) "diff")

/-- The task has attachments. -/
def hasAttachments (task : Json) : Bool :=
  match (task.get? "context").bind (·.get? "attachments") with
  | some (.arr attachments) => !attachments.isEmpty
  | _ => false

/-- `_available_inputs`. -/
def availableInputs (tables : CharacterTables) (taskType objective : Text) (repository : Bool)
    (task : Json) : List Text :=
  let review : Bool := taskType = ("code-review" : Text)
  dedupeTexts (onlyIf repository "repository" ++
    onlyIf (repository && review && objectiveMentionsDiffSource tables objective) "diff" ++
    onlyIf (hasAttachments task) "attachments")

/-- `_capability_hints`. -/
def capabilityHints (tables : CharacterTables) (taskType objective : Text) : List Text :=
  let text := tables.casefold objective
  let specialized : List Text :=
    if taskType = ("code-review" : Text) then ["analysis"]
    else if taskType = ("research" : Text) then ["retrieval", "analysis"]
    else if taskType = ("task-execution" : Text) then ["execution"]
    else []
  dedupeTexts (specialized ++
    onlyIf (occursIn text "schema" || occursIn text "contract") "schema-validation")

/-- The constraints a task states. -/
def statedConstraints (task : Json) : List Text :=
  match task.get? "constraints" with
  | some (.obj fields) =>
      let states (key : Text) (value : Bool) := Json.field? key fields == some (.bool value)
      onlyIf (states "write_access" false) "Do not grant write tools by default." ++
        onlyIf (states "destructive_actions" false) "Destructive actions are not allowed." ++
        onlyIf (states "write_access" true) "Write access was requested." ++
        onlyIf (states "destructive_actions" true) "Destructive actions were requested."
  | some (.arr items) => (items.map Json.pyStr).filter fun text => strip text ≠ []
  | _ => []

/-- `_constraints`. -/
def constraints (task : Json) (classification : TaskClassification) : List Text :=
  let stated := statedConstraints task
  dedupeTexts (stated ++ onlyIf stated.isEmpty "Do not grant broad capabilities by default." ++
    onlyIf classification.requiresHumanReview
      "Task classification is ambiguous; do not route to a specialized runtime strategy without review.")

/-- `_risk_level`. -/
def riskLevel (tables : CharacterTables) (taskType objective : Text) (constraints : List Text) :
    Text :=
  let text := tables.casefold (List.intercalate (" " : Text) (objective :: constraints))
  if (["production", "delete", "destroy", "reset", "secret"] : List Text).any (occursIn text) then
    "high"
  else if occursIn text "destructive actions were requested" ||
      occursIn text "write access was requested" then "high"
  else if taskType = ("code-review" : Text) then "medium"
  else "low"

/-- `TaskAnalyzer.analyze`. -/
def intake (tables : CharacterTables) (task : Json) : Except PyError TaskIntake := do
  let objective := objective task
  let classification := classifyTask tables objective
  let taskType := classification.taskType
  let repository := hasRepository task
  let constraints := constraints task classification
  let required := requiredInputs tables taskType objective repository
  let available := availableInputs tables taskType objective repository task
  let (authClaims, principalKind, principalId) ← intakeClaims task taskType
  return {
    taskId := taskId task
    taskType, objective
    riskLevel := riskLevel tables taskType objective constraints
    domains := domains taskType repository
    requiredInputs := required
    availableInputs := available
    capabilityHints := capabilityHints tables taskType objective
    constraints
    missingInformation := required.filter fun input => !available.contains input
    authClaims
    controlPlanePrincipalKind := principalKind
    controlPlanePrincipalId := principalId
    classificationConfidence := classification.confidence
    classificationReasons := classification.reasons
    ambiguousTaskTypes := classification.ambiguousTaskTypes
    requiresHumanReview := classification.requiresHumanReview }

end TaskAnalyzer

/-- The environments a request is made in. -/
inductive Environment where
  | dev
  | staging
  | prod
  deriving DecidableEq, Repr

/-- The environment as requests carry it. -/
def Environment.text : Environment → Text
  | .dev => "dev"
  | .staging => "staging"
  | .prod => "prod"

/-- `generation_mode`. -/
inductive GenerationMode where
  | initial
  | recomposition
  deriving DecidableEq, Repr

/-- The mode as requests carry it. -/
def GenerationMode.text : GenerationMode → Text
  | .initial => "initial"
  | .recomposition => "recomposition"

namespace TaskIntake

open RuntimeProfileComposer (texts)

/-- `_control_plane_risk_level`. -/
def controlPlaneRiskLevel (riskLevel : Text) : Text :=
  if riskLevel = ("critical" : Text) then "high" else riskLevel

/-- The tenant a request is made for. -/
def tenantContextField (claims : AuthClaims) : List (Text × Json) :=
  if claims.tenantId = ("global" : Text) then []
  else
    [("tenant_context", .obj
      [("tenant_id", .str claims.tenantId), ("area_id", .str claims.areaId),
        ("hostname", RuntimeProfile.optional claims.tenantHostname),
        ("membership_id", RuntimeProfile.optional claims.membershipId)])]

/-- The signals of a task. -/
def signals (task : TaskIntake) : Json :=
  .obj
    [("domain_tags", texts task.domains), ("capability_hints", texts task.capabilityHints),
      ("available_inputs", texts task.availableInputs), ("constraints", texts task.constraints),
      ("classification_confidence", .str task.classificationConfidence),
      ("ambiguous_task_types", texts task.ambiguousTaskTypes),
      ("classification_reasons", texts task.classificationReasons),
      ("requires_human_review", .bool task.requiresHumanReview)]

/-- `to_composition_context_request`. -/
def toCompositionContextRequest (task : TaskIntake) (environment : Environment)
    (generationMode : GenerationMode) (parentProfileId : Option Text) : Json :=
  .obj (([("contract_version", .str "0.1.0"), ("environment", .str environment.text),
    ("principal", .obj [("kind", .str task.controlPlanePrincipalKind),
      ("id", .str task.controlPlanePrincipalId)]),
    ("requested_profile_generation", .obj [("mode", .str generationMode.text),
      ("parent_profile_id", RuntimeProfile.optional parentProfileId)]),
    ("task", .obj
      [("id", .str task.taskId), ("type", .str task.taskType), ("objective", .str task.objective),
        ("risk_level", .str (controlPlaneRiskLevel task.riskLevel)), ("signals", task.signals)])] :
      List (Text × Json)) ++ tenantContextField task.authClaims)

end TaskIntake

end SkillCentric
