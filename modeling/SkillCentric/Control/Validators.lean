import SkillCentric.Control.Rows
import SkillCentric.Runtime.Coercions

/-!
# Validators of request bodies

What the Worker checks of a parsed request body before it handles the request: each validator
answers with the message of the first check that fails.  A missing property reads as `undefined`,
and `String` turns a property into the text an enumeration is compared with.
-/

namespace SkillCentric.Control

open SkillCentric

mutual

/-- `String(value)`; the numbers keep their notation, which no enumeration has. -/
def stringOf : Json → Text
  | .null => "null"
  | .bool true => "true"
  | .bool false => "false"
  | .int value => Json.intText value
  | .float digits => digits
  | .str value => value
  | .arr items => stringOfItems items
  | .obj _ => "[object Object]"

/-- `items.join()`: a `null` item becomes the empty text. -/
def stringOfItems : List Json → Text
  | [] => []
  | item :: rest =>
      (if item = .null then [] else stringOf item) ++
        if rest.isEmpty then [] else ',' :: stringOfItems rest

end

/-- `choices.includes(String(value))`. -/
def includes (choices : List Text) (value : Option Json) : Bool :=
  choices.contains ((value.map stringOf).getD "undefined")

/-- `isObject`. -/
def isObject (value : Option Json) : Bool := value.any Json.isMapping

/-- A string that passes a test. -/
def isText (test : Text → Bool) : Option Json → Bool
  | some (.str text) => test text
  | _ => false

/-- An array whose items all pass a test. -/
def isArray (test : Json → Bool) : Option Json → Bool
  | some (.arr items) => items.all test
  | _ => false

/-- `isId`. -/
def isIdValue : Option Json → Bool := isText TaskAnalyzer.isId

/-- `isSemver`. -/
def isSemverValue : Option Json → Bool := isText isSemver

/-- `typeof value === "string" && value.length > 0`. -/
def isNonemptyText : Option Json → Bool := isText fun text => !text.isEmpty

/-- `stringArray`. -/
def stringArray : Option Json → Bool := isArray fun item => isNonemptyText (some item)

/-- `idArray`. -/
def idArray : Option Json → Bool := isArray fun item => isIdValue (some item)

/-- `value === null || value === undefined || test(value)`. -/
def nullOr (test : Option Json → Bool) : Option Json → Bool
  | none | some .null => true
  | value => test value

/-- `typeof value === "boolean"`. -/
def isBoolean : Option Json → Bool
  | some (.bool _) => true
  | _ => false

/-- `hasProperty`. -/
def hasProperty (body : Json) (name : Text) : Bool := (body.get? name).isSome

/-- `typeof value === "number" && Number.isFinite(value)`; integers from `2^1024 - 2^970` on read
as infinite. -/
def isFiniteNumber : Json → Bool
  | .int value => value.natAbs < 2 ^ 1024 - 2 ^ 970
  | .float digits => !(["nan", "inf", "-inf"] : List Text).contains digits
  | _ => false

/-- `finiteNumberArray`. -/
def finiteNumberArray : Option Json → Bool
  | some (.arr items) => !items.isEmpty && items.length ≤ 4096 && items.all isFiniteNumber
  | _ => false

/-- `typeof value === "number" && value >= 1 && value <= 20`. -/
def isTopK : Option Json → Bool
  | some (.int value) => 1 ≤ value && value ≤ 20
  | some (.float digits) =>
      isFiniteNumber (.float digits) && 1 ≤ (Json.floatInt digits).1 &&
        ((Json.floatInt digits).1 < 20 || Json.floatInt digits == (20, true))
  | _ => false

/-- The message of the first check that fails. -/
def firstFailure (checks : List (Bool × Text)) : Option Text :=
  (checks.find? fun check => !check.1).map Prod.snd

theorem firstFailure_eq_none {checks : List (Bool × Text)} :
    firstFailure checks = none ↔ ∀ check ∈ checks, check.1 = true := by
  simp [firstFailure]

/-- A property of a property. -/
def property (value : Option Json) (name : Text) : Option Json := value.bind (·.get? name)

/-- The checks of `validateCompositionRequest`. -/
def compositionChecks (body : Json) : List (Bool × Text) :=
  let principal := body.get? "principal"
  let tenantContext := body.get? "tenant_context"
  let ifScoped (check : Bool) := !hasProperty body "tenant_context" || check
  let generation := body.get? "requested_profile_generation"
  let task := body.get? "task"
  let signals := property task "signals"
  [(body.isMapping, "Request body must be a JSON object."),
    (isSemverValue (body.get? "contract_version"), "contract_version must be semver."),
    (includes ["dev", "staging", "prod"] (body.get? "environment"),
      "environment must be dev, staging, or prod."),
    (isObject principal, "principal is required."),
    (includes ["role", "user", "service"] (property principal "kind"),
      "principal.kind must be role, user, or service."),
    (isIdValue (property principal "id"), "principal.id must be a valid id."),
    (ifScoped (isObject tenantContext), "tenant_context must be a JSON object."),
    (ifScoped (isIdValue (property tenantContext "tenant_id")),
      "tenant_context.tenant_id must be a valid id."),
    (ifScoped (isIdValue (property tenantContext "area_id")),
      "tenant_context.area_id must be a valid id."),
    (ifScoped (nullOr (isText fun _ => true) (property tenantContext "hostname")),
      "tenant_context.hostname must be null or a string."),
    (ifScoped (nullOr isIdValue (property tenantContext "membership_id")),
      "tenant_context.membership_id must be null or a valid id."),
    (isObject generation, "requested_profile_generation is required."),
    (includes ["initial", "recomposition"] (property generation "mode"),
      "requested_profile_generation.mode must be initial or recomposition."),
    ((property generation "parent_profile_id").isSome,
      "requested_profile_generation.parent_profile_id is required."),
    (nullOr isIdValue (property generation "parent_profile_id"),
      "requested_profile_generation.parent_profile_id must be null or a valid id."),
    (isObject task, "task is required."),
    (isIdValue (property task "id"), "task.id must be a valid id."),
    (isIdValue (property task "type"), "task.type must be a valid id."),
    (isNonemptyText (property task "objective"), "task.objective is required."),
    (includes ["low", "medium", "high"] (property task "risk_level"),
      "task.risk_level must be low, medium, or high."),
    (isObject signals, "task.signals is required."),
    (idArray (property signals "domain_tags"), "task.signals.domain_tags must be an array of ids."),
    (idArray (property signals "capability_hints"),
      "task.signals.capability_hints must be an array of ids."),
    (idArray (property signals "available_inputs"),
      "task.signals.available_inputs must be an array of ids."),
    (stringArray (property signals "constraints"),
      "task.signals.constraints must be an array of non-empty strings."),
    (includes ["high", "medium", "low"] (property signals "classification_confidence"),
      "task.signals.classification_confidence must be high, medium, or low."),
    (idArray (property signals "ambiguous_task_types"),
      "task.signals.ambiguous_task_types must be an array of ids."),
    (stringArray (property signals "classification_reasons"),
      "task.signals.classification_reasons must be an array of non-empty strings."),
    (isBoolean (property signals "requires_human_review"),
      "task.signals.requires_human_review must be a boolean.")]

/-- `validateCompositionRequest`. -/
def validateCompositionRequest (body : Json) : Option Text := firstFailure (compositionChecks body)

/-- The checks of `validateRetrievalRequest`. -/
def retrievalChecks (body : Json) : List (Bool × Text) :=
  let principal := body.get? "principal"
  [(body.isMapping, "Request body must be a JSON object."),
    (isSemverValue (body.get? "contract_version"), "contract_version must be semver."),
    (isObject principal, "principal is required."),
    (includes ["role", "user", "service"] (property principal "kind"),
      "principal.kind must be role, user, or service."),
    (isIdValue (property principal "id"), "principal.id must be a valid id."),
    (isNonemptyText (body.get? "query"), "query is required."),
    (!hasProperty body "query_embedding" || finiteNumberArray (body.get? "query_embedding"),
      "query_embedding must be a non-empty finite number array with at most 4096 values."),
    (idArray (body.get? "knowledge_scope_ids"), "knowledge_scope_ids must be an array of ids."),
    (idArray (body.get? "memory_scope_ids"), "memory_scope_ids must be an array of ids."),
    (isTopK (body.get? "top_k"), "top_k must be between 1 and 20.")]

/-- `validateRetrievalRequest`. -/
def validateRetrievalRequest (body : Json) : Option Text := firstFailure (retrievalChecks body)

end SkillCentric.Control
