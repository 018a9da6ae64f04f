import SkillCentric.Runtime.TaskIntake

/-!
# Memory candidates

Candidates are extracted from completed steps, validated and submitted to the durable memory of the
control plane.  A candidate is a mapping; its content is an artifact, and travels beside it when it
is validated and submitted.  `str.lower` and the safety compiler are taken as functions.
-/

namespace SkillCentric

open Slug

/-- Errors of the memory pipeline. -/
inductive MemoryError where
  /-- `MemoryCandidateError`. -/
  | candidate (message : Text)
  /-- `MemoryFeedbackError`. -/
  | feedback (message : Text)
  | raised (error : PyError)
  deriving DecidableEq

/-- `dict.update` with one field. -/
def Json.setField (key : Text) (value : Json) : JsonObject → JsonObject
  | [] => [(key, value)]
  | (name, old) :: rest =>
      if name = key then (name, value) :: rest else (name, old) :: setField key value rest

/-- `mapping[key]`. -/
def Json.require (fields : JsonObject) (key : Text) : Except MemoryError Json :=
  match Json.field? key fields with
  | some value => .ok value
  | none => .error (.raised ⟨.keyError, quoteText key, none⟩)

namespace MemoryCandidates

def sensitivities : List Text := ["public", "internal", "confidential", "secret"]

def candidateClasses : List Text :=
  ["procedural_lesson", "task_subject_fact", "runtime_evidence", "knowledge_record_proposal",
    "rejected"]

def promotableCandidateClass : Text := "procedural_lesson"

/-- `PROMOTION_ROUTES`. -/
def promotionRoutes : List (Text × Text) :=
  [("procedural_lesson", "agent_memory"), ("task_subject_fact", "scoped_knowledge_record"),
    ("runtime_evidence", "runtime_plane_evidence"),
    ("knowledge_record_proposal", "knowledge_record_approval"), ("rejected", "none")]

def reflectionRejectionKeys : List Text :=
  ["raw_tool_output", "raw_tool_outputs", "source_extract", "source_extracts", "customer_data",
    "private_data", "secret_value", "credential"]

def secretLikeTerms : List Text :=
  ["api key", "apikey", "password", "private key", "secret", "token"]

def proceduralAllowedEffects : List Text :=
  ["planner_hint", "retrieval_ranking", "composer_candidate_bias"]

def proceduralRequiredForbiddenEffects : List Text :=
  ["tool_grant", "scope_grant", "policy_override", "validator_override", "profile_mutation",
    "runtime_authority"]

def classificationEnvelopeContentKeys : List Text :=
  ["summary", "evidence_uris", "artifact_refs", "redaction_status", "authoritative",
    "influence_class", "allowed_effects", "forbidden_effects", "applicability"]

def taskSubjectContentKeys : List Text :=
  ["task_subject_fact", "task_subject_facts", "factual_claim", "factual_claims", "subject_data",
    "subject_facts", "customer_record", "customer_records"]

def authorityLanguageTerms : List Text :=
  ["grant tool", "grant tools", "allow tool", "allow tools", "increase budget", "raise budget",
    "override policy", "override validator", "disable validator", "remove validator",
    "relax policy", "ignore policy", "expand scope", "widen scope", "profile mutation",
    "runtime authority"]

def taskSubjectLanguageTerms : List Text :=
  ["customer record", "customer-specific", "client record", "private data", "source extract",
    "raw tool output"]

/-- Where evidence and content artifacts lie. -/
def hetznerRuntime : Text := "hetzner://runtime/"

/-- `mapping.get(key)`. -/
def getItem (mapping : JsonObject) (key : Text) : Json := (Json.field? key mapping).getD .null

/-- `str(mapping.get(key, ""))`. -/
def getText (mapping : JsonObject) (key : Text) : Text :=
  Json.pyStr ((Json.field? key mapping).getD (.str []))

/-- `value in choices` for a set of strings. -/
def isChoice (value : Json) (choices : List Text) : Except MemoryError Bool :=
  match value.isOneOf choices with
  | .ok known => .ok known
  | .error error => .error (.raised error)

/-- `_string_list`. -/
def stringList : Json → List Text
  | .arr items => items.filterMap fun
      | .str text => some text
      | _ => none
  | _ => []

/-- `_non_empty_string_list`. -/
def nonEmptyStringList (value : Json) : List Text := (stringList value).filter (strip · ≠ [])

/-- `sorted` without repetitions. -/
def sorted (texts : List Text) : List Text := texts.eraseDups.insertionSort (· ≤ ·)

/-- `[message]` under a condition. -/
def errorIf (condition : Bool) (message : Text) : List Text := if condition then [message] else []

/-- `_procedural_content_errors`. -/
def proceduralContentErrors (lower : Text → Text) (content : JsonObject) :
    Except MemoryError (List Text) := do
  let summary := lower (strip (getText content "summary"))
  let evidenceUris := nonEmptyStringList (getItem content "evidence_uris")
  let influenceKnown ← isChoice (getItem content "influence_class") proceduralAllowedEffects
  let allowedEffects := nonEmptyStringList (getItem content "allowed_effects")
  let forbiddenEffects := nonEmptyStringList (getItem content "forbidden_effects")
  let missingForbidden :=
    sorted
      (proceduralRequiredForbiddenEffects.filter fun effect => !forbiddenEffects.contains effect)
  let blockedKeys := sorted ((content.map Prod.fst).filter fun key =>
    (reflectionRejectionKeys ++ taskSubjectContentKeys).contains key)
  return errorIf (nonEmptyStringList (getItem content "applicability")).isEmpty
      "procedural lessons require applicability metadata" ++
    errorIf (evidenceUris.isEmpty || evidenceUris.any fun uri => !startsWith uri hetznerRuntime)
      "procedural lessons require Hetzner evidence_uris" ++
    errorIf (getItem content "authoritative" ≠ .bool false)
      "procedural lessons must set authoritative=false" ++
    errorIf (!influenceKnown) "procedural lesson influence_class is invalid" ++
    (if allowedEffects.isEmpty then [("procedural lessons require allowed_effects" : Text)]
      else errorIf (!allowedEffects.all proceduralAllowedEffects.contains)
        "procedural lesson allowed_effects include authority effects") ++
    errorIf (!missingForbidden.isEmpty)
      (("procedural lessons must forbid authority effects: " : Text) ++
        List.intercalate (", " : Text) missingForbidden) ++
    errorIf (!blockedKeys.isEmpty)
      (("procedural lessons must not contain raw, source, customer, private, " : Text) ++
        ("secret, or task-subject fields: " : Text) ++
          List.intercalate (", " : Text) blockedKeys) ++
    errorIf (secretLikeTerms.any (occursIn summary))
      "procedural lessons must not contain secret-like values" ++
    errorIf (taskSubjectLanguageTerms.any (occursIn summary))
      "procedural lessons must not contain task-subject content" ++
    errorIf (authorityLanguageTerms.any (occursIn summary))
      "procedural lessons must not contain authority-changing language" ++
    errorIf (getItem content "applies_to_all_tasks" = .bool true)
      "procedural lessons must not generalize to all tasks" ++
    errorIf
      ((["global", "all"] : List Text).contains (lower (getText content "generalization_scope")))
      "procedural lessons must not use unsafe generalization scope"

/-- `_classification_envelope_content`. -/
def classificationEnvelopeContent (content : JsonObject)
    (redactSensitiveData : Bool) : JsonObject :=
  let kept := content.filter fun entry => classificationEnvelopeContentKeys.contains entry.1
  if (Json.field? "redaction_status" kept).isSome then kept
  else
    let status : Text := if redactSensitiveData then "redacted" else "not_required"
    kept ++ [(("redaction_status" : Text), .str status)]

end MemoryCandidates

open MemoryCandidates

/-- Candidates, artifacts and the request bodies sent to `/memory/ingest`. -/
structure MemoryPlane where
  memoryCandidates : List JsonObject
  artifacts : JsonArtifactStore
  sent : List Json

namespace MemoryPlane

/-- `insert_memory_candidate`. -/
def insertMemoryCandidate (plane : MemoryPlane) (record : JsonObject) : MemoryPlane :=
  { plane with memoryCandidates := plane.memoryCandidates ++ [record] }

/-- Update the first record with the identifier. -/
def updateFirst (candidateId : Text) (change : JsonObject → JsonObject) :
    List JsonObject → Option (JsonObject × List JsonObject)
  | [] => none
  | record :: rest =>
      if getItem record "id" = .str candidateId then some (change record, change record :: rest)
      else (updateFirst candidateId change rest).map fun (updated, after) =>
        (updated, record :: after)

/-- `update_memory_candidate`. -/
def updateMemoryCandidate (plane : MemoryPlane) (candidateId : Text) (fields : JsonObject) :
    Except MemoryError JsonObject × MemoryPlane :=
  match updateFirst candidateId
    (fun record => fields.foldl (fun record field => Json.setField field.1 field.2 record) record)
    plane.memoryCandidates with
  | some (updated, memoryCandidates) => (.ok updated, { plane with memoryCandidates })
  | none => (.error (.raised ⟨.keyError, Json.quoteText candidateId, none⟩), plane)

end MemoryPlane

/-- The arguments of `extract_from_step`. -/
structure ExtractRequest where
  run : JsonObject
  sourceStep : JsonObject
  targetMemoryScopeId : Text
  content : JsonObject
  sensitivity : Text
  retentionPolicy : Text
  policyId : Text
  candidateClass : Text := promotableCandidateClass
  classificationReason : Option Text := none
  validatorId : Text := "memory-candidate-contract"
  candidateId : Option Text := none
  redactSensitiveData : Bool := true

/-- The identifiers that an extraction reads. -/
structure ExtractionIds where
  run : Json
  profile : Json
  step : Json
  identifier : Text

namespace ExtractRequest

variable (request : ExtractRequest)

/-- `classification_reason`, or the default one. -/
def reason : Text :=
  (request.classificationReason.filter (· ≠ [])).getD
    (("Candidate classified as " : Text) ++ request.candidateClass ++
      (" by extraction contract." : Text))

/-- `_validate_extractable_step`. -/
def validateExtractableStep : Except MemoryError Unit := do
  unless Json.equal (getItem request.sourceStep "run_id") (getItem request.run "id") do
    throw (.candidate "Memory candidate source step must belong to the run.")
  unless Json.equal (getItem request.sourceStep "status") (.str "succeeded") do
    throw (.candidate "Memory candidates can only be extracted from completed steps.")

/-- The checks of an extraction. -/
def validate : Except MemoryError Unit := do
  request.validateExtractableStep
  match getItem request.content "summary" with
  | .str (_ :: _) => pure ()
  | _ => throw (.candidate "Memory candidate content requires a non-empty summary.")
  unless sensitivities.contains request.sensitivity do
    throw (.candidate "Memory candidate sensitivity is invalid.")
  unless candidateClasses.contains request.candidateClass do
    throw (.candidate "Memory candidate class is invalid.")
  let unsupported := (request.content.map Prod.fst).filter fun key =>
    !classificationEnvelopeContentKeys.contains key
  unless unsupported.isEmpty do
    throw (.candidate (("Memory candidate content includes unsupported envelope fields: " : Text) ++
      List.intercalate (", " : Text) (sorted unsupported)))
  if strip request.reason = [] then
    throw (.candidate "Memory candidate classification reason is required.")

/-- The identifiers that an extraction reads, in order. -/
def readIds : Except MemoryError ExtractionIds :=
  match request.candidateId.filter (· ≠ []) with
  | some identifier => do
      let run ← Json.require request.run "id"
      let profile ← Json.require request.run "profile_id"
      let step ← Json.require request.sourceStep "id"
      return ⟨run, profile, step, identifier⟩
  | none => do
      let run ← Json.require request.run "id"
      let step ← Json.require request.sourceStep "id"
      let profile ← Json.require request.run "profile_id"
      return ⟨run, profile, step, slugId
        (run.pyStr ++ '-' :: step.pyStr ++ '-' :: request.targetMemoryScopeId) "mc"⟩

/-- What an extraction does before it writes. -/
def check : Except MemoryError ExtractionIds := do
  request.validate
  request.readIds

/-- Path parts of the content of a candidate. -/
def contentParts (ids : ExtractionIds) : List Text :=
  ["artifacts", ids.run.pyStr, "memory-candidates", ids.identifier]

/-- The content artifact. -/
def payload (ids : ExtractionIds) : Json :=
  let version : JsonObject := [("contract_version", .str "0.1.0")]
  let envelope := classificationEnvelopeContent request.content request.redactSensitiveData
  let source : JsonObject :=
    [("source_run_id", ids.run), ("source_profile_id", ids.profile), ("source_step_id", ids.step),
      ("target_memory_scope_id", .str request.targetMemoryScopeId),
      ("candidate_class", .str request.candidateClass),
      ("classification_reason", .str request.reason),
      ("promotion_route", .str ((promotionRoutes.lookup request.candidateClass).getD [])),
      ("sensitivity", .str request.sensitivity), ("retention_policy", .str request.retentionPolicy),
      ("policy_id", .str request.policyId), ("validator_id", .str request.validatorId)]
  .obj (version ++ envelope ++ source)

/-- The record of a candidate. -/
def record (ids : ExtractionIds) (contentUri createdAt : Text) : JsonObject :=
  [("id", .str ids.identifier), ("run_id", .str ids.run.pyStr),
    ("profile_id", .str ids.profile.pyStr), ("source_step_id", .str ids.step.pyStr),
    ("target_memory_scope_id", .str request.targetMemoryScopeId),
    ("candidate_class", .str request.candidateClass),
    ("classification_reason", .str request.reason), ("content_uri", .str contentUri),
    ("sensitivity", .str request.sensitivity), ("retention_policy", .str request.retentionPolicy),
    ("validator_status", .str "pending"), ("validator_id", .str request.validatorId),
    ("validation_reason", .null), ("policy_status", .str "pending"),
    ("policy_id", .str request.policyId), ("policy_reason", .null), ("created_at", .str createdAt)]

end ExtractRequest

/-- `extract_from_step`; the clock reads `now`. -/
def extractFromStep (redact : Json → Json) (now : Datetime) (request : ExtractRequest)
    (plane : MemoryPlane) : Except MemoryError JsonObject × MemoryPlane :=
  match request.check with
  | .error error => (.error error, plane)
  | .ok ids =>
      let payload := request.payload ids
      let (path, artifacts) := plane.artifacts.writeJson (ExtractRequest.contentParts ids)
        (if request.redactSensitiveData then redact payload else payload)
      let record := request.record ids (plane.artifacts.uriText path) (isoTimestamp now)
      (.ok record, { plane with artifacts }.insertMemoryCandidate record)

/-- What the safety compiler decides about a learned authority prior. -/
structure SafetyCompilerDecision where
  decision : Text
  automaticPromotionAllowed : Bool
  matchedPairIds : List Text

/-- `MemoryCandidateValidator`. -/
structure MemoryCandidateValidator where
  allowedMemoryScopeIds : List Text
  allowedPolicyIds : List Text
  /-- `SafetyCompiler.compile_learned_authority_prior`. -/
  safetyCompiler : Option (Json → List Text → Except MemoryError SafetyCompilerDecision) := none
  /-- `str.lower`. -/
  lower : Text → Text

/-- `MemoryCandidateValidationResult`. -/
structure MemoryCandidateValidationResult where
  candidate : JsonObject
  validatorStatus : Text
  policyStatus : Text
  validationReason : Text
  policyReason : Text

/-- `approved`. -/
def MemoryCandidateValidationResult.approved (result : MemoryCandidateValidationResult) : Bool :=
  result.validatorStatus = "approved" && result.policyStatus = "approved"

namespace MemoryCandidateValidator

/-- `required_fields` of a validation, sorted. -/
def requiredFields : List Text :=
  ["candidate_class", "classification_reason", "content_uri", "id", "policy_id", "profile_id",
    "retention_policy", "run_id", "sensitivity", "source_step_id", "target_memory_scope_id",
    "validator_id"]

/-- `_non_promotable_candidate_reason`. -/
def nonPromotableCandidateReason (candidateClass : Text) : Text :=
  let reasons : List (Text × Text) :=
    [("task_subject_fact",
        ("task-subject facts must be proposed through scoped knowledge records, " : Text) ++
          ("not promoted to Agent Memory" : Text)),
      ("runtime_evidence", ("runtime evidence must remain in the Hetzner Runtime Plane, " : Text) ++
        ("not promoted to Agent Memory" : Text)),
      ("knowledge_record_proposal",
        ("knowledge record proposals require the knowledge approval path, " : Text) ++
          ("not Agent Memory promotion" : Text)),
      ("rejected", "rejected candidates cannot be promoted to Agent Memory")]
  (reasons.lookup candidateClass).getD "candidate_class is not promotable to Agent Memory"

variable (validator : MemoryCandidateValidator)

/-- The errors of the content beside a candidate. -/
def contentErrors (candidate : JsonObject) (content : Option JsonObject) :
    Except MemoryError (List Text) :=
  match content with
  | none => .ok []
  | some content => do
      let missing := errorIf (strip (getText content "summary") = []) "content summary is required"
      if getItem candidate "candidate_class" = .str promotableCandidateClass then
        let errors ← proceduralContentErrors validator.lower content
        return missing ++ errors
      else return missing

/-- `_validation_errors`. -/
def validationErrors (candidate : JsonObject) (content : Option JsonObject) :
    Except MemoryError (List Text) := do
  let sensitivityKnown ← isChoice (getItem candidate "sensitivity") sensitivities
  let candidateClass := getItem candidate "candidate_class"
  let classKnown ← isChoice candidateClass candidateClasses
  let contentErrors ← validator.contentErrors candidate content
  return requiredFields.filter (fun field => (Json.field? field candidate).isNone) ++
    errorIf (getItem candidate "sensitivity" = .str "secret")
      "secret candidates must not be promoted to Cloudflare memory" ++
    errorIf (!sensitivityKnown) "sensitivity is invalid" ++
    (if classKnown then errorIf (candidateClass ≠ .str promotableCandidateClass)
        (nonPromotableCandidateReason candidateClass.pyStr)
      else [("candidate_class is invalid" : Text)]) ++
    errorIf (strip (getText candidate "classification_reason") = [])
      "classification_reason is required" ++
    errorIf (!startsWith (getText candidate "content_uri") hetznerRuntime)
      "content_uri must point to a Hetzner runtime artifact" ++
    contentErrors

/-- The errors of a learned authority prior. -/
def authorityErrors (content : Option JsonObject) : Except MemoryError (List Text) :=
  match content, validator.safetyCompiler with
  | some content, some compile => do
      let learnedPrior := getItem content "learned_context_authority_prior"
      if learnedPrior.isMapping then
        let decision ←
          compile learnedPrior (stringList (getItem content "reviewed_policy_artifacts"))
        let pairText := List.intercalate (", " : Text) decision.matchedPairIds
        return errorIf (!decision.automaticPromotionAllowed)
          (("semantic drift guard blocked learned authority (" : Text) ++ decision.decision ++
            ("; matched_pairs=" : Text) ++ (if pairText = [] then ("none" : Text) else pairText) ++
            [')'])
      else return []
  | _, _ => .ok []

/-- `_policy_errors`. -/
def policyErrors (candidate : JsonObject) (content : Option JsonObject) :
    Except MemoryError (List Text) := do
  let scopeAllowed ←
    isChoice (getItem candidate "target_memory_scope_id") validator.allowedMemoryScopeIds
  let policyAllowed ← isChoice (getItem candidate "policy_id") validator.allowedPolicyIds
  let authorityErrors ← validator.authorityErrors content
  return errorIf (!scopeAllowed) "target memory scope is not allowed" ++
    errorIf (!policyAllowed) "policy is not allowed" ++ authorityErrors

/-- The verdict of a validation, for the updated candidate. -/
def verdict (validationErrors policyErrors : List Text) (candidate : JsonObject) :
    MemoryCandidateValidationResult where
  candidate := candidate
  validatorStatus := if validationErrors.isEmpty then "approved" else "rejected"
  policyStatus :=
    if policyErrors.isEmpty && validationErrors.isEmpty then "approved" else "rejected"
  validationReason :=
    if validationErrors.isEmpty then
      "Candidate has provenance, scoped memory target, and acceptable sensitivity."
    else List.intercalate ("; " : Text) validationErrors
  policyReason :=
    if policyErrors.isEmpty then "Policy allows the target memory scope for this candidate."
    else List.intercalate ("; " : Text) policyErrors

/-- The fields that a validation writes. -/
def verdictFields (result : MemoryCandidateValidationResult) : JsonObject :=
  [("validator_status", .str result.validatorStatus),
    ("validation_reason", .str result.validationReason),
    ("policy_status", .str result.policyStatus), ("policy_reason", .str result.policyReason)]

/-- The errors of a candidate, and its identifier. -/
def check (candidate : JsonObject) (content : Option JsonObject) :
    Except MemoryError (List Text × List Text × Json) := do
  let validationErrors ← validator.validationErrors candidate content
  let policyErrors ← validator.policyErrors candidate content
  let id ← Json.require candidate "id"
  return (validationErrors, policyErrors, id)

/-- `validate`. -/
def validate (candidate : JsonObject) (content : Option JsonObject) (plane : MemoryPlane) :
    Except MemoryError MemoryCandidateValidationResult × MemoryPlane :=
  match validator.check candidate content with
  | .error error => (.error error, plane)
  | .ok (validationErrors, policyErrors, id) =>
      match plane.updateMemoryCandidate id.pyStr
        (verdictFields (verdict validationErrors policyErrors [])) with
      | (.error error, after) => (.error error, after)
      | (.ok updated, after) => (.ok (verdict validationErrors policyErrors updated), after)

end MemoryCandidateValidator

/-- `MemoryFeedbackPipeline` with its client. -/
structure MemoryFeedbackPipeline where
  ingestMemory : Json → Except MemoryError Json
  contractVersion : Text := "0.1.0"

namespace MemoryFeedbackPipeline

/-- `required_fields` of a submission, sorted. -/
def requiredFields : List Text :=
  ["candidate_class", "content_uri", "id", "policy_status", "profile_id", "retention_policy",
    "run_id", "sensitivity", "target_memory_scope_id", "validator_status"]

/-- `_validate_candidate`. -/
def validateCandidate (candidate : JsonObject) : Except MemoryError Unit := do
  let missing := requiredFields.filter fun field => (Json.field? field candidate).isNone
  unless missing.isEmpty do
    throw (.feedback (("Memory candidate is missing fields: " : Text) ++
      List.intercalate (", " : Text) missing))
  unless getItem candidate "validator_status" = .str "approved" do
    throw (.feedback "Memory candidate validator_status must be approved.")
  unless getItem candidate "policy_status" = .str "approved" do
    throw (.feedback "Memory candidate policy_status must be approved.")
  unless getItem candidate "candidate_class" = .str promotableCandidateClass do
    throw (.feedback "Only procedural_lesson candidates can be submitted as Agent Memory.")

/-- The content that is sent: the consolidated content with the address of its artifact. -/
def sentContent (candidate consolidatedContent : JsonObject) : JsonObject :=
  Json.setField "source_artifact_uri" (.str (getText candidate "content_uri")) consolidatedContent

variable (pipeline : MemoryFeedbackPipeline)

/-- The request body. -/
def requestBody (candidate consolidatedContent : JsonObject) (version : Text) : Json :=
  .obj [("contract_version", .str pipeline.contractVersion),
    ("memory", .obj
      [("id", .str (getText candidate "id")),
        ("memory_scope_id", .str (getText candidate "target_memory_scope_id")),
        ("version", .str version), ("content", .obj (sentContent candidate consolidatedContent)),
        ("source_run_id", .str (getText candidate "run_id")),
        ("source_profile_id", .str (getText candidate "profile_id")),
        ("sensitivity", .str (getText candidate "sensitivity")),
        ("retention_policy", .str (getText candidate "retention_policy"))])]

/-- `submit_candidate`. -/
def submitCandidate (candidate consolidatedContent : JsonObject) (version : Text)
    (plane : MemoryPlane) : Except MemoryError Json × MemoryPlane :=
  match validateCandidate candidate with
  | .error error => (.error error, plane)
  | .ok () =>
      let body := pipeline.requestBody candidate consolidatedContent version
      (pipeline.ingestMemory body, { plane with sent := plane.sent ++ [body] })

end MemoryFeedbackPipeline

end SkillCentric
