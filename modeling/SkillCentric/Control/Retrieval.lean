import SkillCentric.Control.Statements
import SkillCentric.Control.Validators

/-!
# Retrieval

`handleRetrievalContext` after authorization: the scopes a principal may read, the rows of these
scopes, and the matches of the vector indexes that are of a returned row.  What an index answers to
a query is a parameter.
-/

namespace SkillCentric.Control

open SkillCentric

namespace ModuleKind

/-- The kind as the database has it. -/
def text : ModuleKind → Text
  | .skill => "skill"
  | .instruction => "instruction"
  | .tool => "tool"
  | .knowledgeScope => "knowledge_scope"
  | .dataScope => "data_scope"
  | .memoryScope => "memory_scope"
  | .policy => "policy"
  | .validator => "validator"

/-- `SCOPE_KINDS.has(kind)`. -/
def isScope : ModuleKind → Bool
  | .knowledgeScope | .dataScope | .memoryScope => true
  | _ => false

end ModuleKind

/-- The principal a request is made for. -/
structure Principal where
  kind : PrincipalKind
  id : Text
  deriving DecidableEq

/-- `ScopeBinding`. -/
structure ScopeBinding where
  scopeId : Text
  scopeKind : ModuleKind
  policyId : Text
  effect : Effect
  deriving DecidableEq

/-- `ORDER BY first ASC, second ASC`. -/
def inOrder {α β γ : Type} [LinearOrder β] [LinearOrder γ] (first : α → β) (second : α → γ)
    (left right : α) : Bool :=
  first left ≤ first right && (first left ≠ first right || second left ≤ second right)

/-- `loadScopeBindings`. -/
def loadScopeBindings (database : Database) (principal : Principal) : List ScopeBinding :=
  let selected := database.scopeBindings.rows.filter fun row =>
    row.principalKind = principal.kind && row.principalId = principal.id
  let ordered := selected.insertionSort fun left right =>
    inOrder (fun row => row.scopeKind.text) ScopeBindingRow.scopeId left right
  (ordered.filter fun row => row.scopeKind.isScope).map fun row =>
    ⟨row.scopeId, row.scopeKind, row.policyId, row.effect⟩

/-- `scopeBindingAllows`. -/
def scopeBindingAllows (scopeId : Text) (scopeBindings : List ScopeBinding) : Bool :=
  let bindings := scopeBindings.filter fun binding => binding.scopeId = scopeId
  !(bindings.any fun binding => binding.effect = .deny) &&
    bindings.any fun binding => binding.effect = .allow

/-- A value that the database does not take as a parameter. -/
def typeError : Text := "D1_TYPE_ERROR: Type 'object' not supported"

/-- A `LIMIT` that is not an integer. -/
def datatypeMismatch : Text := "D1_ERROR: datatype mismatch"

/-- `LIMIT ?`: an integral number. -/
def limitOf : Option Json → Except Text Nat
  | some (.int value) => .ok value.toNat
  | some (.float digits) =>
      if (Json.floatInt digits).2 then .ok (Json.floatInt digits).1.toNat
      else .error datatypeMismatch
  | _ => .error datatypeMismatch

/-- `value.slice(0, number)` cuts the fraction off. -/
def sliceEnd : Option Json → Nat
  | some (.int value) => value.toNat
  | some (.float digits) => (Json.floatInt digits).1.toNat
  | _ => 0

/-- The chunks of a scope whose document is active. -/
def activeChunks (database : Database) (scopeId : Text) : List KnowledgeChunkRow :=
  (database.knowledgeChunks.rows.filter fun chunk =>
    chunk.scopeId = scopeId && database.isActiveDocument chunk.documentId).insertionSort
      fun left right => inOrder KnowledgeChunkRow.documentId KnowledgeChunkRow.chunkIndex left right

/-- The active memory records of a scope. -/
def activeMemory (database : Database) (scopeId : Text) : List MemoryRecordRow :=
  (database.memoryRecords.rows.filter fun memory =>
    memory.memoryScopeId = scopeId && memory.status = .active).insertionSort
      fun left right => left.id ≤ right.id

/-- The rows of several scopes, each selected under the same limit. -/
def selectScopes {ρ : Type} (select : Text → List ρ) (topK : Option Json) :
    List Text → Except Text (List ρ)
  | [] => return []
  | scopeId :: rest => do
      let limit ← limitOf topK
      let rows ← selectScopes select topK rest
      return (select scopeId).take limit ++ rows

/-- `vector_id` of a memory record. -/
def retrievedVectorId (memory : MemoryRecordRow) : Text := ("vec-" : Text) ++ memory.id

/-- `VectorizeMatch`. -/
structure VectorizeMatch where
  id : Text
  score : Text
  metadata : List (Text × Text)
  deriving DecidableEq

/-- The arguments of a query of a vector index. -/
structure VectorizeQuery where
  embedding : Json
  topK : Option Json
  filterField : Text
  scopeIds : List Text

/-- The answers of the vector indexes. -/
abbrev VectorIndexes := Store → VectorizeQuery → Except Text (List VectorizeMatch)

/-- The matches of one index; nothing is asked without a scope. -/
def askIndex (indexes : VectorIndexes) (store : Store) (query : VectorizeQuery) :
    Except Text (List VectorizeMatch) :=
  if query.scopeIds.isEmpty then .ok [] else indexes store query

/-- One index of `queryVectorize`: only matches of allowed vectors are kept. -/
def queryIndex (indexes : VectorIndexes) (store : Store) (query : VectorizeQuery)
    (allowedVectorIds : List Text) : Except Text (List VectorizeMatch) := do
  let found ← askIndex indexes store query
  return found.filter fun found => allowedVectorIds.contains found.id

/-- `queryVectorize` on one index, for a body with an embedding. -/
def queryVectorize (indexes : VectorIndexes) (body : Json) (store : Store) (filterField : Text)
    (scopeIds allowedVectorIds : List Text) : Except Text (List VectorizeMatch) :=
  match body.get? "query_embedding" with
  | none => .ok []
  | some embedding =>
      queryIndex indexes store ⟨embedding, body.get? "top_k", filterField, scopeIds⟩
        allowedVectorIds

/-- The answer to a retrieval request.  Chunks and memory records are sent with constant fields
that say what they are, and a memory record with its vector id. -/
structure RetrievalResponse where
  query : Json
  vectorizeStatus : Text
  allowedKnowledgeScopeIds : List Text
  allowedMemoryScopeIds : List Text
  knowledgeChunks : List KnowledgeChunkRow
  memoryRecords : List MemoryRecordRow
  knowledgeMatches : List VectorizeMatch
  memoryMatches : List VectorizeMatch
  deriving DecidableEq

/-- The strings of an array. -/
def stringsOf : Option Json → List Text
  | some (.arr items) => items.map stringOf
  | _ => []

/-- The principal of a request as the database takes it: an array that `String` turns into a kind
is no parameter. -/
def principalOf (body : Json) : Except Text Principal :=
  let principal := body.get? "principal"
  let id := ((property principal "id").map stringOf).getD []
  match property principal "kind" with
  | some (.str kind) =>
      if kind = ("role" : Text) then .ok ⟨.role, id⟩
      else if kind = ("user" : Text) then .ok ⟨.user, id⟩
      else .ok ⟨.service, id⟩
  | _ => .error typeError

/-- The requested scopes that the principal may read. -/
def allowedScopes (database : Database) (principal : Principal) (requested : Option Json) :
    List Text :=
  (stringsOf requested).filter fun scopeId =>
    scopeBindingAllows scopeId (loadScopeBindings database principal)

/-- The answer to a principal. -/
def retrieveFor (principal : Principal) (database : Database) (indexes : VectorIndexes)
    (body : Json) :
    Except Text RetrievalResponse := do
  let topK := body.get? "top_k"
  let allowedKnowledgeScopes := allowedScopes database principal (body.get? "knowledge_scope_ids")
  let allowedMemoryScopes := allowedScopes database principal (body.get? "memory_scope_ids")
  let knowledgeChunks ← selectScopes (activeChunks database) topK allowedKnowledgeScopes
  let memoryRecords ← selectScopes (activeMemory database) topK allowedMemoryScopes
  let boundedKnowledgeChunks := knowledgeChunks.take (sliceEnd topK)
  let boundedMemoryRecords := memoryRecords.take (sliceEnd topK)
  let knowledgeMatches ← queryVectorize indexes body .knowledge "scope_id" allowedKnowledgeScopes
    (boundedKnowledgeChunks.map KnowledgeChunkRow.vectorId)
  let memoryMatches ← queryVectorize indexes body .memory "memory_scope_id" allowedMemoryScopes
    (boundedMemoryRecords.map retrievedVectorId)
  return {
    query := (body.get? "query").getD .null
    vectorizeStatus := if (body.get? "query_embedding").isNone then "d1_prefilter_ready"
      else "vectorize_query_post_validated"
    allowedKnowledgeScopeIds := allowedKnowledgeScopes
    allowedMemoryScopeIds := allowedMemoryScopes
    knowledgeChunks := boundedKnowledgeChunks
    memoryRecords := boundedMemoryRecords
    knowledgeMatches, memoryMatches }

/-- `handleRetrievalContext`: a body that fails validation is answered with the message. -/
def handleRetrievalContext (database : Database) (indexes : VectorIndexes) (body : Json) :
    Except Text RetrievalResponse :=
  match validateRetrievalRequest body with
  | some message => .error message
  | none => do
      let principal ← principalOf body
      retrieveFor principal database indexes body

/-- The variables and bindings of `Env` that an answer mentions. -/
structure RetrievalEnv where
  environment : Option Text
  knowledgeIndex : Bool
  memoryIndex : Bool

/-- The texts as an array. -/
def jsonStrings (texts : List Text) : Json := .arr (texts.map .str)

/-- A chunk with the fields that say what it is. -/
def KnowledgeChunkRow.toJson (chunk : KnowledgeChunkRow) : Json :=
  .obj
    [("record_kind", .str "knowledge_record"), ("context_kind", .str "factual_knowledge"),
      ("id", .str chunk.id), ("document_id", .str chunk.documentId),
      ("chunk_index", .int chunk.chunkIndex), ("content_uri", .str chunk.contentUri),
      ("vector_id", .str chunk.vectorId), ("scope_id", .str chunk.scopeId),
      ("token_count", .int chunk.tokenCount)]

/-- `MEMORY_ALLOWED_EFFECTS`. -/
def memoryAllowedEffects : List Text :=
  ["planner_hint", "retrieval_ranking", "composer_candidate_bias"]

/-- `MEMORY_FORBIDDEN_EFFECTS`. -/
def memoryForbiddenEffects : List Text :=
  ["tool_grant", "scope_grant", "policy_override", "validator_override", "profile_mutation",
    "runtime_authority"]

/-- A memory record with the fields that say what it is, and its vector id. -/
def MemoryRecordRow.toJson (memory : MemoryRecordRow) : Json :=
  .obj
    [("record_kind", .str "procedural_agent_memory"),
      ("instruction_status", .str "not_an_instruction"),
      ("authoritative", .bool false), ("allowed_effects", jsonStrings memoryAllowedEffects),
      ("forbidden_effects", jsonStrings memoryForbiddenEffects), ("id", .str memory.id),
      ("memory_scope_id", .str memory.memoryScopeId), ("version", .str memory.version),
      ("content_uri", .str memory.contentUri), ("manifest_uri", .str memory.manifestUri),
      ("source_run_id", .str memory.sourceRunId),
      ("source_profile_id", .str memory.sourceProfileId),
      ("sensitivity", .str memory.sensitivity.text),
      ("retention_policy", .str memory.retentionPolicy), ("status", .str memory.status.text),
      ("vector_id", .str (retrievedVectorId memory))]

/-- A match as the index returned it. -/
def VectorizeMatch.toJson (found : VectorizeMatch) : Json :=
  .obj
    [("id", .str found.id), ("score", .float found.score),
      ("metadata", .obj (found.metadata.map fun entry => (entry.1, .str entry.2)))]

/-- The body of the answer. -/
def RetrievalResponse.toJson (env : RetrievalEnv) (response : RetrievalResponse) : Json :=
  let environment := ((env.environment.filter fun name => !name.isEmpty).getD "dev" : Text)
  .obj
    [("contract_version", .str "0.1.0"), ("retrieval_status", .str "ready"),
      ("query", response.query),
      ("vectorize", .obj
        [("status", .str response.vectorizeStatus),
          ("knowledge_index", .str (("scas-knowledge-" : Text) ++ environment)),
          ("memory_index", .str (("scas-memory-" : Text) ++ environment)),
          ("bindings", .obj
            [("knowledge", .bool env.knowledgeIndex), ("memory", .bool env.memoryIndex)]),
          ("note", .str
            "D1 computes allowed IDs before Vectorize semantic lookup and post-validates Vectorize matches.")]),
      ("allowed_knowledge_scope_ids", jsonStrings response.allowedKnowledgeScopeIds),
      ("allowed_memory_scope_ids", jsonStrings response.allowedMemoryScopeIds),
      ("knowledge_chunks", .arr (response.knowledgeChunks.map KnowledgeChunkRow.toJson)),
      ("memory_records", .arr (response.memoryRecords.map MemoryRecordRow.toJson)),
      ("vectorize_matches", .obj
        [("knowledge", .arr (response.knowledgeMatches.map VectorizeMatch.toJson)),
          ("memory", .arr (response.memoryMatches.map VectorizeMatch.toJson))])]

end SkillCentric.Control
