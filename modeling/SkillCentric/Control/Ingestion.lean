import SkillCentric.Control.Statements

/-!
# Ingestion and embedding updates

`handleKnowledgeIngest` and `handleMemoryIngest` after the request body has passed its check, the
audit and job rows they write, and `processEmbeddingIndexMessage`, which a delivery of the queued
message runs.  A response with status 503 stands where the source answers that the embedding update
could not be queued.
-/

namespace SkillCentric.Control

open SkillCentric Slug

/-- What the handlers read of the Worker's environment besides its bindings. -/
structure Env where
  /-- `env.ENVIRONMENT`. -/
  environment : Text
  sha256Hex : Text → Text
  sha256Hex_length : ∀ text, (sha256Hex text).length = 64
  sha256Hex_digits : ∀ text, ∀ c ∈ sha256Hex text, isWordChar c

/-- A response: its status and its JSON body. -/
structure Response where
  status : Nat
  body : Json
  deriving DecidableEq

/-- `jsonResponse`. -/
def jsonResponse (body : List (Text × Json)) (status : Nat := 200) : Response := ⟨status, .obj body⟩

/-- `errorResponse`. -/
def errorResponse (status : Nat) (code message : Text) : Response :=
  ⟨status, .obj [("error", .obj [("code", .str code), ("message", .str message)])]⟩

/-- A request that went through. -/
def Response.accepted (response : Response) : Bool := response.status < 300

/-- White space of `trim()`. -/
def isTrimmed (c : Char) : Bool :=
  let n := c.toNat
  (9 ≤ n && n ≤ 13) || n == 32 || n == 0xA0 || n == 0x1680 || (0x2000 ≤ n && n ≤ 0x200A) ||
    n == 0x2028 || n == 0x2029 || n == 0x202F || n == 0x205F || n == 0x3000 || n == 0xFEFF

/-- `trim`. -/
def trim (text : Text) : Text := stripChars isTrimmed text

/-- `replaceAll("\r\n", "\n")`. -/
def unixLines : Text → Text
  | '\r' :: '\n' :: rest => '\n' :: unixLines rest
  | c :: rest => c :: unixLines rest
  | [] => []

/-- `normalizeKnowledgeContent`. -/
def normalizeKnowledgeContent (content : Text) : Text := trim (unixLines content) ++ ['\n']

/-- The loop of `chunkContent`; every turn drops at least one character, so the length of the text
is enough fuel. -/
def chunksFrom (maxChars : Nat) : Nat → Text → List Text
  | 0, _ => []
  | _, [] => []
  | fuel + 1, remaining =>
      trim (remaining.take maxChars) :: chunksFrom maxChars fuel (trim (remaining.drop maxChars))

/-- `chunkContent`. -/
def chunkContent (content : Text) (maxChars : Nat := 1200) : List Text :=
  match chunksFrom maxChars content.length (trim content) with
  | [] => [trim content]
  | chunks => chunks

/-- `versionPath`. -/
def versionPath (version : Text) : Text := 'v' :: version

/-- `versionId`. -/
def versionId (version : Text) : Text := version.map fun c => if c = '.' then '-' else c

/-- `r2Uri`. -/
def r2Uri (bucketName key : Text) : Text := "r2://".toList ++ bucketName ++ '/' :: key

/-- `r2KeyFromUri`. -/
def r2KeyFromUri (bucketName uri : Text) : Except Text Text :=
  let lead := r2Uri bucketName []
  if startsWith uri lead then return uri.drop lead.length
  else throw ("r2_uri_bucket_mismatch" : Text)

/-- The bucket's name in the environment. -/
def bucketName (env : Env) : Store → Text
  | .knowledge => "scas-knowledge-".toList ++ env.environment
  | .memory => "scas-memory-".toList ++ env.environment

/-- `new Date(Date.now() + 90 * 24 * 60 * 60 * 1000).toISOString()`. -/
def archiveAfter : Worker Text := do
  let time : Datetime ← perform .now
  return toISOString (time + 90 * 24 * 60 * 60 * 1000000)

def auditRetention : Text := "control-plane-audit-90d"

/-- The row of an audit event of its own. -/
def auditRow (env : Env) (eventType targetKind targetId timestamp archiveAfter : Text) :
    AuditEventRow where
  id := "audit-".toList ++ targetId ++ '-' :: eventType ++ '-' :: env.sha256Hex timestamp
  eventType
  actorId := "control-api"
  targetKind
  targetId
  createdAt := timestamp
  retentionPolicy := auditRetention
  archiveAfter
  archiveUri := none

/-- `writeAuditEvent`. -/
def writeAuditEvent (env : Env) (eventType targetKind targetId timestamp : Text) : Worker Unit := do
  let archiveAfter ← archiveAfter
  perform <| .replaceAuditEvent (auditRow env eventType targetKind targetId timestamp archiveAfter)

/-- The import job and audit ids of a target: its id and the day of the ingest. -/
def importId (lead targetId timestamp : Text) : Text :=
  lead ++ targetId ++ '-' :: versionId (timestamp.take 10)

/-- The row of an import job. -/
def importJobRow (jobType : JobType) (sourceUri : Text) (targetKind : EmbeddingTargetKind)
    (targetId timestamp : Text) : IngestionJobRow where
  id := importId "job-" targetId timestamp
  jobType
  status := .succeeded
  sourceUri
  targetKind := .embedding targetKind
  targetId
  attempts := 1
  createdAt := timestamp
  updatedAt := timestamp

/-- The row of an import's audit event. -/
def importAuditRow (jobType : JobType) (targetKind : EmbeddingTargetKind)
    (targetId timestamp archiveAfter : Text) : AuditEventRow where
  id := importId "audit-" targetId timestamp
  eventType := jobType.text ++ "_succeeded".toList
  actorId := "control-api"
  targetKind := targetKind.text
  targetId
  createdAt := timestamp
  retentionPolicy := auditRetention
  archiveAfter
  archiveUri := none

/-- `writeIngestionAudit`. -/
def writeIngestionAudit (jobType : JobType) (sourceUri : Text) (targetKind : EmbeddingTargetKind)
    (targetId timestamp : Text) : Worker Unit := do
  let archiveAfter ← archiveAfter
  perform <| .replaceImport (importJobRow jobType sourceUri targetKind targetId timestamp)
    (importAuditRow jobType targetKind targetId timestamp archiveAfter)

/-- `markEmbeddingJobFailed`. -/
def markEmbeddingJobFailed (env : Env) (jobId : Text) (targetKind : EmbeddingTargetKind)
    (targetId timestamp : Text) : Worker Unit := do
  perform <| .updateJob jobId .failed none timestamp
  writeAuditEvent env "embedding_update_failed" targetKind.text targetId timestamp

/-- The id of the embedding job of a target; targets of both kinds share it. -/
def embeddingJobId (targetId : Text) : Text := "ij-embedding-".toList ++ targetId

/-- The row of a queued embedding job. -/
def embeddingJobRow (targetKind : EmbeddingTargetKind) (targetId sourceUri timestamp : Text) :
    IngestionJobRow where
  id := embeddingJobId targetId
  jobType := .embeddingUpdate
  status := .queued
  sourceUri
  targetKind := .embedding targetKind
  targetId
  attempts := 0
  createdAt := timestamp
  updatedAt := timestamp

/-- `queueEmbeddingUpdate`. -/
def queueEmbeddingUpdate (env : Env) (targetKind : EmbeddingTargetKind)
    (targetId sourceUri timestamp : Text) : Worker Text := do
  let jobId := embeddingJobId targetId
  perform <| .replaceJob (embeddingJobRow targetKind targetId sourceUri timestamp)
  writeAuditEvent env "embedding_update_queued" targetKind.text targetId timestamp
  match ← (perform <| .send ⟨jobId, targetKind, targetId, sourceUri, timestamp⟩).attempt with
  | .ok _ => return jobId
  | .error error =>
      let failedAt ← nowIso
      markEmbeddingJobFailed env jobId targetKind targetId failedAt
      throw error

/-- The source part of a knowledge ingest. -/
structure KnowledgeSource where
  id : Id
  name : Text
  sourceType : SourceType
  uri : Text
  owner : Text
  sensitivity : Sensitivity

/-- The document part of a knowledge ingest. -/
structure KnowledgeDocument where
  id : Id
  version : Semver
  content : Text
  scopeId : Id

/-- `KnowledgeIngestRequest`; `proposal` holds the fields the manifest repeats. -/
structure KnowledgeIngestRequest where
  source : KnowledgeSource
  document : KnowledgeDocument
  proposal : Option Json

namespace KnowledgeIngestRequest

variable (env : Env) (body : KnowledgeIngestRequest)

def baseKey : Text :=
  "knowledge/".toList ++ body.source.id.val ++ '/' :: body.document.id.val ++
    '/' :: versionPath body.document.version.val

def normalized : Text := normalizeKnowledgeContent body.document.content

def chunks : List Text := chunkContent body.normalized

def normalizedKey : Text := body.baseKey ++ "/normalized.md".toList

def chunksKey : Text := body.baseKey ++ "/chunks.jsonl".toList

def manifestKey : Text := body.baseKey ++ "/manifest.json".toList

def chunkKey (index : Nat) : Text :=
  body.baseKey ++ "/chunks/".toList ++ decimal index ++ ".json".toList

def contentUri : Text := r2Uri (bucketName env .knowledge) body.normalizedKey

def manifestUri : Text := r2Uri (bucketName env .knowledge) body.manifestKey

/-- One row of `chunkRows`. -/
def chunkRow (index : Nat) (chunk : Text) : KnowledgeChunkRow where
  id := "chunk-".toList ++ body.document.id.val ++ '-' :: decimal index
  documentId := body.document.id.val
  chunkIndex := index
  contentUri := r2Uri (bucketName env .knowledge) (body.chunkKey index)
  vectorId := "vec-".toList ++ body.document.id.val ++ '-' :: decimal index
  scopeId := body.document.scopeId.val
  tokenCount := max 1 ((chunk.length + 3) / 4)

/-- `chunkRows`, each with the content of its chunk. -/
def chunkRows : List (KnowledgeChunkRow × Text) :=
  body.chunks.zipIdx.map fun (chunk, index) => (body.chunkRow env index chunk, chunk)

/-- The object a chunk's content is stored as. -/
def chunkObject (row : KnowledgeChunkRow) (chunk : Text) : R2Object :=
  .json (.obj [("id", .str row.id), ("document_id", .str row.documentId),
    ("chunk_index", .int row.chunkIndex), ("content", .str chunk)])

/-- One line of the object that lists all chunks. -/
def chunkLine (row : KnowledgeChunkRow) (chunk : Text) : Json :=
  .obj [("id", .str row.id), ("document_id", .str row.documentId),
    ("chunk_index", .int row.chunkIndex), ("content_uri", .str row.contentUri),
    ("vector_id", .str row.vectorId), ("scope_id", .str row.scopeId),
    ("token_count", .int row.tokenCount), ("content", .str chunk)]

/-- The manifest of the document's version. -/
def manifest : Json :=
  let fields : List (Text × Json) :=
    [("source_id", .str body.source.id.val), ("document_id", .str body.document.id.val),
      ("version", .str body.document.version.val),
      ("checksum", .str (env.sha256Hex body.normalized)),
      ("normalized_uri", .str (body.contentUri env)),
      ("chunks_uri", .str (r2Uri (bucketName env .knowledge) body.chunksKey)),
      ("chunk_count", .int (body.chunkRows env).length)]
  .obj (fields ++ body.proposal.toList.map fun proposal => (("proposal" : Text), proposal))

/-- The source row the ingest writes. -/
def sourceRow : KnowledgeSourceRow where
  id := body.source.id.val
  name := body.source.name
  sourceType := body.source.sourceType
  uri := body.source.uri
  owner := body.source.owner
  sensitivity := body.source.sensitivity
  status := .active

/-- The document row the ingest writes. -/
def documentRow : KnowledgeDocumentRow where
  id := body.document.id.val
  sourceId := body.source.id.val
  version := body.document.version.val
  contentUri := body.contentUri env
  manifestUri := body.manifestUri env
  checksum := "sha256:".toList ++ env.sha256Hex body.normalized
  status := .active

end KnowledgeIngestRequest

/-- Run a program on every item of a list. -/
def forEach {α : Type} (items : List α) (body : α → Worker Unit) : Worker Unit :=
  match items with
  | [] => return ()
  | item :: rest => do
      body item
      forEach rest body

/-- The object writes of a knowledge ingest. -/
def storeKnowledge (env : Env) (body : KnowledgeIngestRequest) : Worker Unit := do
  perform <| .putObject .knowledge body.normalizedKey (.text body.normalized)
  perform <| .putObject .knowledge body.chunksKey
    (.jsonLines ((body.chunkRows env).map fun (row, chunk) =>
      KnowledgeIngestRequest.chunkLine row chunk))
  perform <| .putObject .knowledge body.manifestKey (.json (body.manifest env))
  forEach (body.chunkRows env) fun (row, chunk) =>
    perform <| .putObject .knowledge (body.chunkKey row.chunkIndex)
      (KnowledgeIngestRequest.chunkObject row chunk)

/-- The statements that write the document and its chunks. -/
def writeKnowledge (env : Env) (body : KnowledgeIngestRequest) : Worker Unit := do
  perform <| .replaceDocument body.sourceRow (body.documentRow env)
  perform <| .deleteChunks body.document.id.val
  forEach (body.chunkRows env) fun (row, _) => perform <| .insertChunk row

/-- `handleKnowledgeIngest`, on a request body that passed its check. -/
def handleKnowledgeIngest (env : Env) (body : KnowledgeIngestRequest) : Worker Response := do
  let timestamp ← nowIso
  let known : Bool ← perform <| .selectActiveModule body.document.scopeId.val .knowledgeScope
  if known = false then
    return errorResponse 403 "knowledge_scope_not_allowed"
      "document.scope_id must reference an active knowledge_scope module."
  storeKnowledge env body
  writeKnowledge env body
  writeIngestionAudit .knowledgeImport body.source.uri .knowledgeDocument body.document.id.val
    timestamp
  match ← (queueEmbeddingUpdate env .knowledgeDocument body.document.id.val body.source.uri
      timestamp).attempt with
  | .ok embeddingJobId =>
      return jsonResponse
        [("status", .str "succeeded"), ("document_id", .str body.document.id.val),
          ("content_uri", .str (body.contentUri env)),
          ("manifest_uri", .str (body.manifestUri env)),
          ("chunk_count", .int (body.chunkRows env).length),
          ("vector_status", .str "embedding_update_queued"),
          ("embedding_job_id", .str embeddingJobId)]
  | .error _ =>
      return errorResponse 503 "embedding_queue_unavailable"
        "Embedding update job could not be queued."

/-- `MemoryIngestRequest`. -/
structure MemoryIngestRequest where
  id : Id
  memoryScopeId : Id
  version : Semver
  content : Json
  sourceRunId : Id
  sourceProfileId : Id
  sensitivity : Sensitivity
  retentionPolicy : Id

namespace MemoryIngestRequest

variable (env : Env) (body : MemoryIngestRequest)

def baseKey : Text :=
  "memory/".toList ++ body.memoryScopeId.val ++ '/' :: body.id.val ++
    '/' :: versionPath body.version.val

def contentKey : Text := body.baseKey ++ "/content.json".toList

def manifestKey : Text := body.baseKey ++ "/manifest.json".toList

def contentUri : Text := r2Uri (bucketName env .memory) body.contentKey

def manifestUri : Text := r2Uri (bucketName env .memory) body.manifestKey

/-- The manifest of the record's version. -/
def manifest : Json :=
  .obj [("memory_id", .str body.id.val), ("memory_scope_id", .str body.memoryScopeId.val),
    ("version", .str body.version.val), ("source_run_id", .str body.sourceRunId.val),
    ("source_profile_id", .str body.sourceProfileId.val),
    ("sensitivity", .str body.sensitivity.text),
    ("retention_policy", .str body.retentionPolicy.val),
    ("content_uri", .str (body.contentUri env))]

/-- The row the ingest writes. -/
def memoryRow : MemoryRecordRow where
  id := body.id.val
  memoryScopeId := body.memoryScopeId.val
  version := body.version.val
  contentUri := body.contentUri env
  manifestUri := body.manifestUri env
  sourceRunId := body.sourceRunId.val
  sourceProfileId := body.sourceProfileId.val
  sensitivity := body.sensitivity
  retentionPolicy := body.retentionPolicy.val
  status := .active

end MemoryIngestRequest

/-- `handleMemoryIngest`, on a request body that passed its check. -/
def handleMemoryIngest (env : Env) (body : MemoryIngestRequest) : Worker Response := do
  let timestamp ← nowIso
  let known : Bool ← perform <| .selectActiveModule body.memoryScopeId.val .memoryScope
  if known = false then
    return errorResponse 403 "memory_scope_not_allowed"
      "memory.memory_scope_id must reference an active memory_scope module."
  perform <| .putObject .memory body.contentKey (.json body.content)
  perform <| .putObject .memory body.manifestKey (.json (body.manifest env))
  perform <| .replaceMemoryRecord (body.memoryRow env)
  writeIngestionAudit .memoryImport (body.contentUri env) .memoryRecord body.id.val timestamp
  match ← (queueEmbeddingUpdate env .memoryRecord body.id.val (body.contentUri env)
      timestamp).attempt with
  | .ok embeddingJobId =>
      return jsonResponse
        [("status", .str "succeeded"), ("memory_id", .str body.id.val),
          ("content_uri", .str (body.contentUri env)),
          ("manifest_uri", .str (body.manifestUri env)),
          ("vector_status", .str "embedding_update_queued"),
          ("embedding_job_id", .str embeddingJobId)]
  | .error _ =>
      return errorResponse 503 "embedding_queue_unavailable"
        "Embedding update job could not be queued."

/-- `readR2Text`. -/
def readR2Text (env : Env) (bucket : Store) (uri : Text) : Worker R2Object := do
  let key ← Program.ofExcept (r2KeyFromUri (bucketName env bucket) uri)
  match ← perform <| .getObject bucket key with
  | some object => return object
  | none => throw ("r2_object_not_found" : Text)

/-- Read the objects of a list of URIs.  The source starts the reads together; they are taken here
in the order of the list. -/
def readAll (env : Env) (bucket : Store) : List Text → Worker (List R2Object)
  | [] => return []
  | uri :: rest => do
      let object ← readR2Text env bucket uri
      let objects ← readAll env bucket rest
      return object :: objects

/-- The vector of a chunk. -/
def chunkVector (chunk : KnowledgeChunkRow) (values : Embedding) : VectorizeVector where
  id := chunk.vectorId
  values
  metadata := [("document_id", chunk.documentId), ("chunk_id", chunk.id),
    ("scope_id", chunk.scopeId), ("content_uri", chunk.contentUri),
    ("target_kind", "knowledge_chunk")]

/-- `indexKnowledgeDocument`. -/
def indexKnowledgeDocument (env : Env) (documentId : Text) : Worker Nat := do
  let chunks ← perform <| .selectDocumentChunks documentId
  if chunks.isEmpty then throw ("knowledge_document_has_no_active_chunks" : Text)
  let inputs ← readAll env .knowledge (chunks.map (·.contentUri))
  let embeddings ← perform <| .embed inputs
  perform <| .upsertVectors .knowledge (List.zipWith chunkVector chunks embeddings)
  return chunks.length

/-- The vector id of a memory record. -/
def memoryVectorId (memoryId : Text) : Text := "vec-".toList ++ memoryId

/-- The vector of a memory record. -/
def memoryVector (memory : MemoryRecordRow) (values : Embedding) : VectorizeVector where
  id := memoryVectorId memory.id
  values
  metadata := [("memory_record_id", memory.id), ("memory_scope_id", memory.memoryScopeId),
    ("content_uri", memory.contentUri), ("source_run_id", memory.sourceRunId),
    ("target_kind", "memory_record")]

/-- `indexMemoryRecord`. -/
def indexMemoryRecord (env : Env) (memoryId : Text) : Worker Nat := do
  match ← perform <| .selectMemoryRecord memoryId with
  | none => throw ("memory_record_not_active" : Text)
  | some memory =>
      let input ← readR2Text env .memory memory.contentUri
      match ← perform <| .embed [input] with
      | [] => throw ("embedding_response_missing_memory_vector" : Text)
      | embedding :: _ =>
          perform <| .upsertVectors .memory [memoryVector memory embedding]
          return 1

/-- What a processed message reports. -/
inductive EmbeddingOutcome where
  | succeeded (vectorCount : Nat)
  | skipped
  deriving DecidableEq, Repr

/-- Index the target of a message. -/
def indexTarget (env : Env) (message : EmbeddingIndexMessage) : Worker Nat :=
  match message.targetKind with
  | .knowledgeDocument => indexKnowledgeDocument env message.targetId
  | .memoryRecord => indexMemoryRecord env message.targetId

/-- The part of `processEmbeddingIndexMessage` inside its `try`. -/
def updateIndex (env : Env) (jobId : Text) (message : EmbeddingIndexMessage) :
    Worker EmbeddingOutcome := do
  let vectorCount ← indexTarget env message
  let succeededAt ← nowIso
  perform <| .updateJob jobId .succeeded none succeededAt
  writeAuditEvent env "embedding_update_succeeded" message.targetKind.text message.targetId
    succeededAt
  return .succeeded vectorCount

/-- `processEmbeddingIndexMessage`. -/
def processEmbeddingIndexMessage (env : Env) (message : EmbeddingIndexMessage) :
    Worker EmbeddingOutcome := do
  match ← perform <| .selectJob message.jobId with
  | none => throw ("embedding_job_not_found" : Text)
  | some job =>
      if job.jobType ≠ .embeddingUpdate ∨ job.targetKind ≠ .embedding message.targetKind ∨
          job.targetId ≠ message.targetId then
        throw ("embedding_job_mismatch" : Text)
      if job.status = .succeeded then return .skipped
      let runningAt ← nowIso
      perform <| .updateJob job.id .running (some (job.attempts + 1)) runningAt
      match ← (updateIndex env job.id message).attempt with
      | .ok outcome => return outcome
      | .error error =>
          let failedAt ← nowIso
          markEmbeddingJobFailed env job.id message.targetKind message.targetId failedAt
          throw error

/-- One message of the `queue` handler: acknowledged once it is processed, left in the queue for
another delivery when processing it fails. -/
def deliver (env : Env) (number : Nat) (message : EmbeddingIndexMessage) :
    Worker EmbeddingOutcome := do
  let outcome ← processEmbeddingIndexMessage env message
  perform <| .ack number
  return outcome

end SkillCentric.Control
