import SkillCentric.Library.Dict
import SkillCentric.Library.Table
import SkillCentric.Runtime.TaskAnalyzer
import SkillCentric.Runtime.Timestamp

/-!
# The control plane's stores

The Worker keeps its state in a relational database, two object buckets, two vector indexes and a
message queue.  The rows follow the migrations column by column; columns with a fixed set of values
are enumerations, primary keys make each table a `Table`.  Identifiers of request bodies have
passed `isId` and versions `isSemver`, which their types record.
-/

namespace SkillCentric.Control

open SkillCentric Slug

/-- The pattern `[0-9]+`. -/
def isNumber (text : Text) : Bool := !text.isEmpty && text.all fun c => '0' ≤ c && c ≤ '9'

/-- `isSemver` on a string: the pattern `[0-9]+\.[0-9]+\.[0-9]+`. -/
def isSemver (text : Text) : Bool :=
  match text.splitOn '.' with
  | [major, minor, patch] => isNumber major && isNumber minor && isNumber patch
  | _ => false

/-- Strings that pass `isId`. -/
abbrev Id := { text : Text // TaskAnalyzer.isId text = true }

/-- Strings that pass `isSemver`. -/
abbrev Semver := { text : Text // isSemver text = true }

/-- `status` of registry modules, sources, documents and memory records. -/
inductive RecordStatus where
  | draft
  | active
  | deprecated
  | deleted
  deriving DecidableEq, Repr

inductive ModuleKind where
  | skill
  | instruction
  | tool
  | knowledgeScope
  | dataScope
  | memoryScope
  | policy
  | validator
  deriving DecidableEq, Repr

inductive SourceType where
  | repo
  | notion
  | r2
  | url
  | manual
  deriving DecidableEq, Repr

inductive Sensitivity where
  | public_
  | internal
  | confidential
  | secret
  deriving DecidableEq, Repr

inductive PrincipalKind where
  | role
  | user
  | service
  deriving DecidableEq, Repr

inductive Effect where
  | allow
  | deny
  deriving DecidableEq, Repr

inductive JobType where
  | knowledgeImport
  | memoryImport
  | embeddingUpdate
  | auditArchive
  deriving DecidableEq, Repr

inductive JobStatus where
  | queued
  | running
  | succeeded
  | failed
  deriving DecidableEq, Repr

/-- `EmbeddingTargetKind`: what an ingest writes and an embedding update indexes. -/
inductive EmbeddingTargetKind where
  | knowledgeDocument
  | memoryRecord
  deriving DecidableEq, Repr

/-- `target_kind` of an ingestion job. -/
inductive JobTargetKind where
  | embedding (kind : EmbeddingTargetKind)
  | auditArchive
  deriving DecidableEq, Repr

/-- The kind as audit events carry it. -/
def EmbeddingTargetKind.text : EmbeddingTargetKind → Text
  | .knowledgeDocument => "knowledge_document"
  | .memoryRecord => "memory_record"

/-- The job type as audit events carry it. -/
def JobType.text : JobType → Text
  | .knowledgeImport => "knowledge_import"
  | .memoryImport => "memory_import"
  | .embeddingUpdate => "embedding_update"
  | .auditArchive => "audit_archive"

/-- `sensitivity` as the database has it. -/
def Sensitivity.text : Sensitivity → Text
  | .public_ => "public"
  | .internal => "internal"
  | .confidential => "confidential"
  | .secret => "secret"

/-- `status` as the database has it. -/
def RecordStatus.text : RecordStatus → Text
  | .draft => "draft"
  | .active => "active"
  | .deprecated => "deprecated"
  | .deleted => "deleted"

structure ModuleRow where
  id : Text
  kind : ModuleKind
  status : RecordStatus
  deriving DecidableEq

structure KnowledgeSourceRow where
  id : Text
  name : Text
  sourceType : SourceType
  uri : Text
  owner : Text
  sensitivity : Sensitivity
  status : RecordStatus
  deriving DecidableEq

structure KnowledgeDocumentRow where
  id : Text
  sourceId : Text
  version : Text
  contentUri : Text
  manifestUri : Text
  checksum : Text
  status : RecordStatus
  deriving DecidableEq

structure KnowledgeChunkRow where
  id : Text
  documentId : Text
  chunkIndex : Nat
  contentUri : Text
  vectorId : Text
  scopeId : Text
  tokenCount : Nat
  deriving DecidableEq

structure MemoryRecordRow where
  id : Text
  memoryScopeId : Text
  version : Text
  contentUri : Text
  manifestUri : Text
  sourceRunId : Text
  sourceProfileId : Text
  sensitivity : Sensitivity
  retentionPolicy : Text
  status : RecordStatus
  deriving DecidableEq

structure ScopeBindingRow where
  id : Text
  scopeId : Text
  scopeKind : ModuleKind
  principalKind : PrincipalKind
  principalId : Text
  policyId : Text
  effect : Effect
  deriving DecidableEq

structure IngestionJobRow where
  id : Text
  jobType : JobType
  status : JobStatus
  sourceUri : Text
  targetKind : JobTargetKind
  targetId : Text
  attempts : Nat
  createdAt : Text
  updatedAt : Text
  deriving DecidableEq

structure AuditEventRow where
  id : Text
  eventType : Text
  actorId : Text
  targetKind : Text
  targetId : Text
  createdAt : Text
  retentionPolicy : Text
  archiveAfter : Text
  archiveUri : Option Text
  deriving DecidableEq

inductive TenantStatus where
  | setup
  | active
  | disabled
  | archived
  deriving DecidableEq, Repr

structure TenantRow where
  id : Text
  status : TenantStatus
  deriving DecidableEq

structure TenantHostnameRow where
  id : Text
  tenantId : Text
  hostname : Text
  deriving DecidableEq

inductive AccessMode where
  | read
  | write
  | administer
  deriving DecidableEq, Repr

inductive DataSourceType where
  | githubRepository
  | notionPageTree
  | googleDriveFolder
  | sharepointSite
  | hubspotAccount
  | website
  | database
  | other
  deriving DecidableEq, Repr

inductive DataSourceStatus where
  | planned
  | active
  | disabled
  | archived
  deriving DecidableEq, Repr

inductive DataSourceSensitivity where
  | public_
  | internal
  | confidential
  | restricted
  deriving DecidableEq, Repr

structure TenantDataSourceRow where
  id : Text
  tenantId : Text
  sourceType : DataSourceType
  displayName : Text
  accessModes : List AccessMode
  status : DataSourceStatus
  sensitivity : DataSourceSensitivity
  deriving DecidableEq

inductive RoleType where
  | system
  | tenantCustom
  deriving DecidableEq, Repr

/-- The module lists a role bundle stands for. -/
structure DerivedRuntimeModules where
  skills : List Text
  workflows : List Text
  tools : List Text
  policies : List Text
  validators : List Text
  deriving DecidableEq

structure TenantRoleBundleRow where
  id : Text
  tenantId : Text
  displayName : Text
  roleType : RoleType
  assignableToUsers : Bool
  derived : DerivedRuntimeModules
  deriving DecidableEq

inductive MembershipStatus where
  | invited
  | active
  | disabled
  deriving DecidableEq, Repr

structure TenantMembershipRow where
  id : Text
  tenantId : Text
  principalId : Text
  status : MembershipStatus
  roleIds : List Text
  createdAt : Text
  updatedAt : Text
  deriving DecidableEq

structure TenantRoleCapabilityGrantRow where
  id : Text
  tenantId : Text
  roleBundleId : Text
  capabilityId : Text
  deriving DecidableEq

structure TenantRoleDataSourceGrantRow where
  id : Text
  tenantId : Text
  roleBundleId : Text
  dataSourceId : Text
  accessModes : List AccessMode
  deriving DecidableEq

instance : Keyed ModuleRow Text := ⟨ModuleRow.id⟩
instance : Keyed KnowledgeSourceRow Text := ⟨KnowledgeSourceRow.id⟩
instance : Keyed KnowledgeDocumentRow Text := ⟨KnowledgeDocumentRow.id⟩
instance : Keyed KnowledgeChunkRow Text := ⟨KnowledgeChunkRow.id⟩
instance : Keyed MemoryRecordRow Text := ⟨MemoryRecordRow.id⟩
instance : Keyed ScopeBindingRow Text := ⟨ScopeBindingRow.id⟩
instance : Keyed IngestionJobRow Text := ⟨IngestionJobRow.id⟩
instance : Keyed AuditEventRow Text := ⟨AuditEventRow.id⟩
instance : Keyed TenantRow Text := ⟨TenantRow.id⟩
instance : Keyed TenantHostnameRow Text := ⟨TenantHostnameRow.id⟩
instance : Keyed TenantDataSourceRow Text := ⟨TenantDataSourceRow.id⟩
instance : Keyed TenantRoleBundleRow Text := ⟨TenantRoleBundleRow.id⟩
instance : Keyed TenantMembershipRow Text := ⟨TenantMembershipRow.id⟩
instance : Keyed TenantRoleCapabilityGrantRow Text := ⟨TenantRoleCapabilityGrantRow.id⟩
instance : Keyed TenantRoleDataSourceGrantRow Text := ⟨TenantRoleDataSourceGrantRow.id⟩

/-- The control database. -/
structure Database where
  modules : Table ModuleRow := .empty
  knowledgeSources : Table KnowledgeSourceRow := .empty
  knowledgeDocuments : Table KnowledgeDocumentRow := .empty
  knowledgeChunks : Table KnowledgeChunkRow := .empty
  memoryRecords : Table MemoryRecordRow := .empty
  scopeBindings : Table ScopeBindingRow := .empty
  ingestionJobs : Table IngestionJobRow := .empty
  auditEvents : Table AuditEventRow := .empty
  tenants : Table TenantRow := .empty
  tenantHostnames : Table TenantHostnameRow := .empty
  tenantDataSources : Table TenantDataSourceRow := .empty
  tenantRoleBundles : Table TenantRoleBundleRow := .empty
  tenantMemberships : Table TenantMembershipRow := .empty
  tenantRoleCapabilityGrants : Table TenantRoleCapabilityGrantRow := .empty
  tenantRoleDataSourceGrants : Table TenantRoleDataSourceGrantRow := .empty

instance : Inhabited Database := ⟨{}⟩

/-- An object of a bucket: a text, the `JSON.stringify` of a value, or one such line per value. -/
inductive R2Object where
  | text (content : Text)
  | json (value : Json)
  | jsonLines (values : List Json)
  deriving DecidableEq

/-- What the embedding model answers for an input.  Its numbers are read by nobody but the vector
index, so an embedding is identified by the input it was computed from. -/
structure Embedding where
  input : R2Object
  deriving DecidableEq

/-- A vector of an index. -/
structure VectorizeVector where
  id : Text
  values : Embedding
  metadata : List (Text × Text)
  deriving DecidableEq

/-- `EmbeddingIndexMessage`. -/
structure EmbeddingIndexMessage where
  jobId : Text
  targetKind : EmbeddingTargetKind
  targetId : Text
  sourceUri : Text
  queuedAt : Text
  deriving DecidableEq

/-- The knowledge stores and the memory stores have the same shape. -/
inductive Store where
  | knowledge
  | memory
  deriving DecidableEq, Repr

/-- Everything the Worker is bound to.  `fault` is the error every request to a binding fails with
at the moment, if the bindings are down. -/
structure ControlPlane where
  clock : Datetime := 0
  fault : Option Text := none
  database : Database := {}
  buckets : Store → Dict Text R2Object := fun _ => .empty
  indexes : Store → Dict Text VectorizeVector := fun _ => .empty
  ingestQueue : List (Nat × EmbeddingIndexMessage) := []
  sent : Nat := 0

instance : Inhabited ControlPlane := ⟨{}⟩

/-- `Date.prototype.toISOString`. -/
def toISOString (time : Datetime) : Text :=
  let seconds := time / 1000000
  let (year, month, day) := Datetime.civil (seconds / 86400)
  let inDay := seconds % 86400
  (if year < 10000 then Datetime.padded 4 year else '+' :: Datetime.padded 6 year) ++
    '-' :: Datetime.padded 2 month ++ '-' :: Datetime.padded 2 day ++
    'T' :: Datetime.padded 2 (inDay / 3600) ++ ':' :: Datetime.padded 2 (inDay % 3600 / 60) ++
    ':' :: Datetime.padded 2 (inDay % 60) ++
      '.' :: Datetime.padded 3 (time % 1000000 / 1000) ++ ['Z']

example : toISOString 63918493200250000 = ("2026-07-01T09:00:00.250Z" : Text) := by decide

end SkillCentric.Control
