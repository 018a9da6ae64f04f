import SkillCentric.Control.Rows
import SkillCentric.Library.Program

/-!
# Statements of the control API

Every `await` of a handler on one of its bindings is one atomic operation: a prepared statement, a
database batch, an object read or write, a call of the embedding model, of a vector index or of the
queue.  `execute` is its effect, with the constraints of the schema that can refuse it; a request
that finds the bindings down fails with the error at hand and changes nothing.
-/

namespace SkillCentric.Control

open SkillCentric

/-- Atomic operations of the handlers. -/
inductive Op where
  /-- `new Date()`. -/
  | now
  /-- `bucket.put`. -/
  | putObject (bucket : Store) (key : Text) (content : R2Object)
  /-- `bucket.get`. -/
  | getObject (bucket : Store) (key : Text)
  /-- Whether an active module of a kind exists. -/
  | selectActiveModule (id : Text) (kind : ModuleKind)
  /-- The batch of `INSERT OR REPLACE` into `knowledge_sources` and `knowledge_documents`. -/
  | replaceDocument (source : KnowledgeSourceRow) (document : KnowledgeDocumentRow)
  /-- `DELETE FROM knowledge_chunks WHERE document_id = ?`. -/
  | deleteChunks (documentId : Text)
  /-- `INSERT INTO knowledge_chunks`. -/
  | insertChunk (chunk : KnowledgeChunkRow)
  /-- `INSERT OR REPLACE INTO memory_records`. -/
  | replaceMemoryRecord (memory : MemoryRecordRow)
  /-- The batch of `INSERT OR REPLACE` into `ingestion_jobs` and `audit_events`. -/
  | replaceImport (job : IngestionJobRow) (event : AuditEventRow)
  /-- `INSERT OR REPLACE INTO ingestion_jobs`. -/
  | replaceJob (job : IngestionJobRow)
  /-- `UPDATE ingestion_jobs … WHERE id = ?`. -/
  | updateJob (id : Text) (status : JobStatus) (attempts : Option Nat) (updatedAt : Text)
  /-- `SELECT … FROM ingestion_jobs WHERE id = ?`. -/
  | selectJob (id : Text)
  /-- `INSERT OR REPLACE INTO audit_events`. -/
  | replaceAuditEvent (event : AuditEventRow)
  /-- `queue.send`. -/
  | send (message : EmbeddingIndexMessage)
  /-- `message.ack`. -/
  | ack (number : Nat)
  /-- The chunks of an active document, by chunk index. -/
  | selectDocumentChunks (documentId : Text)
  /-- The active memory record with an id. -/
  | selectMemoryRecord (id : Text)
  /-- The request to the embedding model. -/
  | embed (inputs : List R2Object)
  /-- `index.upsert`. -/
  | upsertVectors (index : Store) (vectors : List VectorizeVector)
  /-- `SELECT … FROM tenants WHERE id = ?`. -/
  | selectTenant (id : Text)
  /-- `SELECT … FROM tenant_hostnames WHERE tenant_id = ? AND hostname = ?`. -/
  | selectTenantHostname (tenantId hostname : Text)
  /-- The listed data sources that belong to a tenant. -/
  | selectTenantDataSources (tenantId : Text) (ids : List Text)
  /-- The listed role bundles of a tenant that users can be given. -/
  | selectAssignableRoles (tenantId : Text) (ids : List Text)
  /-- `SELECT tenant_id FROM tenant_memberships WHERE id = ?`. -/
  | selectMembershipTenant (id : Text)
  /-- The batch that inserts a role bundle and its grants. -/
  | insertRole (role : TenantRoleBundleRow) (capabilities : List TenantRoleCapabilityGrantRow)
      (dataSources : List TenantRoleDataSourceGrantRow)
  /-- `INSERT INTO tenant_memberships … ON CONFLICT(id) DO UPDATE`. -/
  | upsertMembership (membership : TenantMembershipRow)
  /-- `INSERT INTO tenant_data_sources`. -/
  | insertDataSource (dataSource : TenantDataSourceRow)
  deriving DecidableEq

/-- What an operation answers when it goes through. -/
def Op.Answer : Op → Type
  | .now => Datetime
  | .getObject _ _ => Option R2Object
  | .selectActiveModule _ _ => Bool
  | .selectJob _ => Option IngestionJobRow
  | .selectDocumentChunks _ => List KnowledgeChunkRow
  | .selectMemoryRecord _ => Option MemoryRecordRow
  | .embed _ => List Embedding
  | .selectTenant _ => Option TenantRow
  | .selectTenantHostname _ _ => Option TenantHostnameRow
  | .selectTenantDataSources _ _ => List Text
  | .selectAssignableRoles _ _ => List Text
  | .selectMembershipTenant _ => Option Text
  | .putObject _ _ _ | .replaceDocument _ _ | .deleteChunks _ | .insertChunk _
  | .replaceMemoryRecord _ | .replaceImport _ _ | .replaceJob _ | .updateJob _ _ _ _
  | .replaceAuditEvent _ | .send _ | .ack _ | .upsertVectors _ _ | .insertRole _ _ _
  | .upsertMembership _ | .insertDataSource _ => Unit

/-- An operation answers or fails. -/
abbrev Op.Reply (op : Op) : Type := Except Text op.Answer

def foreignKeyFailed : Text := "D1_ERROR: FOREIGN KEY constraint failed"

def uniqueFailed : Text := "D1_ERROR: UNIQUE constraint failed"

namespace Database

variable (database : Database)

/-- Documents that share the unique index over source and version with a new one. -/
def clashesWith (document old : KnowledgeDocumentRow) : Bool :=
  old.sourceId = document.sourceId && old.version = document.version

/-- Replace a source and a document.  Deleting another document of the same source and version is
refused while chunks refer to it. -/
def replaceDocument (source : KnowledgeSourceRow) (document : KnowledgeDocumentRow) :
    Except Text Database :=
  let documents := database.knowledgeDocuments.replace document (clashesWith document)
  if database.knowledgeDocuments.rows.any fun old =>
      old.id ≠ document.id && clashesWith document old &&
        database.knowledgeChunks.rows.any fun chunk => chunk.documentId = old.id then
    throw foreignKeyFailed
  else
    return { database with
      knowledgeSources := database.knowledgeSources.replace source fun _ => false
      knowledgeDocuments := documents }

/-- Insert a chunk: its document and scope exist, its id, vector and index are free. -/
def insertChunk (chunk : KnowledgeChunkRow) : Except Text Database :=
  if (database.knowledgeDocuments.find? chunk.documentId).isNone ||
      (database.modules.find? chunk.scopeId).isNone then
    throw foreignKeyFailed
  else if database.knowledgeChunks.rows.any fun old =>
      old.vectorId = chunk.vectorId ||
        (old.documentId = chunk.documentId && old.chunkIndex = chunk.chunkIndex) then
    throw uniqueFailed
  else
    match database.knowledgeChunks.insert? chunk with
    | some chunks => return { database with knowledgeChunks := chunks }
    | none => throw uniqueFailed

/-- Replace a memory record, whose scope exists. -/
def replaceMemoryRecord (memory : MemoryRecordRow) : Except Text Database :=
  if (database.modules.find? memory.memoryScopeId).isNone then throw foreignKeyFailed
  else return { database with
    memoryRecords := database.memoryRecords.replace memory fun _ => false }

def replaceJob (job : IngestionJobRow) : Database :=
  { database with ingestionJobs := database.ingestionJobs.replace job fun _ => false }

def replaceAuditEvent (event : AuditEventRow) : Database :=
  { database with auditEvents := database.auditEvents.replace event fun _ => false }

def updateJob (id : Text) (status : JobStatus) (attempts : Option Nat)
    (updatedAt : Text) : Database :=
  { database with
    ingestionJobs := database.ingestionJobs.update
      (fun job =>
        if job.id = id then
          { job with status, attempts := attempts.getD job.attempts, updatedAt }
        else job)
      (by
        intro job
        split <;> rfl) }

/-- The document is there and active. -/
def isActiveDocument (documentId : Text) : Bool :=
  (database.knowledgeDocuments.find? documentId).any fun document => document.status = .active

/-- The chunks of an active document, by chunk index. -/
def documentChunks (documentId : Text) : List KnowledgeChunkRow :=
  (database.knowledgeChunks.rows.filter fun chunk =>
    chunk.documentId = documentId && database.isActiveDocument documentId).insertionSort
      fun left right => left.chunkIndex ≤ right.chunkIndex

def activeMemoryRecord (id : Text) : Option MemoryRecordRow :=
  (database.memoryRecords.find? id).filter fun memory => memory.status = .active

/-- Append grants one after the other under the primary key and a second unique index. -/
def insertGrants {ρ : Type} [Keyed ρ Text] (unique : ρ → ρ → Bool) (table : Table ρ) :
    List ρ → Except Text (Table ρ)
  | [] => return table
  | grant :: rest =>
      if table.rows.any (unique grant) then throw uniqueFailed
      else
        match table.insert? grant with
        | some after => insertGrants unique after rest
        | none => throw uniqueFailed

/-- Insert a role bundle and its grants.  The tenant exists, the granted data sources belong to
it. -/
def insertRole (role : TenantRoleBundleRow) (capabilities : List TenantRoleCapabilityGrantRow)
    (dataSources : List TenantRoleDataSourceGrantRow) : Except Text Database :=
  if (database.tenants.find? role.tenantId).isNone ||
      dataSources.any fun grant =>
        (database.tenantDataSources.find? grant.dataSourceId).all fun source =>
          source.tenantId ≠ grant.tenantId then
    throw foreignKeyFailed
  else
    let capabilityGrants := insertGrants
      (fun grant old => old.tenantId = grant.tenantId && old.roleBundleId = grant.roleBundleId &&
        old.capabilityId = grant.capabilityId)
      database.tenantRoleCapabilityGrants capabilities
    let dataSourceGrants := insertGrants
      (fun grant old => old.tenantId = grant.tenantId && old.roleBundleId = grant.roleBundleId &&
        old.dataSourceId = grant.dataSourceId)
      database.tenantRoleDataSourceGrants dataSources
    match database.tenantRoleBundles.insert? role, capabilityGrants, dataSourceGrants with
    | some roles, .ok capabilityGrants, .ok dataSourceGrants =>
        return { database with
          tenantRoleBundles := roles
          tenantRoleCapabilityGrants := capabilityGrants
          tenantRoleDataSourceGrants := dataSourceGrants }
    | _, _, _ => throw uniqueFailed

/-- The row an upsert leaves under an id that was taken. -/
def overwriteMembership (membership old : TenantMembershipRow) : TenantMembershipRow :=
  { old with
    principalId := membership.principalId
    status := membership.status
    roleIds := membership.roleIds
    updatedAt := membership.updatedAt }

/-- Insert a membership or, when its id is taken, overwrite the principal, status and roles stored
under the id.  The tenant of the stored row is neither compared nor changed; a second membership of
one principal in one tenant is refused. -/
def upsertMembership (membership : TenantMembershipRow) : Except Text Database :=
  let stored := database.tenantMemberships.find? membership.id
  let tenantId := (stored.map (·.tenantId)).getD membership.tenantId
  if stored.isNone && (database.tenants.find? membership.tenantId).isNone then
    throw foreignKeyFailed
  else if database.tenantMemberships.rows.any fun old =>
      old.id ≠ membership.id && old.tenantId = tenantId &&
        old.principalId = membership.principalId then
    throw uniqueFailed
  else
    return { database with
      tenantMemberships := database.tenantMemberships.upsert membership
        (overwriteMembership membership) fun _ => rfl }

def insertDataSource (dataSource : TenantDataSourceRow) : Except Text Database :=
  if (database.tenants.find? dataSource.tenantId).isNone then throw foreignKeyFailed
  else
    match database.tenantDataSources.insert? dataSource with
    | some sources => return { database with tenantDataSources := sources }
    | none => throw uniqueFailed

variable {database} {after : Database}

theorem replaceDocument_ok {source : KnowledgeSourceRow} {document : KnowledgeDocumentRow}
    (went : database.replaceDocument source document = .ok after) :
    (∀ old ∈ database.knowledgeDocuments, old.id ≠ document.id → clashesWith document old = true →
        ∀ chunk ∈ database.knowledgeChunks, chunk.documentId ≠ old.id) ∧
      after = { database with
        knowledgeSources := database.knowledgeSources.replace source fun _ => false
        knowledgeDocuments :=
          database.knowledgeDocuments.replace document (clashesWith document) } := by
  unfold replaceDocument at went
  dsimp only at went
  split at went
  · cases went
  · rename_i unreferenced
    cases went
    refine ⟨fun old member differ clash chunk chunk_member same => unreferenced ?_, rfl⟩
    rw [List.any_eq_true]
    refine ⟨old, member, ?_⟩
    simp only [Bool.and_eq_true, List.any_eq_true, decide_eq_true_eq]
    exact ⟨⟨differ, clash⟩, chunk, chunk_member, same⟩

theorem insertChunk_ok {chunk : KnowledgeChunkRow} (went : database.insertChunk chunk = .ok after) :
    ∃ document chunks, database.knowledgeDocuments.find? chunk.documentId = some document ∧
      chunks.rows = database.knowledgeChunks.rows ++ [chunk] ∧
      after = { database with knowledgeChunks := chunks } := by
  unfold insertChunk at went
  split at went
  · cases went
  · rename_i referred
    split at went
    · cases went
    · split at went
      · rename_i chunks inserted
        cases went
        simp only [Bool.or_eq_true, not_or, Option.isNone_iff_eq_none] at referred
        obtain ⟨document, found⟩ := Option.ne_none_iff_exists'.mp referred.1
        exact ⟨document, chunks, found, (Table.insert?_eq_some inserted).2, rfl⟩
      · cases went

theorem replaceMemoryRecord_ok {memory : MemoryRecordRow}
    (went : database.replaceMemoryRecord memory = .ok after) :
    after =
      { database with memoryRecords := database.memoryRecords.replace memory fun _ => false } := by
  unfold replaceMemoryRecord at went
  split at went <;> cases went
  rfl

theorem insertGrants_ok {ρ : Type} [Keyed ρ Text] {unique : ρ → ρ → Bool} {table after : Table ρ}
    {grants : List ρ} (went : insertGrants unique table grants = .ok after) :
    after.rows = table.rows ++ grants := by
  induction grants generalizing table with
  | nil =>
      cases went
      simp
  | cons grant rest ih =>
      simp only [insertGrants] at went
      split at went
      · cases went
      · split at went
        · rename_i middle inserted
          rw [ih went, (Table.insert?_eq_some inserted).2]
          simp
        · cases went

theorem insertRole_ok {role : TenantRoleBundleRow}
    {capabilities : List TenantRoleCapabilityGrantRow}
    {dataSources : List TenantRoleDataSourceGrantRow}
    (went : database.insertRole role capabilities dataSources = .ok after) :
    ∃ roles capabilityGrants dataSourceGrants,
      roles.rows = database.tenantRoleBundles.rows ++ [role] ∧
      capabilityGrants.rows = database.tenantRoleCapabilityGrants.rows ++ capabilities ∧
      dataSourceGrants.rows = database.tenantRoleDataSourceGrants.rows ++ dataSources ∧
      after = { database with
        tenantRoleBundles := roles
        tenantRoleCapabilityGrants := capabilityGrants
        tenantRoleDataSourceGrants := dataSourceGrants } := by
  unfold insertRole at went
  split at went
  · cases went
  · dsimp only at went
    split at went
    · rename_i roles capabilityGrants dataSourceGrants inserted granted sourced
      cases went
      exact ⟨roles, capabilityGrants, dataSourceGrants, (Table.insert?_eq_some inserted).2,
        insertGrants_ok granted, insertGrants_ok sourced, rfl⟩
    · cases went

theorem upsertMembership_ok {membership : TenantMembershipRow}
    (went : database.upsertMembership membership = .ok after) :
    ∃ memberships : Table TenantMembershipRow,
      (∀ row, row ∈ memberships ↔
        (row ∈ database.tenantMemberships ∧ row.id ≠ membership.id) ∨
          (database.tenantMemberships.find? membership.id = none ∧ row = membership) ∨
          ∃ old, database.tenantMemberships.find? membership.id = some old ∧
            row = overwriteMembership membership old) ∧
      after = { database with tenantMemberships := memberships } := by
  unfold upsertMembership at went
  dsimp only at went
  split at went
  · cases went
  · split at went <;> cases went
    exact ⟨_, fun row => Table.mem_upsert, rfl⟩

theorem insertDataSource_ok {dataSource : TenantDataSourceRow}
    (went : database.insertDataSource dataSource = .ok after) :
    ∃ sources, sources.rows = database.tenantDataSources.rows ++ [dataSource] ∧
      after = { database with tenantDataSources := sources } := by
  unfold insertDataSource at went
  split at went
  · cases went
  · split at went
    · rename_i sources inserted
      cases went
      exact ⟨sources, (Table.insert?_eq_some inserted).2, rfl⟩
    · cases went

end Database

namespace ControlPlane

/-- Carry out a database statement that can be refused. -/
def attemptOn (plane : ControlPlane) (outcome : Except Text Database) :
    Except Text Unit × ControlPlane :=
  match outcome with
  | .ok database => (.ok (), { plane with database })
  | .error error => (.error error, plane)

end ControlPlane

/-- The effect of an operation while the bindings are up. -/
def execute : (op : Op) → ControlPlane → op.Reply × ControlPlane
  | .now, plane => (.ok plane.clock, plane)
  | .putObject bucket key content, plane =>
      (.ok (), { plane with
        buckets := Function.update plane.buckets bucket ((plane.buckets bucket).set key content) })
  | .getObject bucket key, plane => (.ok ((plane.buckets bucket).get? key), plane)
  | .selectActiveModule id kind, plane =>
      (.ok ((plane.database.modules.find? id).any fun row =>
        row.kind = kind && row.status = .active),
        plane)
  | .replaceDocument source document, plane =>
      plane.attemptOn (plane.database.replaceDocument source document)
  | .deleteChunks documentId, plane =>
      (.ok (), { plane with database := { plane.database with
        knowledgeChunks := plane.database.knowledgeChunks.delete fun chunk =>
          chunk.documentId = documentId } })
  | .insertChunk chunk, plane => plane.attemptOn (plane.database.insertChunk chunk)
  | .replaceMemoryRecord memory, plane =>
      plane.attemptOn (plane.database.replaceMemoryRecord memory)
  | .replaceImport job event, plane =>
      (.ok (), { plane with database := (plane.database.replaceJob job).replaceAuditEvent event })
  | .replaceJob job, plane => (.ok (), { plane with database := plane.database.replaceJob job })
  | .updateJob id status attempts updatedAt, plane =>
      (.ok (), { plane with database := plane.database.updateJob id status attempts updatedAt })
  | .selectJob id, plane => (.ok (plane.database.ingestionJobs.find? id), plane)
  | .replaceAuditEvent event, plane =>
      (.ok (), { plane with database := plane.database.replaceAuditEvent event })
  | .send message, plane =>
      (.ok (), { plane with
        ingestQueue := plane.ingestQueue ++ [(plane.sent, message)]
        sent := plane.sent + 1 })
  | .ack number, plane =>
      (.ok (), { plane with ingestQueue := plane.ingestQueue.filter fun entry => entry.1 ≠ number })
  | .selectDocumentChunks documentId, plane =>
    (.ok (plane.database.documentChunks documentId), plane)
  | .selectMemoryRecord id, plane => (.ok (plane.database.activeMemoryRecord id), plane)
  | .embed inputs, plane => (.ok (inputs.map Embedding.mk), plane)
  | .upsertVectors index vectors, plane =>
      (.ok (), { plane with
        indexes := Function.update plane.indexes index
          (vectors.foldl (fun dict vector => dict.set vector.id vector) (plane.indexes index)) })
  | .selectTenant id, plane => (.ok (plane.database.tenants.find? id), plane)
  | .selectTenantHostname tenantId hostname, plane =>
      (.ok (plane.database.tenantHostnames.rows.find? fun row =>
        row.tenantId = tenantId && row.hostname = hostname), plane)
  | .selectTenantDataSources tenantId ids, plane =>
      (.ok ((plane.database.tenantDataSources.rows.filter fun row =>
        row.tenantId = tenantId && ids.contains row.id).map (·.id)), plane)
  | .selectAssignableRoles tenantId ids, plane =>
      (.ok ((plane.database.tenantRoleBundles.rows.filter fun row =>
        row.tenantId = tenantId && row.assignableToUsers && ids.contains row.id).map (·.id)), plane)
  | .selectMembershipTenant id, plane =>
      (.ok ((plane.database.tenantMemberships.find? id).map (·.tenantId)), plane)
  | .insertRole role capabilities dataSources, plane =>
      plane.attemptOn (plane.database.insertRole role capabilities dataSources)
  | .upsertMembership membership, plane =>
      plane.attemptOn (plane.database.upsertMembership membership)
  | .insertDataSource dataSource, plane =>
      plane.attemptOn (plane.database.insertDataSource dataSource)

/-- The effect of an operation. -/
def exec (op : Op) (plane : ControlPlane) : op.Reply × ControlPlane :=
  match plane.fault with
  | some error => (.error error, plane)
  | none => execute op plane

/-- Handlers: programs over the operations that return or throw an error message. -/
abbrev Worker (α : Type) : Type := Program Op.Reply Text α

/-- Await an operation. -/
def perform (op : Op) : Worker op.Answer := do
  match ← Program.op op with
  | .ok answer => return answer
  | .error error => throw error

/-- `nowIso`. -/
def nowIso : Worker Text := do
  let time ← perform .now
  return toISOString time

end SkillCentric.Control
