import SkillCentric.Control.Contracts

/-!
# Footprints of the handlers

`MayPerform` lists, for each request, the statements its handler can perform, with what is known of
their arguments.  It is proved once from the handlers; facts about whole classes of statements are
read off it by cases.
-/

namespace SkillCentric.Control

open SkillCentric Program

/-- The writes of a knowledge ingest to the stores that hold its document. -/
inductive KnowledgeWrite (env : Env) (body : KnowledgeIngestRequest) : Op → Prop
  | object (key : Text) (content : R2Object) (below : body.baseKey <+: key) :
      KnowledgeWrite env body (.putObject .knowledge key content)
  | document : KnowledgeWrite env body (.replaceDocument body.sourceRow (body.documentRow env))
  | clear : KnowledgeWrite env body (.deleteChunks body.document.id.val)
  | chunk (row : KnowledgeChunkRow) (content : Text)
    (member : (row, content) ∈ body.chunkRows env) :
      KnowledgeWrite env body (.insertChunk row)

/-- The writes of a memory ingest to the stores that hold its record. -/
inductive MemoryWrite (env : Env) (body : MemoryIngestRequest) : Op → Prop
  | object (key : Text) (content : R2Object) (below : body.baseKey <+: key) :
      MemoryWrite env body (.putObject .memory key content)
  | record : MemoryWrite env body (.replaceMemoryRecord (body.memoryRow env))

/-- The statements by which an ingest reports itself and queues the update of its target. -/
inductive ReportOp (env : Env) (kind : EmbeddingTargetKind) (targetId : Text) : Op → Prop
  | clock : ReportOp env kind targetId .now
  | imported (jobType : JobType) (sourceUri timestamp archiveAfter : Text)
      (stamped : Stamp timestamp) :
      ReportOp env kind targetId
        (.replaceImport (importJobRow jobType sourceUri kind targetId timestamp)
          (importAuditRow jobType kind targetId timestamp archiveAfter))
  | queued (sourceUri timestamp : Text) :
      ReportOp env kind targetId (.replaceJob (embeddingJobRow kind targetId sourceUri timestamp))
  | send (sourceUri timestamp : Text) :
      ReportOp env kind targetId
        (.send ⟨embeddingJobId targetId, kind, targetId, sourceUri, timestamp⟩)
  | failed (timestamp : Text) :
      ReportOp env kind targetId (.updateJob (embeddingJobId targetId) .failed none timestamp)
  | audit (eventType timestamp archiveAfter : Text) (plain : '-' ∉ eventType) :
      ReportOp env kind targetId
        (.replaceAuditEvent (auditRow env eventType kind.text targetId timestamp archiveAfter))

/-- The statements of a delivery. -/
inductive DeliveryOp (env : Env) (number : Nat) (message : EmbeddingIndexMessage) : Op → Prop
  | clock : DeliveryOp env number message .now
  | selectJob : DeliveryOp env number message (.selectJob message.jobId)
  | updateJob (status : JobStatus) (attempts : Option Nat) (timestamp : Text) :
      DeliveryOp env number message (.updateJob message.jobId status attempts timestamp)
  | chunks : DeliveryOp env number message (.selectDocumentChunks message.targetId)
  | memory : DeliveryOp env number message (.selectMemoryRecord message.targetId)
  | object (bucket : Store) (key : Text) : DeliveryOp env number message (.getObject bucket key)
  | embed (inputs : List R2Object) : DeliveryOp env number message (.embed inputs)
  | chunkVectors (rows : List KnowledgeChunkRow) (embeddings : List Embedding)
      (kind : message.targetKind = .knowledgeDocument)
      (own : ∀ row ∈ rows, row.documentId = message.targetId) :
      DeliveryOp env number message
        (.upsertVectors .knowledge (List.zipWith chunkVector rows embeddings))
  | memoryVector (memory : MemoryRecordRow) (embedding : Embedding)
      (kind : message.targetKind = .memoryRecord) (own : memory.id = message.targetId) :
      DeliveryOp env number message (.upsertVectors .memory [memoryVector memory embedding])
  | audit (eventType timestamp archiveAfter : Text) (plain : '-' ∉ eventType) :
      DeliveryOp env number message
        (.replaceAuditEvent
          (auditRow env eventType message.targetKind.text message.targetId timestamp archiveAfter))
  | ack : DeliveryOp env number message (.ack number)

/-- The statements of a tenant administration request. -/
inductive AdminOp (env : Env) (tenantId : Text) : TenantAdminRequest → Op → Prop
  | clock {request : TenantAdminRequest} : AdminOp env tenantId request .now
  | tenant {request : TenantAdminRequest} : AdminOp env tenantId request (.selectTenant tenantId)
  | hostname {request : TenantAdminRequest} (id hostname : Text) :
      AdminOp env tenantId request (.selectTenantHostname id hostname)
  | dataSources {request : TenantAdminRequest} (ids : List Text) :
      AdminOp env tenantId request (.selectTenantDataSources tenantId ids)
  | assignableRoles {request : TenantAdminRequest} (ids : List Text) :
      AdminOp env tenantId request (.selectAssignableRoles tenantId ids)
  | membershipTenant (body : TenantAdminMembershipUpsertRequest) :
      AdminOp env tenantId (.upsertMembership body) (.selectMembershipTenant body.id.val)
  | role (body : TenantAdminRoleCreateRequest) :
      AdminOp env tenantId (.createRole body)
        (.insertRole (body.roleRow tenantId) (body.capabilityRows tenantId)
          (body.dataSourceRows tenantId))
  | membership (body : TenantAdminMembershipUpsertRequest) (timestamp : Text) :
      AdminOp env tenantId (.upsertMembership body)
        (.upsertMembership (body.membershipRow tenantId timestamp))
  | dataSource (body : TenantAdminDataSourceCreateRequest) (row : TenantDataSourceRow)
      (own : row.tenantId = tenantId) :
      AdminOp env tenantId (.createDataSource body) (.insertDataSource row)
  | audit {request : TenantAdminRequest}
    (eventType targetKind targetId timestamp archiveAfter : Text)
      (plain : '-' ∉ eventType) :
      AdminOp env tenantId request
        (.replaceAuditEvent (auditRow env eventType targetKind targetId timestamp archiveAfter))

/-- The statements a request can perform. -/
inductive MayPerform (env : Env) : Request → Op → Prop
  | knowledgeScope (body : KnowledgeIngestRequest) :
      MayPerform env (.knowledgeIngest body)
        (.selectActiveModule body.document.scopeId.val .knowledgeScope)
  | knowledge {body : KnowledgeIngestRequest} {op : Op} (write : KnowledgeWrite env body op) :
      MayPerform env (.knowledgeIngest body) op
  | knowledgeReport {body : KnowledgeIngestRequest} {op : Op}
      (report : ReportOp env .knowledgeDocument body.document.id.val op) :
      MayPerform env (.knowledgeIngest body) op
  | memoryScope (body : MemoryIngestRequest) :
      MayPerform env (.memoryIngest body) (.selectActiveModule body.memoryScopeId.val .memoryScope)
  | memory {body : MemoryIngestRequest} {op : Op} (write : MemoryWrite env body op) :
      MayPerform env (.memoryIngest body) op
  | memoryReport {body : MemoryIngestRequest} {op : Op}
      (report : ReportOp env .memoryRecord body.id.val op) : MayPerform env (.memoryIngest body) op
  | admin {tenantId : Id} {hostname : Text} {request : TenantAdminRequest} {op : Op}
      (admin : AdminOp env tenantId.val request op) :
      MayPerform env (.tenantAdmin tenantId hostname request) op
  | delivery {number : Nat} {message : EmbeddingIndexMessage} {op : Op}
      (delivery : DeliveryOp env number message op) : MayPerform env (.delivery number message) op

variable {env : Env}

theorem yields_queueEmbeddingUpdate (env : Env) (kind : EmbeddingTargetKind)
    (targetId sourceUri timestamp : Text) :
    (queueEmbeddingUpdate env kind targetId sourceUri timestamp).Yields exec
      (ReportOp env kind targetId) fun _ => True := by
  refine yields_seq (yields_perform (.queued sourceUri timestamp)) fun _ => ?_
  refine yields_seq (yields_writeAuditEvent env _ _ _ _ .clock
    fun archiveAfter => .audit _ _ _ (by decide)) fun _ => ?_
  refine yields_bind (yields_attempt (yields_perform (.send sourceUri timestamp))) fun sent _ => ?_
  cases sent with
  | ok _ => exact yields_pure trivial
  | error error =>
      refine yields_seq (yields_nowIso .clock) fun failedAt => ?_
      refine yields_seq ?_ fun _ => yields_throw
      refine yields_seq (yields_perform (.failed failedAt)) fun _ => ?_
      exact yields_writeAuditEvent env _ _ _ _ .clock fun archiveAfter => .audit _ _ _ (by decide)

theorem yields_writeIngestionAudit (env : Env) (jobType : JobType) (sourceUri : Text)
    (kind : EmbeddingTargetKind) (targetId : Text) {timestamp : Text} (stamped : Stamp timestamp) :
    (writeIngestionAudit jobType sourceUri kind targetId timestamp).Yields exec
      (ReportOp env kind targetId) fun _ => True :=
  yields_seq (yields_archiveAfter .clock) fun archiveAfter =>
    yields_perform (.imported jobType sourceUri timestamp archiveAfter stamped)

namespace KnowledgeIngestRequest

variable (body : KnowledgeIngestRequest)

theorem baseKey_normalizedKey : body.baseKey <+: body.normalizedKey := List.prefix_append _ _

theorem baseKey_chunksKey : body.baseKey <+: body.chunksKey := List.prefix_append _ _

theorem baseKey_manifestKey : body.baseKey <+: body.manifestKey := List.prefix_append _ _

theorem baseKey_chunkKey (index : Nat) : body.baseKey <+: body.chunkKey index := by
  simp only [chunkKey, List.append_assoc]
  exact List.prefix_append _ _

end KnowledgeIngestRequest

theorem yields_storeKnowledge (env : Env) (body : KnowledgeIngestRequest) :
    (storeKnowledge env body).Yields exec (KnowledgeWrite env body) fun _ => True := by
  refine yields_seq (yields_perform (.object _ _ body.baseKey_normalizedKey)) fun _ => ?_
  refine yields_seq (yields_perform (.object _ _ body.baseKey_chunksKey)) fun _ => ?_
  refine yields_seq (yields_perform (.object _ _ body.baseKey_manifestKey)) fun _ => ?_
  exact yields_forEach fun item _ => yields_perform (.object _ _ (body.baseKey_chunkKey _))

theorem yields_writeKnowledge (env : Env) (body : KnowledgeIngestRequest) :
    (writeKnowledge env body).Yields exec (KnowledgeWrite env body) fun _ => True := by
  refine yields_seq (yields_perform .document) fun _ => ?_
  refine yields_seq (yields_perform .clear) fun _ => ?_
  exact yields_forEach fun item member => yields_perform (.chunk item.1 item.2 member)

theorem yields_handleKnowledgeIngest (env : Env) (body : KnowledgeIngestRequest) :
    (handleKnowledgeIngest env body).Yields exec (MayPerform env (.knowledgeIngest body))
      fun _ => True := by
  have write {op : Op} (write : KnowledgeWrite env body op) :
      MayPerform env (.knowledgeIngest body) op := .knowledge write
  have report {op : Op} (report : ReportOp env .knowledgeDocument body.document.id.val op) :
      MayPerform env (.knowledgeIngest body) op := .knowledgeReport report
  refine yields_bind (yields_nowIso_stamp (report .clock)) fun timestamp stamped => ?_
  refine yields_seq (yields_perform (.knowledgeScope body)) fun known => ?_
  split
  · exact yields_pure trivial
  · refine yields_seq
      ((yields_storeKnowledge env body).mono (fun _ => write) fun _ => id) fun _ => ?_
    refine yields_seq
      ((yields_writeKnowledge env body).mono (fun _ => write) fun _ => id) fun _ => ?_
    refine yields_seq
      ((yields_writeIngestionAudit env _ _ _ _ stamped).mono (fun _ => report) fun _ => id)
      fun _ => ?_
    refine yields_bind (yields_attempt ((yields_queueEmbeddingUpdate env _ _ _ _).mono
      (fun _ => report) fun _ => id)) fun queued _ => ?_
    cases queued <;> exact yields_pure trivial

theorem MemoryIngestRequest.baseKey_contentKey (body : MemoryIngestRequest) :
    body.baseKey <+: body.contentKey := List.prefix_append _ _

theorem MemoryIngestRequest.baseKey_manifestKey (body : MemoryIngestRequest) :
    body.baseKey <+: body.manifestKey := List.prefix_append _ _

theorem yields_handleMemoryIngest (env : Env) (body : MemoryIngestRequest) :
    (handleMemoryIngest env body).Yields exec (MayPerform env (.memoryIngest body))
      fun _ => True := by
  have write {op : Op} (write : MemoryWrite env body op) :
      MayPerform env (.memoryIngest body) op := .memory write
  have report {op : Op} (report : ReportOp env .memoryRecord body.id.val op) :
      MayPerform env (.memoryIngest body) op := .memoryReport report
  refine yields_bind (yields_nowIso_stamp (report .clock)) fun timestamp stamped => ?_
  refine yields_seq (yields_perform (.memoryScope body)) fun known => ?_
  split
  · exact yields_pure trivial
  · refine yields_seq (yields_perform (write (.object _ _ body.baseKey_contentKey))) fun _ => ?_
    refine yields_seq (yields_perform (write (.object _ _ body.baseKey_manifestKey))) fun _ => ?_
    refine yields_seq (yields_perform (write .record)) fun _ => ?_
    refine yields_seq
      ((yields_writeIngestionAudit env _ _ _ _ stamped).mono (fun _ => report) fun _ => id)
      fun _ => ?_
    refine yields_bind (yields_attempt ((yields_queueEmbeddingUpdate env _ _ _ _).mono
      (fun _ => report) fun _ => id)) fun queued _ => ?_
    cases queued <;> exact yields_pure trivial

theorem yields_perform_answer {op : Op} {p : Op → Prop} {answered : op.Answer → Prop} (holds : p op)
    (answers : ∀ plane answer after, exec op plane = (.ok answer, after) → answered answer) :
    (perform op).Yields exec p answered := by
  have replies : (Program.op op : Worker op.Reply).Yields exec p fun reply =>
      ∀ answer, reply = .ok answer → answered answer :=
    yields_op holds fun plane answer replied => answers plane answer _ (Prod.ext replied rfl)
  refine yields_bind replies fun reply known => ?_
  cases reply with
  | ok answer => exact yields_pure (known answer rfl)
  | error error => exact yields_throw

section Delivery

variable (number : Nat) (message : EmbeddingIndexMessage)

theorem yields_readR2Text (bucket : Store) (uri : Text) :
    (readR2Text env bucket uri).Yields exec (DeliveryOp env number message) fun _ => True := by
  refine yields_seq (yields_ofExcept fun _ _ => trivial) fun key => ?_
  refine yields_seq (yields_perform (.object bucket key)) fun object => ?_
  cases object with
  | none => exact yields_throw
  | some object => exact yields_pure trivial

theorem yields_readAll (bucket : Store) (uris : List Text) :
    (readAll env bucket uris).Yields exec (DeliveryOp env number message) fun _ => True := by
  induction uris with
  | nil => exact yields_pure trivial
  | cons uri rest ih =>
      refine yields_seq (yields_readR2Text number message bucket uri) fun object => ?_
      exact yields_seq ih fun objects => yields_pure trivial

theorem mem_documentChunks {database : Database} {documentId : Text} {row : KnowledgeChunkRow} :
    row ∈ database.documentChunks documentId ↔
      row ∈ database.knowledgeChunks ∧ row.documentId = documentId ∧
        database.isActiveDocument documentId = true := by
  simp [Database.documentChunks, Table.mem_iff]

theorem yields_indexKnowledgeDocument (kind : message.targetKind = .knowledgeDocument) :
    (indexKnowledgeDocument env message.targetId).Yields exec (DeliveryOp env number message)
      fun _ => True := by
  have selected : (perform (.selectDocumentChunks message.targetId)).Yields exec
      (DeliveryOp env number message) fun rows : List KnowledgeChunkRow =>
        ∀ row ∈ rows, row.documentId = message.targetId := by
    refine yields_perform_answer .chunks fun plane answer after ran row member => ?_
    obtain ⟨-, executed⟩ := exec_ok ran
    cases executed
    exact (mem_documentChunks.mp member).2.1
  refine yields_bind selected fun rows own => ?_
  dsimp only
  split
  · exact yields_throw
  · refine yields_seq (yields_readAll number message .knowledge _) fun inputs => ?_
    refine yields_seq (yields_perform (.embed inputs)) fun embeddings => ?_
    refine yields_seq (yields_perform (.chunkVectors rows embeddings kind own)) fun _ => ?_
    exact yields_pure trivial

theorem yields_indexMemoryRecord (kind : message.targetKind = .memoryRecord) :
    (indexMemoryRecord env message.targetId).Yields exec (DeliveryOp env number message)
      fun _ => True := by
  have selected : (perform (.selectMemoryRecord message.targetId)).Yields exec
      (DeliveryOp env number message) fun found : Option MemoryRecordRow =>
        ∀ memory, found = some memory → memory.id = message.targetId := by
    refine yields_perform_answer .memory fun plane answer after ran memory found => ?_
    obtain ⟨-, executed⟩ := exec_ok ran
    cases executed
    obtain ⟨located, -⟩ := Option.filter_eq_some_iff.mp found
    exact (Table.find?_eq_some.mp located).2
  refine yields_bind selected fun found own => ?_
  cases found with
  | none => exact yields_throw
  | some memory =>
      refine yields_seq (yields_readR2Text number message .memory memory.contentUri) fun input => ?_
      refine yields_seq (yields_perform (.embed [input])) fun embeddings => ?_
      match embeddings with
      | [] => exact yields_throw
      | embedding :: _ =>
          exact yields_seq (yields_perform (.memoryVector memory embedding kind (own memory rfl)))
            fun _ => yields_pure trivial

theorem yields_updateIndex :
    (updateIndex env message.jobId message).Yields exec (DeliveryOp env number message)
      fun _ => True := by
  have indexed : (indexTarget env message).Yields exec (DeliveryOp env number message)
      fun _ => True := by
    unfold indexTarget
    split
    · exact yields_indexKnowledgeDocument number message ‹_›
    · exact yields_indexMemoryRecord number message ‹_›
  refine yields_seq indexed fun vectorCount => ?_
  refine yields_seq (yields_nowIso .clock) fun succeededAt => ?_
  refine yields_seq (yields_perform (.updateJob .succeeded none succeededAt)) fun _ => ?_
  refine yields_seq (yields_writeAuditEvent env _ _ _ _ .clock
    fun archiveAfter => .audit _ _ _ (by decide)) fun _ => ?_
  exact yields_pure trivial

theorem yields_processEmbeddingIndexMessage :
    (processEmbeddingIndexMessage env message).Yields exec (DeliveryOp env number message)
      fun _ => True := by
  have selected : (perform (.selectJob message.jobId)).Yields exec (DeliveryOp env number message)
      fun found : Option IngestionJobRow => ∀ job, found = some job → job.id = message.jobId := by
    refine yields_perform_answer .selectJob fun plane answer after ran job found => ?_
    obtain ⟨-, executed⟩ := exec_ok ran
    cases executed
    exact (Table.find?_eq_some.mp found).2
  refine yields_bind selected fun found own => ?_
  cases found with
  | none => exact yields_throw
  | some job =>
      dsimp only
      rw [own job rfl]
      split
      · exact yields_throw
      · split
        · exact yields_pure trivial
        · refine yields_seq (yields_nowIso .clock) fun runningAt => ?_
          refine yields_seq (yields_perform (.updateJob .running _ runningAt)) fun _ => ?_
          refine yields_bind (yields_attempt (yields_updateIndex number message))
            fun updated _ => ?_
          cases updated with
          | ok outcome => exact yields_pure trivial
          | error error =>
              refine yields_seq (yields_nowIso .clock) fun failedAt => ?_
              refine yields_seq ?_ fun _ => yields_throw
              refine yields_seq (yields_perform (.updateJob .failed none failedAt)) fun _ => ?_
              exact yields_writeAuditEvent env _ _ _ _ .clock
                fun archiveAfter => .audit _ _ _ (by decide)

theorem yields_deliver :
    (deliver env number message).Yields exec (DeliveryOp env number message) fun _ => True :=
  yields_seq (yields_processEmbeddingIndexMessage number message) fun _ =>
    yields_seq (yields_perform .ack) fun _ => yields_pure trivial

end Delivery

section Admin

variable {tenantId : Text}

theorem yields_requireAll {p : Op → Prop} {ids : List Text}
    {select : List Text → Worker (List Text)}
    (selects : ∀ ids, (select ids).Yields exec p fun _ => True) :
    (requireAll ids select).Yields exec p fun _ => True :=
  yields_seq (selects _) fun _ => yields_pure trivial

theorem yields_createTenantAdminRole (body : TenantAdminRoleCreateRequest) :
    (createTenantAdminRole env tenantId body).Yields exec
      (AdminOp env tenantId (.createRole body)) fun _ => True := by
  have required : (requireTenantDataSources tenantId
      (body.dataSourceGrants.map (·.dataSourceId.val))).Yields exec
        (AdminOp env tenantId (.createRole body)) fun _ => True := by
    unfold requireTenantDataSources
    split
    · exact yields_pure trivial
    · exact yields_requireAll fun ids => yields_perform (.dataSources ids)
  refine yields_seq required fun owned => ?_
  dsimp only
  split
  · exact yields_throw
  · refine yields_seq (yields_nowIso .clock) fun timestamp => ?_
    refine yields_seq (yields_perform (.role body)) fun _ => ?_
    exact yields_writeAuditEvent env _ _ _ _ .clock
      fun archiveAfter => .audit _ _ _ _ _ (by decide)

theorem yields_upsertTenantAdminMembership (body : TenantAdminMembershipUpsertRequest) :
    (upsertTenantAdminMembership env tenantId body).Yields exec
      (AdminOp env tenantId (.upsertMembership body)) fun _ => True := by
  have required : (requireTenantMembershipIdAvailable tenantId body.id.val).Yields exec
      (AdminOp env tenantId (.upsertMembership body)) fun _ => True := by
    refine yields_seq (yields_perform (.membershipTenant body)) fun owner => ?_
    cases owner <;> exact yields_pure trivial
  refine yields_seq required fun available => ?_
  dsimp only
  split
  · exact yields_throw
  · refine yields_seq (yields_requireAll fun ids => yields_perform (.assignableRoles ids))
      fun assignable => ?_
    split
    · exact yields_throw
    · refine yields_seq (yields_nowIso .clock) fun timestamp => ?_
      refine yields_seq (yields_perform (.membership body timestamp)) fun _ => ?_
      exact yields_writeAuditEvent env _ _ _ _ .clock
        fun archiveAfter => .audit _ _ _ _ _ (by decide)

theorem yields_createTenantAdminDataSource (body : TenantAdminDataSourceCreateRequest) :
    (createTenantAdminDataSource env tenantId body).Yields exec
      (AdminOp env tenantId (.createDataSource body)) fun _ => True := by
  refine yields_seq (yields_nowIso .clock) fun timestamp => ?_
  refine yields_seq (yields_perform (.dataSource body _ rfl)) fun _ => ?_
  exact yields_writeAuditEvent env _ _ _ _ .clock fun archiveAfter => .audit _ _ _ _ _ (by decide)

theorem yields_serveTenantAdmin (request : TenantAdminRequest) :
    (serveTenantAdmin env tenantId request).Yields exec (AdminOp env tenantId request)
      fun _ => True := by
  cases request with
  | context =>
      refine yields_seq (yields_nowIso .clock) fun timestamp => ?_
      refine yields_seq (yields_writeAuditEvent env _ _ _ _ .clock
        fun archiveAfter => .audit _ _ _ _ _ (by decide)) fun _ => ?_
      exact yields_pure trivial
  | createRole body =>
      exact yields_seq (yields_createTenantAdminRole body) fun _ => yields_pure trivial
  | upsertMembership body =>
      exact yields_seq (yields_upsertTenantAdminMembership body) fun _ => yields_pure trivial
  | createDataSource body =>
      exact yields_seq (yields_createTenantAdminDataSource body) fun _ => yields_pure trivial

theorem yields_loadTenantAdminContext (request : TenantAdminRequest) (hostname : Text) :
    (loadTenantAdminContext tenantId hostname).Yields exec (AdminOp env tenantId request)
      fun _ => True := by
  refine yields_seq (yields_ofExcept fun _ _ => trivial) fun normalized => ?_
  refine yields_seq (yields_perform .tenant) fun tenant => ?_
  cases tenant with
  | none => exact yields_pure trivial
  | some tenant =>
      dsimp only
      split
      · exact yields_throw
      · refine yields_seq (yields_perform (.hostname _ _)) fun found => ?_
        cases found with
        | none => exact yields_throw
        | some row => exact yields_pure trivial

theorem yields_tenantAdminError (request : TenantAdminRequest) (error : Text) :
    (tenantAdminError env tenantId error).Yields exec (AdminOp env tenantId request)
      fun _ => True := by
  unfold tenantAdminError
  split
  · exact yields_pure trivial
  · split
    · refine yields_seq (yields_nowIso .clock) fun timestamp => ?_
      refine yields_seq (yields_writeAuditEvent env _ _ _ _ .clock
        fun archiveAfter => .audit _ _ _ _ _ (by decide)) fun _ => ?_
      exact yields_pure trivial
    · repeat' split
      all_goals exact yields_pure trivial

theorem yields_handleTenantAdminContext (tenantId : Id) (hostname : Text)
    (request : TenantAdminRequest) :
    (handleTenantAdminContext env tenantId hostname request).Yields exec
      (AdminOp env tenantId.val request) fun _ => True := by
  have tried : (tryTenantAdmin env tenantId.val hostname request).Yields exec
      (AdminOp env tenantId.val request) fun _ => True := by
    refine yields_seq (yields_loadTenantAdminContext request hostname) fun known => ?_
    split
    · exact yields_pure trivial
    · exact yields_serveTenantAdmin request
  refine yields_bind (yields_attempt tried) fun ended _ => ?_
  cases ended with
  | ok response => exact yields_pure trivial
  | error error => exact yields_tenantAdminError request error

end Admin

theorem yields_program (env : Env) (request : Request) :
    (request.program env).Yields exec (MayPerform env request) fun _ => True := by
  cases request with
  | knowledgeIngest body =>
      exact yields_seq (yields_handleKnowledgeIngest env body) fun _ => yields_pure trivial
  | memoryIngest body =>
      exact yields_seq (yields_handleMemoryIngest env body) fun _ => yields_pure trivial
  | tenantAdmin tenantId hostname request =>
      exact yields_seq ((yields_handleTenantAdminContext tenantId hostname request).mono
        (fun _ => .admin) fun _ => id) fun _ => yields_pure trivial
  | delivery number message =>
      exact yields_seq ((yields_deliver number message).mono (fun _ => .delivery) fun _ => id)
        fun _ => yields_pure trivial

/-- What is left of every thread, and what was carried out, is what the thread's request may
perform. -/
structure Footed (env : Env) (system : System) : Prop where
  numbered : Numbered system
  left : ∀ (index : Nat) (thread : Serving), system.threads[index]? = some thread →
    thread.program.Yields execTagged (fun op => MayPerform env thread.info.2 op.2) fun _ => True
  done : ∀ entry ∈ system.journal, ∃ request, system.requestOf entry.1 = some request ∧
    MayPerform env request entry.2

theorem footed_initial (env : Env) (plane : ControlPlane) : Footed env (System.initial plane) where
  numbered := numbered_initial plane
  left := by simp [System.initial]
  done := by simp [System.initial, System.journal]

variable {system : System}

theorem Footed.next (footed : Footed env system) {index : Nat} {thread : Serving}
    {op : Nat × Op} (found : system.threads[index]? = some thread)
    (next : thread.nextOp = some op) : MayPerform env thread.info.2 op.2 :=
  nextOp_of_yields (footed.left index thread found) next

theorem Footed.left_receive (footed : Footed env system) (request : Request)
    (index : Nat) (thread : Serving)
    (found : (system.receive env request).threads[index]? = some thread) :
    thread.program.Yields execTagged (fun op => MayPerform env thread.info.2 op.2)
      fun _ => True := by
  rcases Pool.getElem?_spawn found with old | ⟨rfl, rfl⟩
  · exact footed.left index thread old
  · exact (yields_tag (yields_program env request)).mono (fun op holds => holds.2) fun _ => id

theorem Footed.step (footed : Footed env system) (event : Event) :
    Footed env (system.step env event) where
  numbered := footed.numbered.step env event
  left := by
    intro index thread found
    cases event with
    | receive request =>
        simp only [System.step] at found
        split at found
        · exact footed.left_receive request index thread found
        · exact footed.left index thread found
    | deliver number =>
        simp only [System.step] at found
        split at found
        · exact footed.left_receive _ index thread found
        · exact footed.left index thread found
    | step other =>
        obtain ⟨old, located, info_eq, kept, advanced⟩ := Pool.getElem?_step execTagged found
        have yields := footed.left index old located
        rw [info_eq]
        by_cases same : index = other
        · rw [advanced same]
          exact yields_advance yields _
        · rw [kept same]
          exact yields
    | crash other =>
        obtain ⟨old, located, info_eq, kept | dropped⟩ := Pool.getElem?_crash found
        · exact kept ▸ footed.left index old located
        · rw [dropped]
          trivial
    | surroundings clock fault => exact footed.left index thread found
  done := by
    intro entry member
    have keeps {request : Request} (known : system.requestOf entry.1 = some request) :
        (system.step env event).requestOf entry.1 = some request := requestOf_step env event known
    by_cases turn : ∃ index, event = .step index
    · obtain ⟨index, rfl⟩ := turn
      rcases footed.numbered.world_step index with
        same | ⟨thread, op, answer, after, found, next, -, -, result⟩
      · simp only [System.step, System.journal, same] at member
        obtain ⟨request, known, may⟩ := footed.done entry member
        exact ⟨request, keeps known, may⟩
      · simp only [System.step, System.journal, result] at member
        rcases List.mem_append.mp member with old | new
        · obtain ⟨request, known, may⟩ := footed.done entry old
          exact ⟨request, keeps known, may⟩
        · obtain rfl := List.mem_singleton.mp new
          exact ⟨thread.info.2, keeps (requestOf_eq.mpr ⟨thread, found, rfl⟩),
            footed.next found next⟩
    · rw [(world_of_other env system fun index same => turn ⟨index, same⟩).1] at member
      obtain ⟨request, known, may⟩ := footed.done entry member
      exact ⟨request, keeps known, may⟩

end SkillCentric.Control
