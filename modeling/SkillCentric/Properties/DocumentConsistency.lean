import SkillCentric.Control.Footprints

/-!
# A document and its chunks

A knowledge ingest writes the document row in one batch, deletes the old chunks in a second
statement and inserts the new ones in a statement each.  A reader, another ingest or a failure can
fall between any two of them and find a document without its chunks, or with some of another
version.  Where an ingest of a document starts writing only when no other one is under way or was
broken off, the document is whole whenever none is under way.
-/

namespace SkillCentric.Control

open SkillCentric Program

def documentOf (documentId : Text) (plane : ControlPlane) : Option KnowledgeDocumentRow :=
  plane.database.knowledgeDocuments.find? documentId

def chunksOf (documentId : Text) (plane : ControlPlane) : List KnowledgeChunkRow :=
  plane.database.knowledgeChunks.rows.filter fun chunk => chunk.documentId = documentId

/-- The chunk rows an ingest writes. -/
def KnowledgeIngestRequest.rows (env : Env) (body : KnowledgeIngestRequest) :
    List KnowledgeChunkRow :=
  (body.chunkRows env).map Prod.fst

/-- Nothing is stored of the document, or the chunk rows are exactly those of one ingest, and the
document row is the one of the same ingest. -/
def Whole (env : Env) (documentId : Text) (plane : ControlPlane) : Prop :=
  (documentOf documentId plane = none ∧ chunksOf documentId plane = []) ∨
    ∃ body : KnowledgeIngestRequest, body.document.id.val = documentId ∧
      documentOf documentId plane = some (body.documentRow env) ∧
      chunksOf documentId plane = body.rows env

variable {env : Env}

private theorem chunkContent_ne_nil (content : Text) (maxChars : Nat) :
    chunkContent content maxChars ≠ [] := by
  unfold chunkContent
  split <;> simp_all

theorem KnowledgeIngestRequest.rows_ne_nil (env : Env) (body : KnowledgeIngestRequest) :
    body.rows env ≠ [] := by
  have chunks : body.chunks ≠ [] := chunkContent_ne_nil _ _
  simpa [rows, chunkRows] using chunks

theorem KnowledgeIngestRequest.rows_nodup (env : Env) (body : KnowledgeIngestRequest) :
    (body.rows env).Nodup := by
  have indices : ((body.rows env).map (·.chunkIndex)).Nodup := by
    have eq : (body.rows env).map (·.chunkIndex) = body.chunks.zipIdx.map Prod.snd := by
      rw [rows, chunkRows, List.map_map, List.map_map]
      rfl
    rw [eq, List.zipIdx_map_snd]
    exact List.nodup_range'
  exact indices.of_map

theorem KnowledgeIngestRequest.documentId_of_mem_rows (env : Env) {body : KnowledgeIngestRequest}
    {row : KnowledgeChunkRow} (member : row ∈ body.rows env) :
    row.documentId = body.document.id.val := by
  simp only [rows, chunkRows, List.map_map, List.mem_map] at member
  obtain ⟨item, -, rfl⟩ := member
  rfl

def Op.writesKnowledge : Op → Bool
  | .replaceDocument _ _ | .deleteChunks _ | .insertChunk _ => true
  | _ => false

variable {plane after : ControlPlane} {answer : Unit} {documentId : Text} {info : Nat × Request}
  {journal : List (Nat × Op)} {event : Event}

theorem exec_sameKnowledge {op : Op} {answer : op.Answer}
    (went : exec op plane = (.ok answer, after)) (other : op.writesKnowledge = false) :
    after.database.knowledgeDocuments = plane.database.knowledgeDocuments ∧
      after.database.knowledgeChunks = plane.database.knowledgeChunks := by
  obtain ⟨-, went⟩ := exec_ok went
  cases op with
  | replaceDocument source document => cases other
  | deleteChunks documentId => cases other
  | insertChunk chunk => cases other
  | replaceMemoryRecord memory =>
      obtain ⟨database, done, rfl⟩ := attemptOn_ok went
      rw [Database.replaceMemoryRecord_ok done]
      exact ⟨rfl, rfl⟩
  | insertRole role capabilities dataSources =>
      obtain ⟨database, done, rfl⟩ := attemptOn_ok went
      obtain ⟨roles, grants, sources, -, -, -, rfl⟩ := Database.insertRole_ok done
      exact ⟨rfl, rfl⟩
  | upsertMembership membership =>
      obtain ⟨database, done, rfl⟩ := attemptOn_ok went
      obtain ⟨memberships, -, rfl⟩ := Database.upsertMembership_ok done
      exact ⟨rfl, rfl⟩
  | insertDataSource dataSource =>
      obtain ⟨database, done, rfl⟩ := attemptOn_ok went
      obtain ⟨sources, -, rfl⟩ := Database.insertDataSource_ok done
      exact ⟨rfl, rfl⟩
  | _ =>
      cases went
      exact ⟨rfl, rfl⟩

theorem documentOf_congr (documentId : Text)
    (same : after.database.knowledgeDocuments = plane.database.knowledgeDocuments) :
    documentOf documentId after = documentOf documentId plane := by
  rw [documentOf, documentOf, same]

theorem chunksOf_congr (documentId : Text)
    (same : after.database.knowledgeChunks = plane.database.knowledgeChunks) :
    chunksOf documentId after = chunksOf documentId plane := by
  rw [chunksOf, chunksOf, same]

theorem exec_replaceDocument {source : KnowledgeSourceRow} {document : KnowledgeDocumentRow}
    (went : exec (.replaceDocument source document) plane = (.ok answer, after)) :
    documentOf document.id after = some document ∧
      (∀ documentId, chunksOf documentId after = chunksOf documentId plane) ∧
      ∀ documentId, documentId ≠ document.id →
        documentOf documentId after = documentOf documentId plane ∨
          (documentOf documentId after = none ∧ chunksOf documentId plane = []) := by
  obtain ⟨-, went⟩ := exec_ok went
  obtain ⟨database, done, rfl⟩ := attemptOn_ok went
  obtain ⟨unreferenced, rfl⟩ := Database.replaceDocument_ok done
  refine ⟨?_, fun _ => rfl, fun documentId differ => ?_⟩
  · exact Table.find?_eq_some.mpr ⟨Table.mem_replace.mpr (.inr rfl), rfl⟩
  · -- the row of another document goes only through the unique index, and then has no chunks
    cases stored : documentOf documentId plane with
    | none =>
        refine .inl (Table.find?_eq_none.mpr fun row member same => ?_)
        rcases Table.mem_replace.mp member with ⟨old, -, -⟩ | rfl
        · exact Table.find?_eq_none.mp stored row old same
        · exact differ same.symm
    | some row =>
        obtain ⟨row_mem, row_id⟩ := Table.find?_eq_some.mp stored
        have row_differs : row.id ≠ document.id := fun same => differ (row_id.symm.trans same)
        cases clash : Database.clashesWith document row with
        | false =>
            refine .inl (Table.find?_eq_some.mpr ⟨Table.mem_replace.mpr (.inl ?_), row_id⟩)
            exact ⟨row_mem, row_differs, clash⟩
        | true =>
            refine .inr ⟨Table.find?_eq_none.mpr fun other member same => ?_, ?_⟩
            · rcases Table.mem_replace.mp member with ⟨old, -, kept⟩ | rfl
              · rw [Table.eq_of_key old row_mem (same.trans row_id.symm), clash] at kept
                cases kept
              · exact differ same.symm
            · rw [chunksOf, List.filter_eq_nil_iff]
              intro chunk chunk_mem same
              refine unreferenced row row_mem row_differs clash chunk chunk_mem ?_
              rw [of_decide_eq_true same]
              exact row_id.symm

theorem exec_deleteChunks (went : exec (.deleteChunks documentId) plane = (.ok answer, after)) :
    after.database.knowledgeDocuments = plane.database.knowledgeDocuments ∧
      chunksOf documentId after = [] ∧
      ∀ other, other ≠ documentId → chunksOf other after = chunksOf other plane := by
  obtain ⟨-, went⟩ := exec_ok went
  cases went
  refine ⟨rfl, ?_, fun other differ => ?_⟩
  · rw [chunksOf, List.filter_eq_nil_iff]
    intro chunk member same
    have kept := (Table.mem_delete.mp member).2
    simp_all
  · simp only [chunksOf, Table.delete, List.filter_filter]
    refine List.filter_congr fun chunk _ => ?_
    by_cases same : chunk.documentId = other <;> simp [same, differ]

theorem exec_insertChunk {chunk : KnowledgeChunkRow}
    (went : exec (.insertChunk chunk) plane = (.ok answer, after)) :
    after.database.knowledgeDocuments = plane.database.knowledgeDocuments ∧
      (documentOf chunk.documentId plane).isSome ∧
      chunksOf chunk.documentId after = chunksOf chunk.documentId plane ++ [chunk] ∧
      ∀ other, other ≠ chunk.documentId → chunksOf other after = chunksOf other plane := by
  obtain ⟨-, went⟩ := exec_ok went
  obtain ⟨database, done, rfl⟩ := attemptOn_ok went
  obtain ⟨document, chunks, found, rows_eq, rfl⟩ := Database.insertChunk_ok done
  refine ⟨rfl, Option.isSome_iff_exists.mpr ⟨document, found⟩, ?_, fun other differ => ?_⟩
  · simp [chunksOf, rows_eq, List.filter_append]
  · simp [chunksOf, rows_eq, List.filter_append, Ne.symm differ]

def batchOf (env : Env) (body : KnowledgeIngestRequest) : Op :=
  .replaceDocument body.sourceRow (body.documentRow env)

/-- The thread is an ingest of the document that has written the document row and not yet all of
its chunks.  One that failed in between stays so. -/
def Writing (env : Env) (documentId : Text) (info : Nat × Request) (journal : List (Nat × Op)) :
    Prop :=
  match info.2 with
  | .knowledgeIngest body =>
      body.document.id.val = documentId ∧ (info.1, batchOf env body) ∈ journal ∧
        ∃ row ∈ body.rows env, (info.1, .insertChunk row) ∉ journal
  | _ => False

instance (env : Env) (documentId : Text) (info : Nat × Request) (journal : List (Nat × Op)) :
    Decidable (Writing env documentId info journal) := by
  unfold Writing
  split <;> infer_instance

theorem Writing.body (writing : Writing env documentId info journal) :
    ∃ body, info.2 = .knowledgeIngest body ∧ body.document.id.val = documentId ∧
      (info.1, batchOf env body) ∈ journal ∧
      ∃ row ∈ body.rows env, (info.1, .insertChunk row) ∉ journal := by
  unfold Writing at writing
  split at writing
  · rename_i body known
    exact ⟨body, known, writing⟩
  · exact writing.elim

theorem writing_of {body : KnowledgeIngestRequest} (known : info.2 = .knowledgeIngest body)
    (document : body.document.id.val = documentId) (started : (info.1, batchOf env body) ∈ journal)
    {row : KnowledgeChunkRow} (member : row ∈ body.rows env)
    (missing : (info.1, .insertChunk row) ∉ journal) : Writing env documentId info journal := by
  unfold Writing
  rw [known]
  exact ⟨document, started, row, member, missing⟩

theorem writing_congr {now later : World} (same : own info.1 later = own info.1 now) :
    Writing env documentId info later.journal ↔ Writing env documentId info now.journal := by
  have entry (op : Op) : (info.1, op) ∈ later.journal ↔ (info.1, op) ∈ now.journal := by
    rw [← mem_own, ← mem_own, same]
  unfold Writing
  split
  · simp only [entry]
  · rfl

/-- How far an ingest has come: the rows inserted so far are the stored chunks, and the document
row is its own, unless another document took its place before there were chunks. -/
structure Progress (env : Env) (index : Nat) (body : KnowledgeIngestRequest)
    (inserted : List KnowledgeChunkRow) (world : World) : Prop where
  started : (index, batchOf env body) ∈ world.journal
  chunks : chunksOf body.document.id.val world.state = inserted
  document : ∀ row, documentOf body.document.id.val world.state = some row →
    row = body.documentRow env
  entries : ∀ row, (index, .insertChunk row) ∈ world.journal → row ∈ inserted

/-- What a call may write of a document: its batch as a whole, and the chunks in order. -/
def LawfulChange (env : Env) (documentId : Text) (info : Nat × Request) (world : World) : Op → Prop
  | .replaceDocument source document =>
      document.id = documentId → ∃ body, info.2 = .knowledgeIngest body ∧
        body.document.id.val = documentId ∧ Op.replaceDocument source document = batchOf env body ∧
        ∀ row, (info.1, .insertChunk row) ∉ world.journal
  | .deleteChunks target => target = documentId → Writing env documentId info world.journal
  | .insertChunk row =>
      row.documentId = documentId → ∃ body inserted rest, info.2 = .knowledgeIngest body ∧
        body.document.id.val = documentId ∧ body.rows env = inserted ++ row :: rest ∧
        Progress env info.1 body inserted world
  | _ => True

/-- The chunks are the same, and so is the document, unless it was dropped. -/
def SameOrDropped (documentId : Text) (now later : ControlPlane) : Prop :=
  chunksOf documentId later = chunksOf documentId now ∧
    (documentOf documentId later = documentOf documentId now ∨ documentOf documentId later = none)

/-- A call that writes the document finds it as it left it, or dropped. -/
def documentContract (env : Env) (documentId : Text) (info : Nat × Request) :
    Contract (Nat × Op) World where
  rely now later :=
    own info.1 later = own info.1 now ∧
      (Writing env documentId info now.journal → SameOrDropped documentId now.state later.state)
  allowed _ _ _ := True
  guar op now := LawfulChange env documentId info now op.2
  rely_refl _ := ⟨rfl, fun _ => ⟨rfl, .inl rfl⟩⟩
  rely_trans first second third := by
    rintro ⟨own_eq, kept⟩ ⟨own_eq', kept'⟩
    refine ⟨own_eq'.trans own_eq, fun writing => ?_⟩
    obtain ⟨chunks, document⟩ := kept writing
    obtain ⟨chunks', document'⟩ := kept' ((writing_congr own_eq).mpr writing)
    refine ⟨chunks'.trans chunks, ?_⟩
    rcases document' with same | gone
    · rw [same]
      exact document
    · exact .inr gone

section Ingest

variable {documentId : Text} {index : Nat} {body : KnowledgeIngestRequest}

theorem Progress.writing {world : World} {inserted rest : List KnowledgeChunkRow}
    {row : KnowledgeChunkRow} (progress : Progress env index body inserted world)
    (split : body.rows env = inserted ++ row :: rest)
    (document : body.document.id.val = documentId) :
    Writing env documentId (index, .knowledgeIngest body) world.journal := by
  have member : row ∈ body.rows env := by simp [split]
  refine writing_of rfl document progress.started member fun written => ?_
  have nodup := body.rows_nodup env
  rw [split] at nodup
  exact (List.disjoint_of_nodup_append nodup) (progress.entries row written) (by simp)

theorem stable_progress {inserted rest : List KnowledgeChunkRow} {row : KnowledgeChunkRow}
    (split : body.rows env = inserted ++ row :: rest)
    (document : body.document.id.val = documentId) :
    (documentContract env documentId (index, .knowledgeIngest body)).Stable
      (Progress env index body inserted) := by
  rintro now later ⟨own_eq, kept⟩ progress
  obtain ⟨chunks, document'⟩ := kept (progress.writing split document)
  subst document
  refine ⟨?_, chunks.trans progress.chunks, ?_, ?_⟩
  · rw [← mem_own, own_eq, mem_own]
    exact progress.started
  · intro row stored
    rcases document' with same | gone
    · exact progress.document row (same ▸ stored)
    · rw [gone] at stored
      cases stored
  · intro row written
    rw [← mem_own, own_eq, mem_own] at written
    exact progress.entries row written

/-- The ingest has written the document row and no chunk. -/
structure Batched (env : Env) (index : Nat) (body : KnowledgeIngestRequest) (world : World) :
    Prop where
  started : (index, batchOf env body) ∈ world.journal
  document : ∀ row, documentOf body.document.id.val world.state = some row →
    row = body.documentRow env
  entries : ∀ row, (index, .insertChunk row) ∉ world.journal

theorem Batched.writing {world : World} (batched : Batched env index body world)
    (document : body.document.id.val = documentId) :
    Writing env documentId (index, .knowledgeIngest body) world.journal := by
  obtain ⟨row, member⟩ := List.exists_mem_of_ne_nil _ (body.rows_ne_nil env)
  exact writing_of rfl document batched.started member (batched.entries row)

theorem stable_batched (document : body.document.id.val = documentId) :
    (documentContract env documentId (index, .knowledgeIngest body)).Stable
      (Batched env index body) := by
  rintro now later ⟨own_eq, kept⟩ batched
  obtain ⟨-, document'⟩ := kept (batched.writing document)
  subst document
  refine ⟨?_, ?_, ?_⟩
  · rw [← mem_own, own_eq, mem_own]
    exact batched.started
  · intro row stored
    rcases document' with same | gone
    · exact batched.document row (same ▸ stored)
    · rw [gone] at stored
      cases stored
  · intro row written
    rw [← mem_own, own_eq, mem_own] at written
    exact batched.entries row written

/-- The thread has written nothing of a document. -/
def Untouched (index : Nat) (world : World) : Prop :=
  ∀ entry ∈ own index world, entry.2.writesKnowledge = false

variable {request : Request}

theorem stable_untouched :
    (documentContract env documentId (index, request)).Stable (Untouched index) := by
  rintro now later ⟨own_eq, -⟩ untouched
  rw [Untouched, own_eq]
  exact untouched

theorem lawfulChange_of_quiet {op : Op} (quiet : op.writesKnowledge = false) (info : Nat × Request)
    (world : World) : LawfulChange env documentId info world op := by
  cases op <;> cases quiet <;> trivial

theorem serves_untouched {α : Type} {program : Worker α}
    (yields : program.Yields exec (fun op => op.writesKnowledge = false) fun _ => True) :
    Serves (documentContract env documentId (index, request)) index (Untouched index) program
      (fun _ => Untouched index) fun _ _ => True := by
  refine (serves_of_yields yields stable_untouched fun op past now quiet untouched _ => ?_).conseq
    (fun _ pre => pre) (fun _ _ post => post.2) fun _ _ _ => trivial
  refine ⟨lawfulChange_of_quiet quiet _ _, fun answer after ran entry member => ?_⟩
  simp only [own, List.filter_append, List.mem_append] at member
  rcases member with old | new
  · exact untouched entry old
  · simp only [List.mem_filter, List.mem_singleton] at new
    rw [new.1]
    exact quiet

theorem serves_done {α : Type} {program : Worker α} {pre : World → Prop}
    (yields : program.Yields exec (fun op => op.writesKnowledge = false) fun _ => True) :
    Serves (documentContract env documentId (index, request)) index pre program (fun _ _ => True)
      fun _ _ => True := by
  refine (serves_of_yields yields (fun _ _ _ _ => trivial) fun op past now quiet _ _ => ?_).conseq
    (fun _ _ => trivial) (fun _ _ _ => trivial) fun _ _ _ => trivial
  exact ⟨lawfulChange_of_quiet quiet _ _, fun _ _ _ => trivial⟩

theorem serves_inserts (document : body.document.id.val = documentId)
    {before items : List (KnowledgeChunkRow × Text)}
    (split : body.chunkRows env = before ++ items) :
    Serves (documentContract env documentId (index, .knowledgeIngest body)) index
      (fun world => items ≠ [] → Progress env index body (before.map Prod.fst) world)
      (forEach items fun item => perform (.insertChunk item.1)) (fun _ _ => True)
      fun _ _ => True := by
  induction items generalizing before with
  | nil => exact serves_pure fun _ _ => trivial
  | cons item rest ih =>
      have rows_split : body.rows env =
          before.map Prod.fst ++ item.1 :: rest.map Prod.fst := by
        simp [KnowledgeIngestRequest.rows, split]
      have inserted : Serves (documentContract env documentId (index, .knowledgeIngest body)) index
          (Progress env index body (before.map Prod.fst)) (perform (.insertChunk item.1))
          (fun _ world => rest ≠ [] →
            Progress env index body ((before ++ [item]).map Prod.fst) world) fun _ _ => True := by
        refine serves_perform (stable_progress rows_split document) ?_ ?_ fun _ _ _ => trivial
        · intro past now progress _ _
          exact ⟨body, _, _, rfl, document, rows_split, progress⟩
        · intro past now answer after progress _ ran _
          obtain ⟨documents, -, chunks, -⟩ := exec_insertChunk ran
          have own_row : item.1.documentId = body.document.id.val :=
            KnowledgeIngestRequest.documentId_of_mem_rows env (by simp [rows_split])
          refine ⟨List.mem_append_left _ progress.started, ?_, ?_, ?_⟩
          · rw [own_row] at chunks
            rw [chunks, progress.chunks]
            simp
          · rw [documentOf_congr _ documents]
            exact progress.document
          · intro row written
            rcases List.mem_append.mp written with old | new
            · have earlier := progress.entries row old
              simp only [List.map_append, List.mem_append]
              exact .inl earlier
            · cases List.mem_singleton.mp new
              simp
      refine serves_bind (inserted.conseq (fun _ pre => pre (by simp)) (fun _ _ post => post)
        fun _ _ post => post) fun _ => ih ?_
      simp [split]

theorem serves_writeKnowledge (document : body.document.id.val = documentId) :
    Serves (documentContract env documentId (index, .knowledgeIngest body)) index (Untouched index)
      (writeKnowledge env body) (fun _ _ => True) fun _ _ => True := by
  have unwritten {world : World} (untouched : Untouched index world) (row : KnowledgeChunkRow) :
      (index, Op.insertChunk row) ∉ world.journal := fun written => by
    have quiet := untouched (index, .insertChunk row) (mem_own.mpr written)
    cases quiet
  have batched : Serves (documentContract env documentId (index, .knowledgeIngest body)) index
      (Untouched index) (perform (batchOf env body)) (fun _ => Batched env index body)
      fun _ _ => True := by
    refine serves_perform stable_untouched ?_ ?_ fun _ _ _ => trivial
    · exact fun past now untouched _ _ => ⟨body, rfl, document, rfl, unwritten untouched⟩
    · intro past now answer after untouched _ ran
      obtain ⟨stored, -, -⟩ := exec_replaceDocument ran
      refine ⟨by simp, fun row found => ?_, fun row written => ?_⟩
      · exact Option.some.inj (found.symm.trans stored)
      · rcases List.mem_append.mp written with old | new
        · exact unwritten untouched row old
        · simp [batchOf] at new
  have cleared : Serves (documentContract env documentId (index, .knowledgeIngest body)) index
      (Batched env index body) (perform (.deleteChunks body.document.id.val))
      (fun _ world => body.chunkRows env ≠ [] → Progress env index body [] world)
      fun _ _ => True := by
    refine serves_perform (stable_batched document) ?_ ?_ fun _ _ _ => trivial
    · exact fun past now batched _ _ => batched.writing document
    · intro past now answer after batched _ ran _
      obtain ⟨documents, chunks, -⟩ := exec_deleteChunks ran
      refine ⟨List.mem_append_left _ batched.started, chunks, ?_, fun row written => ?_⟩
      · rw [documentOf_congr _ documents]
        exact batched.document
      · rcases List.mem_append.mp written with old | new
        · exact (batched.entries row old).elim
        · simp at new
  refine serves_bind batched fun _ => serves_bind cleared fun _ => ?_
  exact serves_inserts document (List.nil_append _).symm

theorem ReportOp.quiet {kind : EmbeddingTargetKind} {targetId : Text} {op : Op}
    (report : ReportOp env kind targetId op) : op.writesKnowledge = false := by
  cases report <;> rfl

theorem quiet_perform {op : Op} (quiet : op.writesKnowledge = false) :
    (perform op).Yields exec (fun op => op.writesKnowledge = false) fun _ => True :=
  yields_perform quiet

theorem serves_handleKnowledgeIngest (document : body.document.id.val = documentId) :
    Serves (documentContract env documentId (index, .knowledgeIngest body)) index (Untouched index)
      (handleKnowledgeIngest env body) (fun _ _ => True) fun _ _ => True := by
  refine serves_bind (serves_untouched (yields_nowIso rfl)) fun timestamp => ?_
  refine serves_bind (serves_untouched (quiet_perform rfl)) fun known => ?_
  split
  · exact serves_pure fun _ _ => trivial
  · have stored : (storeKnowledge env body).Yields exec (fun op => op.writesKnowledge = false)
        fun _ => True := by
      refine yields_seq (quiet_perform rfl) fun _ => yields_seq (quiet_perform rfl) fun _ => ?_
      exact yields_seq (quiet_perform rfl) fun _ => yields_forEach fun _ _ => quiet_perform rfl
    refine serves_bind (serves_untouched stored) fun _ => ?_
    refine serves_bind (serves_writeKnowledge document) fun _ => serves_done ?_
    refine yields_seq (yields_seq (yields_archiveAfter rfl) fun _ => quiet_perform rfl) fun _ => ?_
    refine yields_bind (yields_attempt ((yields_queueEmbeddingUpdate env _ _ _ _).mono
      (fun _ report => report.quiet) fun _ => id)) fun queued _ => ?_
    cases queued <;> exact yields_pure trivial

end Ingest

theorem MayPerform.lawfulChange {request : Request} {op : Op} (may : MayPerform env request op)
    (elsewhere : ∀ body, request = .knowledgeIngest body → body.document.id.val ≠ documentId)
    (index : Nat) (world : World) : LawfulChange env documentId (index, request) world op := by
  cases may with
  | knowledgeScope body => trivial
  | knowledge write =>
      rename_i body
      have differ := elsewhere body rfl
      cases write with
      | object key content below => trivial
      | document => exact fun same => (differ same).elim
      | clear => exact fun same => (differ same).elim
      | chunk row content member =>
          refine fun same => (differ (same ▸ ?_)).elim
          exact (KnowledgeIngestRequest.documentId_of_mem_rows env
            (List.mem_map_of_mem member)).symm
  | knowledgeReport report => exact lawfulChange_of_quiet report.quiet _ _
  | memoryScope body => trivial
  | memory write => cases write <;> trivial
  | memoryReport report => exact lawfulChange_of_quiet report.quiet _ _
  | admin admin => cases admin <;> trivial
  | delivery delivery => cases delivery <;> trivial

theorem meets_documentContract (env : Env) (documentId : Text) (index : Nat) (request : Request)
    (world : World) (fresh : own index world = []) :
    (documentContract env documentId (index, request)).Meets execTagged []
      ((request.program env).tag index) (fun _ _ _ => True) world := by
  have untouched : Untouched index world := by
    rw [Untouched, fresh]
    simp
  have serves : Serves (documentContract env documentId (index, request)) index (Untouched index)
      (request.program env) (fun _ _ => True) fun _ _ => True := by
    by_cases mine : ∃ body, request = .knowledgeIngest body ∧ body.document.id.val = documentId
    · obtain ⟨body, rfl, document⟩ := mine
      exact serves_bind (serves_handleKnowledgeIngest document) fun _ =>
        serves_pure fun _ _ => trivial
    · refine (serves_of_yields (yields_program env request) (fun _ _ _ _ => trivial)
        fun op past now may _ _ => ?_).conseq (fun _ _ => trivial) (fun _ _ _ => trivial)
          fun _ _ _ => trivial
      refine ⟨may.lawfulChange (fun body known document => mine ⟨body, known, document⟩) _ _,
        fun _ _ _ => trivial⟩
  exact (serves [] world untouched).mono fun _ _ _ _ => trivial

/-- The call is writing the document. -/
def WritingIn (env : Env) (documentId : Text) (system : System) (index : Nat) : Prop :=
  ∃ request, system.requestOf index = some request ∧
    Writing env documentId (index, request) system.journal

/-- No ingest of the document is between its batch and its last chunk. -/
def Settled (env : Env) (documentId : Text) (system : System) : Prop :=
  ∀ thread ∈ system.threads, ¬ Writing env documentId thread.info system.journal

instance (env : Env) (documentId : Text) (system : System) :
    Decidable (Settled env documentId system) :=
  inferInstanceAs (Decidable (∀ thread ∈ system.threads, _))

/-- An ingest writes the document row only when no other ingest of the document is under way or was
broken off. -/
def OneAtATime (env : Env) (documentId : Text) (system : System) : Event → Prop
  | .step index =>
      match system.nextOp index with
      | some (.replaceDocument _ document) =>
        document.id = documentId → Settled env documentId system
      | _ => True
  | _ => True

instance (env : Env) (documentId : Text) (system : System) (event : Event) :
    Decidable (OneAtATime env documentId system event) := by
  unfold OneAtATime
  split
  · split <;> infer_instance
  · infer_instance

variable {documentId : Text} {system : System}

theorem settled_iff (numbered : Numbered system) :
    Settled env documentId system ↔ ∀ index, ¬ WritingIn env documentId system index := by
  constructor
  · rintro settled index ⟨request, known, writing⟩
    obtain ⟨thread, found, rfl⟩ := requestOf_eq.mp known
    obtain rfl := (numbered.threads index thread found).1
    exact settled thread (List.mem_of_getElem? found) writing
  · intro none thread member writing
    obtain ⟨index, found⟩ := List.mem_iff_getElem?.mp member
    obtain rfl := (numbered.threads index thread found).1
    exact none thread.info.1 ⟨thread.info.2, requestOf_eq.mpr ⟨thread, found, rfl⟩, writing⟩

theorem Writing.grow {entry : Nat × Op} (writing : Writing env documentId info journal)
    (other : ∀ row, entry = (info.1, .insertChunk row) → row.documentId ≠ documentId) :
    Writing env documentId info (journal ++ [entry]) := by
  obtain ⟨body, known, document, started, row, member, missing⟩ := writing.body
  refine writing_of known document (List.mem_append_left _ started) member fun written => ?_
  rcases List.mem_append.mp written with old | new
  · exact missing old
  · refine other row (List.mem_singleton.mp new).symm ?_
    rw [KnowledgeIngestRequest.documentId_of_mem_rows env member, document]

theorem Writing.shrink {entry : Nat × Op}
    (writing : Writing env documentId info (journal ++ [entry])) :
    Writing env documentId info journal ∨
      ∃ body, entry = (info.1, batchOf env body) ∧ body.document.id.val = documentId := by
  obtain ⟨body, known, document, started, row, member, missing⟩ := writing.body
  rcases List.mem_append.mp started with old | new
  · exact .inl (writing_of known document old member fun written =>
      missing (List.mem_append_left _ written))
  · exact .inr ⟨body, (List.mem_singleton.mp new).symm, document⟩

theorem requestOf_of_step (numbered : Numbered system) {index : Nat}
    {request : Request} (known : (system.step env event).requestOf index = some request) :
    system.requestOf index = some request ∨ own index system.state = [] := by
  by_cases inside : index < system.threads.length
  · refine .inl ?_
    have present : system.requestOf index = some (system.threads[index]).info.2 := by
      simp [System.requestOf, inside]
    rw [present, ← requestOf_step env event present, known]
  · refine .inr ?_
    rw [own, List.filter_eq_nil_iff]
    intro entry member same
    have bound := numbered.journal entry member
    simp only [decide_eq_true_eq] at same
    omega

theorem WritingIn.of_step (numbered : Numbered system) {index : Nat}
    (writing : WritingIn env documentId (system.step env event) index) :
    WritingIn env documentId system index ∨
      (event = .step index ∧ ∃ body, system.nextOp index = some (batchOf env body) ∧
        body.document.id.val = documentId) := by
  obtain ⟨request, known, writing⟩ := writing
  have before (earlier : Writing env documentId (index, request) system.journal) :
      WritingIn env documentId system index := by
    refine ⟨request, ?_, earlier⟩
    rcases requestOf_of_step numbered known with old | fresh
    · exact old
    · obtain ⟨body, -, -, started, -⟩ := earlier.body
      rw [← mem_own, fresh] at started
      cases started
  by_cases turn : ∃ other, event = .step other
  · obtain ⟨other, rfl⟩ := turn
    rcases numbered.world_step other with
      same | ⟨thread, op, answer, after, found, next, -, -, result⟩
    · simp only [System.step, System.journal, same] at writing
      exact .inl (before writing)
    · simp only [System.step, System.journal, result] at writing
      rcases writing.shrink with old | ⟨body, entry_eq, document⟩
      · exact .inl (before old)
      · cases entry_eq
        exact .inr ⟨rfl, body, by simp [System.nextOp, found, next], document⟩
  · rw [(world_of_other env system fun other same => turn ⟨other, same⟩).1] at writing
    exact .inl (before writing)

/-- At most one call at a time writes the document. -/
def OneWriter (env : Env) (documentId : Text) (system : System) : Prop :=
  ∀ left right, WritingIn env documentId system left → WritingIn env documentId system right →
    left = right

theorem OneWriter.step (numbered : Numbered system) (one : OneWriter env documentId system)
    (care : OneAtATime env documentId system event) :
    OneWriter env documentId (system.step env event) := by
  have starts {index : Nat} {body : KnowledgeIngestRequest} (turn : event = .step index)
      (next : system.nextOp index = some (batchOf env body))
      (document : body.document.id.val = documentId) (other : Nat) :
      ¬ WritingIn env documentId system other := by
    subst turn
    simp only [OneAtATime, next, batchOf] at care
    exact (settled_iff numbered).mp (care document) other
  intro left right left_writing right_writing
  rcases left_writing.of_step numbered with left_old
    | ⟨left_turn, left_body, left_next, left_document⟩
  · rcases right_writing.of_step numbered with right_old | ⟨turn, body, next, document⟩
    · exact one left right left_old right_old
    · exact (starts turn next document left left_old).elim
  · rcases right_writing.of_step numbered with right_old | ⟨turn, body, next, document⟩
    · exact (starts left_turn left_next left_document right right_old).elim
    · rw [left_turn] at turn
      cases turn
      rfl

theorem disciplined_document (env : Env) (documentId : Text) :
    Disciplined env (documentContract env documentId)
      (fun system event => OneAtATime env documentId system event ∧
        OneWriter env documentId system) where
  serves := meets_documentContract env documentId
  surroundings info world clock fault := ⟨rfl, fun _ => ⟨rfl, .inl rfl⟩⟩
  allowed _ _ _ _ := trivial
  interference := by
    rintro system index other thread peer op answer after numbered ⟨care, one⟩ found next owed ran
      differ located live
    have number : thread.info.1 = index := (numbered.threads index thread found).1
    have peer_number : peer.info.1 = other := (numbered.threads other peer located).1
    refine ⟨by simp [own, peer_number, Ne.symm differ], fun writing => ?_⟩
    have peer_writing : WritingIn env documentId system other :=
      ⟨peer.info.2, requestOf_eq.mpr ⟨peer, located, rfl⟩, peer_number ▸ writing⟩
    have alone : ¬ Writing env documentId thread.info system.journal := fun mine =>
      differ (one other index peer_writing
        ⟨thread.info.2, requestOf_eq.mpr ⟨thread, found, rfl⟩, number ▸ mine⟩)
    cases op with
    | replaceDocument source document =>
        obtain ⟨-, chunks, documents⟩ := exec_replaceDocument ran
        have elsewhere : documentId ≠ document.id := by
          rintro rfl
          have turn : system.nextOp index = some (.replaceDocument source document) := by
            simp [System.nextOp, found, next]
          simp only [OneAtATime, turn] at care
          exact (settled_iff numbered).mp (care trivial) other peer_writing
        exact ⟨chunks documentId, (documents documentId elsewhere).imp_right And.left⟩
    | deleteChunks target =>
        obtain ⟨documents, -, chunks⟩ := exec_deleteChunks ran
        have elsewhere : documentId ≠ target := fun same => alone (owed same.symm)
        exact ⟨chunks documentId elsewhere, .inl (documentOf_congr _ documents)⟩
    | insertChunk row =>
        obtain ⟨documents, -, -, chunks⟩ := exec_insertChunk ran
        have elsewhere : documentId ≠ row.documentId := by
          intro same
          obtain ⟨body, inserted, rest, known, document, split, progress⟩ := owed same.symm
          refine alone ?_
          have mine := progress.writing split document
          rwa [← known] at mine
        exact ⟨chunks documentId elsewhere, .inl (documentOf_congr _ documents)⟩
    | _ =>
        obtain ⟨documents, chunks⟩ := exec_sameKnowledge ran rfl
        exact ⟨chunksOf_congr _ chunks, .inl (documentOf_congr _ documents)⟩

theorem Whole.congr (whole : Whole env documentId plane)
    (document : documentOf documentId after = documentOf documentId plane)
    (chunks : chunksOf documentId after = chunksOf documentId plane) :
    Whole env documentId after := by
  rw [Whole, document, chunks]
  exact whole

theorem Whole.dropped (whole : Whole env documentId plane)
    (document : documentOf documentId after = documentOf documentId plane ∨
      (documentOf documentId after = none ∧ chunksOf documentId plane = []))
    (chunks : chunksOf documentId after = chunksOf documentId plane) :
    Whole env documentId after := by
  rcases document with same | ⟨gone, empty⟩
  · exact whole.congr same chunks
  · exact .inl ⟨gone, chunks.trans empty⟩

/-- What holds in every state of a run whose ingests write the document one at a time. -/
structure DocumentInvariant (env : Env) (documentId : Text) (system : System) : Prop where
  guarded : Guarded (documentContract env documentId) system
  one : OneWriter env documentId system
  whole : Settled env documentId system → Whole env documentId system.plane

theorem DocumentInvariant.whole_step (inv : DocumentInvariant env documentId system)
    (settled : Settled env documentId (system.step env event)) :
    Whole env documentId (system.step env event).plane := by
  have numbered := inv.guarded.numbered
  have nobody := (settled_iff (numbered.step env event)).mp settled
  -- a thread that stays at writing contradicts `settled`
  have settled_before (stays : ∀ index request, system.requestOf index = some request →
      Writing env documentId (index, request) system.journal →
      Writing env documentId (index, request) (system.step env event).journal) :
      Whole env documentId system.plane := by
    refine inv.whole ((settled_iff numbered).mpr ?_)
    rintro index ⟨request, known, writing⟩
    exact nobody index ⟨request, requestOf_step env event known, stays index request known writing⟩
  by_cases turn : ∃ index, event = .step index
  · obtain ⟨index, rfl⟩ := turn
    rcases numbered.world_step index with
      same | ⟨thread, op, answer, after, found, next, ran, -, result⟩
    · simp only [System.step, System.plane, System.journal, same] at settled_before ⊢
      exact settled_before fun _ _ _ writing => writing
    · have owed := inv.guarded.guar (disciplined_document env documentId) found next
      have number : thread.info.1 = index := (numbered.threads index thread found).1
      have idle : ¬ Writing env documentId thread.info (system.journal ++ [(index, op)]) := by
        intro writing
        have known : system.requestOf index = some thread.info.2 :=
          requestOf_eq.mpr ⟨thread, found, rfl⟩
        refine nobody index ⟨thread.info.2, requestOf_step env _ known, ?_⟩
        simp only [System.step, System.journal, result]
        rwa [show (index, thread.info.2) = thread.info from Prod.ext number.symm rfl]
      simp only [System.step, System.plane, System.journal, result] at settled_before ⊢
      cases op with
      | replaceDocument source document =>
          obtain ⟨-, chunks, documents⟩ := exec_replaceDocument ran
          by_cases same : document.id = documentId
          · obtain ⟨body, known, document_eq, batch, unwritten⟩ := owed same
            obtain ⟨row, member⟩ := List.exists_mem_of_ne_nil _ (body.rows_ne_nil env)
            refine (idle (writing_of known document_eq ?_ member fun written => ?_)).elim
            · rw [← batch, number]
              simp
            · rcases List.mem_append.mp written with old | new
              · exact unwritten row old
              · simp at new
          · refine (settled_before fun other request _ writing => writing.grow ?_).dropped
              (documents documentId (Ne.symm same)) (chunks documentId)
            rintro row ⟨⟩
      | deleteChunks target =>
          obtain ⟨documents, -, chunks⟩ := exec_deleteChunks ran
          by_cases same : target = documentId
          · refine (idle ((owed same).grow ?_)).elim
            rintro row ⟨⟩
          · refine (settled_before fun other request _ writing => writing.grow ?_).congr
              (documentOf_congr _ documents) (chunks documentId (Ne.symm same))
            rintro row ⟨⟩
      | insertChunk row =>
          obtain ⟨documents, stored, chunks, others⟩ := exec_insertChunk ran
          by_cases same : row.documentId = documentId
          · obtain ⟨body, inserted, rest, known, document, split, progress⟩ := owed same
            cases rest with
            | nil =>
                -- the last chunk: the document is the ingest's
                obtain ⟨old, old_found⟩ := Option.isSome_iff_exists.mp stored
                subst document
                refine .inr ⟨body, rfl, ?_, ?_⟩
                · rw [documentOf_congr _ documents, ← same, old_found]
                  rw [same] at old_found
                  rw [progress.document old old_found]
                · rw [← same, chunks, same, progress.chunks, split]
            | cons missing rest =>
                have nodup := body.rows_nodup env
                rw [split] at nodup
                have member : missing ∈ body.rows env := by simp [split]
                refine (idle (writing_of known document (List.mem_append_left _ progress.started)
                  member fun written => ?_)).elim
                rcases List.mem_append.mp written with old | new
                · exact (List.disjoint_of_nodup_append nodup)
                    (progress.entries missing old) (by simp)
                · simp only [List.mem_singleton, Prod.mk.injEq, Op.insertChunk.injEq] at new
                  have later := (List.nodup_append.mp nodup).2.1
                  simp [← new.2] at later
          · refine (settled_before fun other request _ writing => writing.grow ?_).congr
              (documentOf_congr _ documents) (others documentId (Ne.symm same))
            rintro other_row ⟨⟩
            exact same
      | _ =>
          obtain ⟨documents, chunks⟩ := exec_sameKnowledge ran rfl
          refine (settled_before fun other request _ writing => writing.grow ?_).congr
            (documentOf_congr _ documents) (chunksOf_congr _ chunks)
          rintro row ⟨⟩
  · obtain ⟨journal_eq, clock, fault, plane_eq⟩ :=
      world_of_other env system fun index same => turn ⟨index, same⟩
    rw [plane_eq]
    rw [journal_eq] at settled_before
    exact settled_before fun _ _ _ writing => writing

theorem DocumentInvariant.step (inv : DocumentInvariant env documentId system)
    (care : OneAtATime env documentId system event) :
    DocumentInvariant env documentId (system.step env event) where
  guarded := inv.guarded.step (disciplined_document env documentId) ⟨care, inv.one⟩
  one := inv.one.step inv.guarded.numbered care
  whole := inv.whole_step

theorem documentInvariant_initial {plane : ControlPlane} (whole : Whole env documentId plane) :
    DocumentInvariant env documentId (System.initial plane) where
  guarded := guarded_initial _ plane
  one := by
    rintro left right ⟨request, known, -⟩
    simp [System.initial, System.requestOf] at known
  whole := fun _ => whole

/-- In a run in which an ingest of the document writes the document row only when no other ingest
of it is between its batch and its last chunk, the stored chunks are all chunks of one ingest, the
one of the document row, whenever no ingest is there. -/
theorem document_whole (env : Env) (documentId : Text) (plane : ControlPlane) (events : List Event)
    (start : Whole env documentId plane)
    (careful : Steps (System.step env) (OneAtATime env documentId) (.initial plane) events)
    (settled : Settled env documentId (System.run env (.initial plane) events)) :
    Whole env documentId (System.run env (.initial plane) events).plane :=
  (careful.invariant (DocumentInvariant env documentId) (documentInvariant_initial start)
    fun _ _ inv care => inv.step care).whole settled

namespace Sample

/-- One ingest to its end, and a second one up to the deletion of the old chunks. -/
def replacing : List Event :=
  Event.receive (handbook (version "1.0.0") "alpha") :: List.replicate 15 (.step 0) ++
    Event.receive (handbook (version "1.1.0") "beta") :: List.replicate 8 (.step 1)

/-- Both ingests to their end. -/
def replaced : List Event := replacing ++ List.replicate 7 (Event.step 1)

end Sample

/-- After the second ingest has deleted the old chunks the document is there without chunks; the
same run goes on to accept both ingests. -/
theorem document_whole_fails_replacing :
    ¬ Whole Sample.env "handbook" (System.run Sample.env (.initial Sample.scopes)
        Sample.replacing).plane ∧
      (System.run Sample.env (.initial Sample.scopes) Sample.replaced).accepted 0 = true ∧
      (System.run Sample.env (.initial Sample.scopes) Sample.replaced).accepted 1 = true := by
  refine ⟨?_, by decide, by decide⟩
  have stored : (documentOf "handbook" (System.run Sample.env (.initial Sample.scopes)
      Sample.replacing).plane).isSome = true := by decide
  have empty : chunksOf "handbook" (System.run Sample.env (.initial Sample.scopes)
      Sample.replacing).plane = [] := by decide
  rintro (⟨absent, -⟩ | ⟨body, -, -, chunks⟩)
  · rw [absent] at stored
    cases stored
  · exact body.rows_ne_nil Sample.env (chunks.symm.trans empty)

/-- One ingest after the other leaves the document whole. -/
theorem document_whole_replaced :
    Whole Sample.env "handbook" (System.run Sample.env (.initial Sample.scopes)
      Sample.replaced).plane :=
  document_whole Sample.env "handbook" Sample.scopes Sample.replaced
    (.inl ⟨by decide, by decide⟩) (by decide) (by decide)

end SkillCentric.Control
