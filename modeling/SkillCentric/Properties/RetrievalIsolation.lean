import SkillCentric.Control.Retrieval
import SkillCentric.Library.Stateful

/-!
# Retrieval isolation

What a principal retrieves is of the scopes it asked for and may read: rows of these scopes that are
active, at most `top_k` of a kind, and matches of these rows.  Rows of other scopes do not show.
-/

namespace SkillCentric.Control

open SkillCentric Stateful

namespace RetrievalIsolation

/-- The principal has a binding of an effect to a scope.  The table admits scope kinds only. -/
def Bound (database : Database) (principal : Principal) (scopeId : Text) (effect : Effect) : Prop :=
  ∃ row ∈ database.scopeBindings, row.scopeKind.isScope = true ∧
    row.principalKind = principal.kind ∧ row.principalId = principal.id ∧
    row.scopeId = scopeId ∧ row.effect = effect

/-- The scope is requested, and the principal has an allow and no deny binding to it. -/
structure Allowed (database : Database) (principal : Principal) (requested : Option Json)
    (scopeId : Text) : Prop where
  requested : ∃ items, requested = some (.arr items) ∧ .str scopeId ∈ items
  allow : Bound database principal scopeId .allow
  no_deny : ¬Bound database principal scopeId .deny

variable {database : Database} {principal : Principal} {scopeId : Text}

theorem mem_loadScopeBindings {binding : ScopeBinding} :
    binding ∈ loadScopeBindings database principal ↔
      ∃ row ∈ database.scopeBindings, row.scopeKind.isScope = true ∧
        row.principalKind = principal.kind ∧ row.principalId = principal.id ∧
        binding = ⟨row.scopeId, row.scopeKind, row.policyId, row.effect⟩ := by
  simp only [loadScopeBindings, List.mem_map, List.mem_filter, List.mem_insertionSort,
    Bool.and_eq_true, decide_eq_true_eq, Table.mem_iff]
  constructor
  · rintro ⟨row, ⟨⟨member, kind, id⟩, scope⟩, rfl⟩
    exact ⟨row, member, scope, kind, id, rfl⟩
  · rintro ⟨row, member, scope, kind, id, rfl⟩
    exact ⟨row, ⟨⟨member, kind, id⟩, scope⟩, rfl⟩

theorem any_effect_iff {effect : Effect} :
    (((loadScopeBindings database principal).filter fun binding => binding.scopeId = scopeId).any
        fun binding => binding.effect = effect) = true ↔
          Bound database principal scopeId effect := by
  simp only [List.any_eq_true, List.mem_filter, mem_loadScopeBindings, decide_eq_true_eq]
  constructor
  · rintro ⟨_, ⟨⟨row, member, scope, kind, id, rfl⟩, named⟩, effected⟩
    exact ⟨row, member, scope, kind, id, named, effected⟩
  · rintro ⟨row, member, scope, kind, id, named, effected⟩
    exact ⟨_, ⟨⟨row, member, scope, kind, id, rfl⟩, named⟩, effected⟩

theorem scopeBindingAllows_iff :
    scopeBindingAllows scopeId (loadScopeBindings database principal) = true ↔
      Bound database principal scopeId .allow ∧ ¬Bound database principal scopeId .deny := by
  rw [scopeBindingAllows, Bool.and_eq_true, Bool.not_eq_true', ← Bool.not_eq_true, any_effect_iff,
    any_effect_iff, and_comm]

theorem mem_allowedScopes {requested : Option Json} (ids : idArray requested = true) :
    scopeId ∈ allowedScopes database principal requested ↔
      Allowed database principal requested scopeId := by
  rw [allowedScopes, List.mem_filter, scopeBindingAllows_iff]
  have listed : scopeId ∈ stringsOf requested ↔
      ∃ items, requested = some (.arr items) ∧ .str scopeId ∈ items := by
    unfold idArray isArray at ids
    split at ids
    next items =>
      simp only [stringsOf, List.mem_map, Option.some.injEq, Json.arr.injEq, exists_eq_left']
      constructor
      · rintro ⟨item, member, read⟩
        have is_id := List.all_eq_true.mp ids item member
        unfold isIdValue isText at is_id
        split at is_id
        next text text_eq =>
          obtain rfl := Option.some.inj text_eq
          obtain rfl : text = scopeId := read
          exact member
        next => cases is_id
      · exact fun member => ⟨_, member, rfl⟩
    next => cases ids
  rw [listed]
  constructor
  · rintro ⟨asked, allow, no_deny⟩
    exact ⟨asked, allow, no_deny⟩
  · intro allowed
    exact ⟨allowed.requested, allowed.allow, allowed.no_deny⟩

theorem mem_selectScopes {ρ : Type} {select : Text → List ρ} {topK : Option Json}
    {scopes : List Text} {rows : List ρ} (selected : selectScopes select topK scopes = .ok rows)
    {row : ρ} (member : row ∈ rows) : ∃ scopeId ∈ scopes, row ∈ select scopeId := by
  induction scopes generalizing rows with
  | nil =>
      cases selected
      cases member
  | cons scopeId rest ih =>
      obtain ⟨limit, -, selected⟩ := bind_eq_ok.mp selected
      obtain ⟨others, rest_selected, selected⟩ := bind_eq_ok.mp selected
      cases selected
      rcases List.mem_append.mp member with taken | later
      · exact ⟨scopeId, List.mem_cons_self, List.mem_of_mem_take taken⟩
      · obtain ⟨other, listed, found⟩ := ih rest_selected later
        exact ⟨other, List.mem_cons_of_mem scopeId listed, found⟩

theorem selectScopes_congr {ρ : Type} {select other : Text → List ρ} (topK : Option Json)
    {scopes : List Text} (same : ∀ scopeId ∈ scopes, select scopeId = other scopeId) :
    selectScopes select topK scopes = selectScopes other topK scopes := by
  induction scopes with
  | nil => rfl
  | cons scopeId rest ih =>
      rw [selectScopes, selectScopes, same scopeId List.mem_cons_self,
        ih fun other member => same other (List.mem_cons_of_mem scopeId member)]

theorem mem_activeChunks {chunk : KnowledgeChunkRow} :
    chunk ∈ activeChunks database scopeId ↔
      chunk ∈ database.knowledgeChunks ∧ chunk.scopeId = scopeId ∧
        ∃ document ∈ database.knowledgeDocuments, document.id = chunk.documentId ∧
          document.status = .active := by
  have active : database.isActiveDocument chunk.documentId = true ↔
      ∃ document ∈ database.knowledgeDocuments, document.id = chunk.documentId ∧
        document.status = .active := by
    simp only [Database.isActiveDocument, Option.any_eq_true, decide_eq_true_eq,
      Table.find?_eq_some]
    exact exists_congr fun document => and_assoc
  simp only [activeChunks, List.mem_insertionSort, List.mem_filter, Bool.and_eq_true,
    decide_eq_true_eq, Table.mem_iff, active]

theorem mem_activeMemory {memory : MemoryRecordRow} :
    memory ∈ activeMemory database scopeId ↔
      memory ∈ database.memoryRecords ∧ memory.memoryScopeId = scopeId ∧
        memory.status = .active := by
  simp only [activeMemory, List.mem_insertionSort, List.mem_filter, Bool.and_eq_true,
    decide_eq_true_eq, Table.mem_iff]

section Orders

variable {α β γ : Type} [LinearOrder β] [LinearOrder γ] (first : α → β) (second : α → γ)

theorem inOrder_iff {left right : α} :
    inOrder first second left right = true ↔
      first left < first right ∨ first left = first right ∧ second left ≤ second right := by
  simp only [inOrder, Bool.and_eq_true, Bool.or_eq_true, decide_eq_true_eq]
  constructor
  · rintro ⟨low, apart | below⟩
    · exact .inl (lt_of_le_of_ne low apart)
    · rcases lt_or_eq_of_le low with lower | same
      · exact .inl lower
      · exact .inr ⟨same, below⟩
  · rintro (lower | ⟨same, below⟩)
    · exact ⟨lower.le, .inl lower.ne⟩
    · exact ⟨same.le, .inr below⟩

theorem inOrder_total (left right : α) :
    inOrder first second left right = true ∨ inOrder first second right left = true := by
  rw [inOrder_iff, inOrder_iff]
  rcases lt_trichotomy (first left) (first right) with lower | same | higher
  · exact .inl (.inl lower)
  · rcases le_total (second left) (second right) with below | above
    · exact .inl (.inr ⟨same, below⟩)
    · exact .inr (.inr ⟨same.symm, above⟩)
  · exact .inr (.inl higher)

theorem inOrder_trans {left middle right : α} (start : inOrder first second left middle = true)
    (rest : inOrder first second middle right = true) : inOrder first second left right = true := by
  rw [inOrder_iff] at *
  rcases start with lower | ⟨same, below⟩ <;> rcases rest with lower' | ⟨same', below'⟩
  · exact .inl (lower.trans lower')
  · exact .inl (same' ▸ lower)
  · exact .inl (same ▸ lower')
  · exact .inr ⟨same.trans same', below.trans below'⟩

theorem inOrder_antisymm {left right : α} (forth : inOrder first second left right = true)
    (back : inOrder first second right left = true) :
    first left = first right ∧ second left = second right := by
  rw [inOrder_iff] at *
  rcases forth with lower | ⟨same, below⟩ <;> rcases back with lower' | ⟨same', below'⟩
  · exact absurd lower' lower.asymm
  · exact absurd same'.symm lower.ne
  · exact absurd same.symm lower'.ne
  · exact ⟨same, le_antisymm below below'⟩

end Orders

/-- The unique index `idx_knowledge_chunks_document_index`. -/
def ChunksIndexed (database : Database) : Prop :=
  ∀ left ∈ database.knowledgeChunks, ∀ right ∈ database.knowledgeChunks,
    left.documentId = right.documentId → left.chunkIndex = right.chunkIndex → left = right

/-- Two databases that differ at most in chunk rows and memory rows outside the given scopes. -/
structure AlikeOn (database other : Database)
    (knowledgeScopes memoryScopes : Text → Prop) : Prop where
  bindings : other.scopeBindings = database.scopeBindings
  documents : other.knowledgeDocuments = database.knowledgeDocuments
  chunks : ∀ chunk : KnowledgeChunkRow, knowledgeScopes chunk.scopeId →
    (chunk ∈ other.knowledgeChunks ↔ chunk ∈ database.knowledgeChunks)
  memory : ∀ memory : MemoryRecordRow, memoryScopes memory.memoryScopeId →
    (memory ∈ other.memoryRecords ↔ memory ∈ database.memoryRecords)
  indexed : ChunksIndexed other

section Alike

variable {database other : Database} {knowledgeScopes memoryScopes : Text → Prop}
  (alike : AlikeOn database other knowledgeScopes memoryScopes)

include alike

theorem AlikeOn.isActiveDocument (documentId : Text) :
    other.isActiveDocument documentId = database.isActiveDocument documentId := by
  rw [Database.isActiveDocument, alike.documents]
  rfl

theorem AlikeOn.allowedScopes (principal : Principal) (requested : Option Json) :
    allowedScopes other principal requested = allowedScopes database principal requested := by
  simp only [Control.allowedScopes, loadScopeBindings, alike.bindings]

theorem AlikeOn.activeChunks (allowed : knowledgeScopes scopeId) :
    activeChunks other scopeId = activeChunks database scopeId := by
  simp only [Control.activeChunks, alike.isActiveDocument]
  refine Table.insertionSort_filter_eq (inOrder_total _ _) (fun _ _ _ => inOrder_trans _ _) ?_ ?_
  · intro chunk kept
    rw [Bool.and_eq_true, decide_eq_true_eq] at kept
    exact alike.chunks chunk (kept.1 ▸ allowed)
  · intro left left_mem right right_mem forth back
    obtain ⟨document, index⟩ := inOrder_antisymm _ _ forth back
    exact alike.indexed left left_mem right right_mem document index

theorem AlikeOn.activeMemory (allowed : memoryScopes scopeId) :
    activeMemory other scopeId = activeMemory database scopeId := by
  refine Table.insertionSort_filter_eq (fun left right => le_total left.id right.id)
    (fun _ _ _ => le_trans) ?_ ?_
  · intro memory kept
    rw [Bool.and_eq_true, decide_eq_true_eq] at kept
    exact alike.memory memory (kept.1 ▸ allowed)
  · intro left left_mem right right_mem forth back
    exact Table.eq_of_key left_mem right_mem (le_antisymm forth back)

end Alike

/-- The number that was asked for allows so many. -/
def AtMost (count : Nat) : Option Json → Prop
  | some (.int value) => (count : Int) ≤ value
  | some (.float digits) => (count : Int) ≤ (Json.floatInt digits).1
  | _ => False

/-- What an answer shows: rows the principal may read, at most `top_k` of a kind, and matches of
these rows. -/
structure Isolated (database : Database) (body : Json) (principal : Principal)
    (response : RetrievalResponse) : Prop where
  chunks : ∀ chunk ∈ response.knowledgeChunks, chunk ∈ database.knowledgeChunks ∧
    Allowed database principal (body.get? "knowledge_scope_ids") chunk.scopeId ∧
    ∃ document ∈ database.knowledgeDocuments, document.id = chunk.documentId ∧
      document.status = .active
  memory : ∀ memory ∈ response.memoryRecords, memory ∈ database.memoryRecords ∧
    Allowed database principal (body.get? "memory_scope_ids") memory.memoryScopeId ∧
    memory.status = .active
  chunks_bounded : AtMost response.knowledgeChunks.length (body.get? "top_k")
  memory_bounded : AtMost response.memoryRecords.length (body.get? "top_k")
  knowledge_matches : ∀ found ∈ response.knowledgeMatches,
    ∃ chunk ∈ response.knowledgeChunks, chunk.vectorId = found.id
  memory_matches : ∀ found ∈ response.memoryMatches,
    ∃ memory ∈ response.memoryRecords, retrievedVectorId memory = found.id

theorem checks_of_accepted {body : Json} (accepted : validateRetrievalRequest body = none) :
    idArray (body.get? "knowledge_scope_ids") = true ∧
      idArray (body.get? "memory_scope_ids") = true ∧ isTopK (body.get? "top_k") = true := by
  obtain ⟨-, -, -, -, -, -, -, knowledge, memory, topK⟩ :=
    List.forall_iff_forall_mem.mpr (firstFailure_eq_none.mp accepted)
  exact ⟨knowledge, memory, topK⟩

theorem atMost_take {ρ : Type} {topK : Option Json} (valid : isTopK topK = true) (rows : List ρ) :
    AtMost (rows.take (sliceEnd topK)).length topK := by
  have short := List.length_take_le (sliceEnd topK) rows
  unfold isTopK at valid
  split at valid
  next value =>
    simp only [Bool.and_eq_true, decide_eq_true_eq] at valid
    simp only [sliceEnd] at short ⊢
    unfold AtMost
    omega
  next digits =>
    simp only [Bool.and_eq_true, decide_eq_true_eq] at valid
    simp only [sliceEnd] at short ⊢
    unfold AtMost
    omega
  next => cases valid

theorem mem_queryIndex {indexes : VectorIndexes} {store : Store} {query : VectorizeQuery}
    {allowed : List Text} {found : List VectorizeMatch}
    (asked : queryIndex indexes store query allowed = .ok found) :
    ∀ shown ∈ found, shown.id ∈ allowed := by
  obtain ⟨answered, -, asked⟩ := bind_eq_ok.mp asked
  cases asked
  intro shown member
  exact List.contains_iff_mem.mp (List.mem_filter.mp member).2

theorem mem_queryVectorize {indexes : VectorIndexes} {body : Json} {store : Store}
    {filterField : Text} {scopeIds allowed : List Text} {found : List VectorizeMatch}
    (asked : queryVectorize indexes body store filterField scopeIds allowed = .ok found) :
    ∀ shown ∈ found, shown.id ∈ allowed := by
  unfold queryVectorize at asked
  split at asked
  · cases asked
    exact List.forall_mem_nil _
  · exact mem_queryIndex asked

section Answers

variable {database other : Database} {indexes otherIndexes : VectorIndexes} {body : Json}
  {principal : Principal} {response otherResponse : RetrievalResponse}

theorem isolated_of_answered (accepted : validateRetrievalRequest body = none)
    (answered : retrieveFor principal database indexes body = .ok response) :
    Isolated database body principal response := by
  obtain ⟨knowledge_ids, memory_ids, topK⟩ := checks_of_accepted accepted
  obtain ⟨chunks, chunks_eq, answered⟩ := bind_eq_ok.mp answered
  obtain ⟨records, records_eq, answered⟩ := bind_eq_ok.mp answered
  obtain ⟨knowledgeMatches, knowledge_asked, answered⟩ := bind_eq_ok.mp answered
  obtain ⟨memoryMatches, memory_asked, answered⟩ := bind_eq_ok.mp answered
  cases answered
  refine ⟨?_, ?_, atMost_take topK chunks, atMost_take topK records, ?_, ?_⟩
  · intro chunk member
    obtain ⟨scopeId, allowed, found⟩ := mem_selectScopes chunks_eq (List.mem_of_mem_take member)
    obtain ⟨stored, rfl, active⟩ := mem_activeChunks.mp found
    exact ⟨stored, (mem_allowedScopes knowledge_ids).mp allowed, active⟩
  · intro memory member
    obtain ⟨scopeId, allowed, found⟩ := mem_selectScopes records_eq (List.mem_of_mem_take member)
    obtain ⟨stored, rfl, active⟩ := mem_activeMemory.mp found
    exact ⟨stored, (mem_allowedScopes memory_ids).mp allowed, active⟩
  · intro found member
    exact List.mem_map.mp (mem_queryVectorize knowledge_asked found member)
  · intro found member
    exact List.mem_map.mp (mem_queryVectorize memory_asked found member)

theorem retrieveFor_of_alike (accepted : validateRetrievalRequest body = none)
    (alike : AlikeOn database other
      (Allowed database principal (body.get? "knowledge_scope_ids"))
      (Allowed database principal (body.get? "memory_scope_ids"))) (indexes : VectorIndexes) :
    retrieveFor principal other indexes body = retrieveFor principal database indexes body := by
  obtain ⟨knowledge_ids, memory_ids, -⟩ := checks_of_accepted accepted
  have chunks : selectScopes (activeChunks other) (body.get? "top_k")
        (allowedScopes database principal (body.get? "knowledge_scope_ids")) =
      selectScopes (activeChunks database) (body.get? "top_k")
        (allowedScopes database principal (body.get? "knowledge_scope_ids")) :=
    selectScopes_congr _ fun scopeId member =>
      alike.activeChunks ((mem_allowedScopes knowledge_ids).mp member)
  have records : selectScopes (activeMemory other) (body.get? "top_k")
        (allowedScopes database principal (body.get? "memory_scope_ids")) =
      selectScopes (activeMemory database) (body.get? "top_k")
        (allowedScopes database principal (body.get? "memory_scope_ids")) :=
    selectScopes_congr _ fun scopeId member =>
      alike.activeMemory ((mem_allowedScopes memory_ids).mp member)
  simp only [retrieveFor, alike.allowedScopes, chunks, records]

theorem lists_of_answered (answered : retrieveFor principal database indexes body = .ok response)
    (otherwise : retrieveFor principal database otherIndexes body = .ok otherResponse) :
    otherResponse.knowledgeChunks = response.knowledgeChunks ∧
      otherResponse.memoryRecords = response.memoryRecords := by
  obtain ⟨chunks, chunks_eq, answered⟩ := bind_eq_ok.mp answered
  obtain ⟨records, records_eq, answered⟩ := bind_eq_ok.mp answered
  obtain ⟨_, -, answered⟩ := bind_eq_ok.mp answered
  obtain ⟨_, -, answered⟩ := bind_eq_ok.mp answered
  obtain ⟨otherChunks, otherChunks_eq, otherwise⟩ := bind_eq_ok.mp otherwise
  obtain ⟨otherRecords, otherRecords_eq, otherwise⟩ := bind_eq_ok.mp otherwise
  obtain ⟨_, -, otherwise⟩ := bind_eq_ok.mp otherwise
  obtain ⟨_, -, otherwise⟩ := bind_eq_ok.mp otherwise
  obtain rfl := Except.ok.inj (chunks_eq.symm.trans otherChunks_eq)
  obtain rfl := Except.ok.inj (records_eq.symm.trans otherRecords_eq)
  cases answered
  cases otherwise
  exact ⟨rfl, rfl⟩

theorem handleRetrievalContext_eq (accepted : validateRetrievalRequest body = none)
    (named : principalOf body = .ok principal) (database : Database) (indexes : VectorIndexes) :
    handleRetrievalContext database indexes body = retrieveFor principal database indexes body := by
  rw [handleRetrievalContext, accepted]
  dsimp only
  rw [named]
  rfl

/-- Retrieval isolation: an answer shows rows the principal asked for and may read, at most `top_k`
of a kind, and matches of these rows.  Two databases that differ in rows of other scopes give the
same answer, and the same lists whatever the indexes answer. -/
theorem retrieval_isolated (accepted : validateRetrievalRequest body = none)
    (answered : handleRetrievalContext database indexes body = .ok response) :
    ∃ principal, principalOf body = .ok principal ∧
      Isolated database body principal response ∧
      ∀ other, AlikeOn database other
          (Allowed database principal (body.get? "knowledge_scope_ids"))
          (Allowed database principal (body.get? "memory_scope_ids")) →
        handleRetrievalContext other indexes body = .ok response ∧
        ∀ otherIndexes otherResponse,
          handleRetrievalContext other otherIndexes body = .ok otherResponse →
          otherResponse.knowledgeChunks = response.knowledgeChunks ∧
            otherResponse.memoryRecords = response.memoryRecords := by
  obtain ⟨principal, named⟩ : ∃ principal, principalOf body = .ok principal := by
    rw [handleRetrievalContext, accepted] at answered
    obtain ⟨principal, named, -⟩ := bind_eq_ok.mp answered
    exact ⟨principal, named⟩
  simp only [handleRetrievalContext_eq accepted named] at answered ⊢
  refine ⟨principal, named, isolated_of_answered accepted answered, fun other alike => ?_⟩
  refine ⟨(retrieveFor_of_alike accepted alike indexes).trans answered, ?_⟩
  intro otherIndexes otherResponse otherwise
  rw [retrieveFor_of_alike accepted alike otherIndexes] at otherwise
  exact lists_of_answered answered otherwise

end Answers

def sampleBinding (id scopeId : Text) (effect : Effect) : ScopeBindingRow :=
  ⟨id, scopeId, .knowledgeScope, .role, "reader", "mod-policy", effect⟩

/-- The first chunk of the handbook, filed under a scope. -/
def sampleChunk (index : Nat) (scopeId : Text) : KnowledgeChunkRow :=
  ⟨("chunk-" : Text) ++ decimal index, "handbook", index, "r2://knowledge/handbook",
    ("vec-handbook-" : Text) ++ decimal index, scopeId, 7⟩

/-- A database in which the reader may read one of two scopes. -/
def sampleDatabase (chunks : Table KnowledgeChunkRow) : Database where
  knowledgeDocuments := ⟨[⟨"handbook", "wiki", "1.0.0", "r2://knowledge/handbook",
    "r2://knowledge/manifest", "sum", .active⟩], by decide⟩
  knowledgeChunks := chunks
  scopeBindings := ⟨[sampleBinding "b1" "mod-docs" .allow, sampleBinding "b2" "mod-plans" .allow,
    sampleBinding "b3" "mod-plans" .deny], by decide⟩

def sampleBody : Json :=
  .obj [("contract_version", .str "0.1.0"),
    ("principal", .obj [("kind", .str "role"), ("id", .str "reader")]), ("query", .str "leave"),
    ("query_embedding", .arr [.float "0.5"]),
    ("knowledge_scope_ids", .arr [.str "mod-docs", .str "mod-plans"]),
    ("memory_scope_ids", .arr []), ("top_k", .int 5)]

def sampleIndexes : VectorIndexes := fun _ _ =>
  .ok [⟨"vec-handbook-0", "0.9", []⟩, ⟨"vec-handbook-1", "0.8", []⟩]

def sampleResponse : RetrievalResponse where
  query := .str "leave"
  vectorizeStatus := "vectorize_query_post_validated"
  allowedKnowledgeScopeIds := ["mod-docs"]
  allowedMemoryScopeIds := []
  knowledgeChunks := [sampleChunk 0 "mod-docs"]
  memoryRecords := []
  knowledgeMatches := [⟨"vec-handbook-0", "0.9", []⟩]
  memoryMatches := []

theorem retrieval_isolated_reader :
    handleRetrievalContext (sampleDatabase ⟨[sampleChunk 0 "mod-docs", sampleChunk 1 "mod-plans"],
        by decide⟩) sampleIndexes sampleBody = .ok sampleResponse ∧
      handleRetrievalContext (sampleDatabase ⟨[sampleChunk 0 "mod-docs"], by decide⟩) sampleIndexes
        sampleBody = .ok sampleResponse := by
  have answered : handleRetrievalContext
      (sampleDatabase ⟨[sampleChunk 0 "mod-docs", sampleChunk 1 "mod-plans"], by decide⟩)
      sampleIndexes sampleBody = .ok sampleResponse := by decide
  obtain ⟨principal, named, -, alike⟩ :=
    retrieval_isolated (by decide : validateRetrievalRequest sampleBody = none) answered
  obtain rfl : (⟨.role, "reader"⟩ : Principal) = principal := Except.ok.inj named
  refine ⟨answered, (alike (sampleDatabase ⟨[sampleChunk 0 "mod-docs"], by decide⟩)
    ⟨rfl, rfl, ?_, fun _ _ => Iff.rfl, ?_⟩).1⟩
  · intro chunk allowed
    constructor
    · exact fun member => List.mem_cons.mpr (.inl (List.mem_singleton.mp member))
    · intro member
      rcases List.mem_cons.mp member with rfl | member
      · exact List.mem_singleton_self _
      · obtain rfl := List.mem_singleton.mp member
        exact absurd ⟨sampleBinding "b3" "mod-plans" .deny, Table.mem_iff.mpr (by decide), rfl, rfl,
          rfl, rfl, rfl⟩ allowed.no_deny
  · intro left left_mem right right_mem _ _
    rw [List.mem_singleton.mp left_mem, List.mem_singleton.mp right_mem]

end RetrievalIsolation

end SkillCentric.Control
