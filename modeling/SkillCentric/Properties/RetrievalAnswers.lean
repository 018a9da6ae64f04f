import SkillCentric.Properties.RetrievalIsolation
import SkillCentric.Properties.RetrievalRequests

/-!
# Answers are usable

An answer of the Worker to a retrieval request passes the checks of the context manager, and its
memory records are rendered one by one.
-/

namespace SkillCentric.RetrievalAnswers

open Control RuntimeContextManager RuntimeProfileEnforcer Stateful

/-- The memory records of a response that `load` renders. -/
def memoryRecords (response : Json) : List Json :=
  match response.item "memory_records" (.arr []) with
  | .arr records => records
  | _ => []

/-- A rendered record is of a memory record, and is no instruction. -/
structure Renders (memory : MemoryRecordRow) (rendered : Json) : Prop where
  id : rendered.get? "id" = some (.str memory.id)
  scope : rendered.get? "memory_scope_id" = some (.str memory.memoryScopeId)
  run : rendered.get? "source_run_id" = some (.str memory.sourceRunId)
  profile : rendered.get? "source_profile_id" = some (.str memory.sourceProfileId)
  content : rendered.get? "content_uri" = some (.str memory.contentUri)
  manifest : rendered.get? "manifest_uri" = some (.str memory.manifestUri)
  authoritative : rendered.get? "authoritative" = some (.bool false)
  instruction : rendered.get? "instruction_status" = some (.str "not_an_instruction")

/-- An answer stays within the scopes it lists, and these within the requested ones. -/
structure Within (request : Json) (response : RetrievalResponse) : Prop where
  knowledge : ∀ id ∈ response.allowedKnowledgeScopeIds,
    id ∈ stringsOf (request.get? "knowledge_scope_ids")
  memory : ∀ id ∈ response.allowedMemoryScopeIds, id ∈ stringsOf (request.get? "memory_scope_ids")
  chunks : ∀ chunk ∈ response.knowledgeChunks, chunk.scopeId ∈ response.allowedKnowledgeScopeIds
  records : ∀ memory ∈ response.memoryRecords,
    memory.memoryScopeId ∈ response.allowedMemoryScopeIds

section Answered

variable {database : Database} {indexes : VectorIndexes} {request : Json}
  {response : RetrievalResponse} {principal : Principal}

theorem within_of_retrieved
    (retrieved : retrieveFor principal database indexes request = .ok response) :
    Within request response := by
  obtain ⟨chunks, chunks_eq, retrieved⟩ := bind_eq_ok.mp retrieved
  obtain ⟨records, records_eq, retrieved⟩ := bind_eq_ok.mp retrieved
  obtain ⟨_, -, retrieved⟩ := bind_eq_ok.mp retrieved
  obtain ⟨_, -, retrieved⟩ := bind_eq_ok.mp retrieved
  cases retrieved
  refine ⟨fun id listed => List.mem_of_mem_filter listed,
    fun id listed => List.mem_of_mem_filter listed,
    fun chunk member => ?_, fun memory member => ?_⟩
  · obtain ⟨scopeId, listed, active⟩ :=
      RetrievalIsolation.mem_selectScopes chunks_eq (List.mem_of_mem_take member)
    exact (RetrievalIsolation.mem_activeChunks.mp active).2.1 ▸ listed
  · obtain ⟨scopeId, listed, active⟩ :=
      RetrievalIsolation.mem_selectScopes records_eq (List.mem_of_mem_take member)
    exact (RetrievalIsolation.mem_activeMemory.mp active).2.1 ▸ listed

theorem accepted_of_answered
    (answered : handleRetrievalContext database indexes request = .ok response) :
    validateRetrievalRequest request = none ∧ Within request response := by
  unfold handleRetrievalContext at answered
  split at answered
  · cases answered
  · rename_i accepted
    obtain ⟨principal, -, retrieved⟩ := bind_eq_ok.mp answered
    exact ⟨accepted, within_of_retrieved retrieved⟩

end Answered

section Checks

variable {request : Json} {response : RetrievalResponse}

theorem iterate_idArray {field : Text} (ids : idArray (request.get? field) = true) :
    ∃ items, (request.item field (.arr [])).iterate = .ok items ∧
      items.map Json.pyStr = stringsOf (request.get? field) := by
  rw [Json.item]
  unfold idArray isArray at ids
  split at ids
  · rename_i items listed
    rw [listed]
    refine ⟨items, rfl, List.map_congr_left fun item member => ?_⟩
    have is_id := List.all_eq_true.mp ids item member
    unfold isIdValue isText at is_id
    split at is_id
    · rename_i text text_eq
      cases text_eq
      rfl
    · cases is_id
  · cases ids

theorem iterate_jsonStrings (texts : List Text) :
    (jsonStrings texts).iterate = .ok (texts.map Json.str) ∧
      (texts.map Json.str).map Json.pyStr = texts :=
  ⟨rfl, RetrievalRequests.map_pyStr_str texts⟩

theorem assertItems_rows {ρ : Type} {body : Json} {field scopeField : Text} {allowed : List Text}
    {wellFormed : Json → Bool} {toJson : ρ → Json} {rows : List ρ}
    (listed : body.item field (.arr []) = .arr (rows.map toJson))
    (inside : ∀ row ∈ rows, ((toJson row).item scopeField).pyStr ∈ allowed)
    (formed : ∀ row ∈ rows, wellFormed (toJson row) = true) :
    assertItems body field scopeField allowed wellFormed = .ok () := by
  refine bind_eq_ok.mpr ⟨rows.map toJson, ?_, forM_eq_ok.mpr fun item member => ?_⟩
  · rw [listed]
    exact Check.lift_eq_ok.mpr rfl
  · obtain ⟨row, there, rfl⟩ := List.mem_map.mp (List.mem_of_mem_filter member)
    rw [if_pos]
    rw [Bool.and_eq_true, List.contains_iff_mem]
    exact ⟨inside row there, formed row there⟩

theorem bounded_of_within (env : RetrievalEnv)
    (knowledge : idArray (request.get? "knowledge_scope_ids") = true)
    (memory : idArray (request.get? "memory_scope_ids") = true) (within : Within request response) :
    assertRetrievalResponseIsBounded request (response.toJson env) = .ok () := by
  obtain ⟨knowledgeItems, knowledge_eq, knowledge_ids⟩ := iterate_idArray knowledge
  obtain ⟨memoryItems, memory_eq, memory_ids⟩ := iterate_idArray memory
  have reads {value : Json} {field : Text} {items : List Json}
      (found : (value.item field (.arr [])).iterate = .ok items) :
      (do return (← Check.lift (value.item field (.arr [])).iterate).map Json.pyStr : Check _) =
        .ok (items.map Json.pyStr) :=
    bind_eq_ok.mpr ⟨items, Check.lift_eq_ok.mpr found, rfl⟩
  refine bind_eq_ok.mpr ⟨_, reads knowledge_eq, bind_eq_ok.mpr ⟨_, reads memory_eq, ?_⟩⟩
  refine bind_eq_ok.mpr ⟨_, reads (iterate_jsonStrings response.allowedKnowledgeScopeIds).1, ?_⟩
  refine bind_eq_ok.mpr ⟨_, reads (iterate_jsonStrings response.allowedMemoryScopeIds).1, ?_⟩
  rw [knowledge_ids, memory_ids, (iterate_jsonStrings _).2, (iterate_jsonStrings _).2]
  refine bind_eq_ok.mpr ⟨⟨⟩, Check.denyIf_eq_ok.mpr ?_, bind_eq_ok.mpr ⟨⟨⟩, ?_, ?_⟩⟩
  · rw [Json.missing_eq_nil.mpr within.knowledge, Json.missing_eq_nil.mpr within.memory]
    rfl
  · exact assertItems_rows rfl within.chunks fun _ _ => rfl
  · exact assertItems_rows rfl within.records fun _ _ => rfl

end Checks

private theorem render_memory (memory : MemoryRecordRow) :
    ∃ rendered, renderMemoryRecord memory.toJson = .ok rendered ∧ Renders memory rendered :=
  ⟨_, rfl, rfl, rfl, rfl, rfl, rfl, rfl, rfl, rfl⟩

theorem render_memoryRecords (env : RetrievalEnv) (response : RetrievalResponse) :
    ∃ rendered, (memoryRecords (response.toJson env)).mapM renderMemoryRecord = .ok rendered ∧
      List.Forall₂ Renders response.memoryRecords rendered := by
  change ∃ rendered, (response.memoryRecords.map MemoryRecordRow.toJson).mapM renderMemoryRecord =
    .ok rendered ∧ _
  rw [List.mapM_map]
  exact mapM_related fun memory _ => render_memory memory

/-- What the context manager asks of the body that answers a request: it is bounded, and its memory
records are rendered in their order. -/
structure Usable (request body : Json) (memories : List MemoryRecordRow) : Prop where
  bounded : assertRetrievalResponseIsBounded request body = .ok ()
  rendered : ∃ rendered, (memoryRecords body).mapM renderMemoryRecord = .ok rendered ∧
    List.Forall₂ Renders memories rendered

theorem usable_of_answered {database : Database} {indexes : VectorIndexes} {request : Json}
    {response : RetrievalResponse} (env : RetrievalEnv)
    (answered : handleRetrievalContext database indexes request = .ok response) :
    Usable request (response.toJson env) response.memoryRecords := by
  obtain ⟨accepted, within⟩ := accepted_of_answered answered
  obtain ⟨knowledge, memory, -⟩ := RetrievalIsolation.checks_of_accepted accepted
  exact ⟨bounded_of_within env knowledge memory within, render_memoryRecords env response⟩

/-- The Worker as the client of a context manager; what it refuses is raised. -/
def workerClient (refuse : Text → PyError) (database : Database) (indexes : VectorIndexes)
    (env : RetrievalEnv) (request : Json) : Except PyError Json :=
  ((handleRetrievalContext database indexes request).map
    (RetrievalResponse.toJson env)).mapError refuse

theorem perform_load {client : Json → Except PyError Json} {profile : JsonObject} {query : Text}
    {enforcer after : RuntimeProfileEnforcer} {scopes : Scopes} {body id instructions : Json}
    {rendered : List Json}
    (checked : perform (RuntimeContextManager.requireScopes profile) enforcer = (.ok scopes, after))
    (answers : client (retrievalRequest profile scopes query) = .ok body)
    (bounded : assertRetrievalResponseIsBounded (retrievalRequest profile scopes query) body =
      .ok ())
    (renders : (memoryRecords body).mapM renderMemoryRecord = .ok rendered)
    (named : (Json.obj profile).get? "id" = some id)
    (instructed : (Json.obj profile).get? "instructions" = some instructions) :
    ∃ context, perform (load (some client) profile query) enforcer = (.ok context, after) ∧
      context.get? "retrieval_response" = some body ∧
      context.get? "rendered_memory_records" = some (.arr rendered) := by
  have responds : respond (some client) (retrievalRequest profile scopes query) = .ok body :=
    bind_eq_ok.mpr ⟨body, Check.lift_eq_ok.mpr answers, bind_eq_ok.mpr ⟨⟨⟩, bounded, rfl⟩⟩
  have lifted : Check.lift ((memoryRecords body).mapM renderMemoryRecord) = .ok rendered :=
    Check.lift_eq_ok.mpr renders
  have reads {field : Text} {value : Json} (found : (Json.obj profile).get? field = some value) :
      Check.lift (RuntimeProfileComposer.subscript (.obj profile) field) = .ok value := by
    rw [RuntimeProfileComposer.subscript, found]
    rfl
  have passes {α : Type} {checks : JsonObject → Check α} {value : α}
      (passed : checks after.profile = .ok value) :
        perform (check checks) after = (.ok value, after) := by
    rw [RetrievalRequests.perform_check, passed]
  unfold load
  exact ⟨_, (perform_bind_eq checked).trans <| (perform_bind_eq (passes responds)).trans <|
    (perform_bind_eq (passes lifted)).trans <| (perform_bind_eq (passes (reads named))).trans <|
    (perform_bind_eq (passes (reads instructed))).trans (perform_pure _ after), rfl, rfl⟩

/-- Worker retrieval answers are usable: whatever request the Worker answers, the body is bounded
and its memory records are rendered in their order.  Where the request is the one that `load` builds
of a profile, `load` returns them. -/
theorem answers_usable {database : Database} {indexes : VectorIndexes} {request : Json}
    {response : RetrievalResponse} (env : RetrievalEnv) (refuse : Text → PyError)
    (answered : handleRetrievalContext database indexes request = .ok response) :
    Usable request (response.toJson env) response.memoryRecords ∧
      ∀ (profile : JsonObject) (query : Text) (enforcer after : RuntimeProfileEnforcer)
        (scopes : Scopes) (id instructions : Json),
        perform (RuntimeContextManager.requireScopes profile) enforcer = (.ok scopes, after) →
        request = retrievalRequest profile scopes query →
        (Json.obj profile).get? "id" = some id →
        (Json.obj profile).get? "instructions" = some instructions →
        ∃ context rendered, perform
            (load (some (workerClient refuse database indexes env)) profile query) enforcer =
              (.ok context, after) ∧
          context.get? "retrieval_response" = some (response.toJson env) ∧
          context.get? "rendered_memory_records" = some (.arr rendered) ∧
          List.Forall₂ Renders response.memoryRecords rendered := by
  have usable := usable_of_answered env answered
  refine ⟨usable, ?_⟩
  rintro profile query enforcer after scopes id instructions checked rfl named instructed
  obtain ⟨rendered, renders, related⟩ := usable.rendered
  have answers : workerClient refuse database indexes env (retrievalRequest profile scopes query) =
      .ok (response.toJson env) := by
    rw [workerClient, answered]
    rfl
  obtain ⟨context, loaded, body, records⟩ :=
    perform_load checked answers usable.bounded renders named instructed
  exact ⟨context, rendered, loaded, body, records, related⟩

/-- What the reader learned in a run. -/
def sampleMemory : MemoryRecordRow :=
  ⟨"habit-1", "mod-habits", "1.0.0", "r2://memory/habit-1", "r2://memory/manifest",
    "run-1", "profile-1",
    .internal, "standard", .active⟩

def memoryDatabase : Database where
  memoryRecords := ⟨[sampleMemory], by decide⟩
  scopeBindings := ⟨[⟨"b1", "mod-habits", .memoryScope, .role, "reader", "mod-policy", .allow⟩],
    by decide⟩

def readerProfile : JsonObject :=
  [("id", .str "profile-2"), ("instructions", .str "Sort."),
    ("auth_context", .obj [("roles", .arr [.str "reader"])]),
    ("memory_scopes", .arr [.str "habits"])]

theorem habits_usable :
    ∃ response, handleRetrievalContext memoryDatabase (fun _ _ => .ok [])
        (retrievalRequest readerProfile ⟨[], ["habits"], []⟩ "mail") = .ok response ∧
      response.memoryRecords = [sampleMemory] ∧
      Usable (retrievalRequest readerProfile ⟨[], ["habits"], []⟩ "mail")
        (response.toJson ⟨none, false, false⟩) response.memoryRecords := by
  have answered : handleRetrievalContext memoryDatabase (fun _ _ => .ok [])
      (retrievalRequest readerProfile ⟨[], ["habits"], []⟩ "mail") = .ok
        { query := .str "mail", vectorizeStatus := "d1_prefilter_ready",
          allowedKnowledgeScopeIds := [], allowedMemoryScopeIds := ["mod-habits"],
          knowledgeChunks := [], memoryRecords := [sampleMemory],
          knowledgeMatches := [], memoryMatches := [] } := by decide
  refine ⟨_, answered, rfl, ?_⟩
  exact (answers_usable ⟨none, false, false⟩ (fun message => ⟨.osError, message, none⟩) answered).1

end SkillCentric.RetrievalAnswers
