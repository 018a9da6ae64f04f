import SkillCentric.Properties.EnqueueIdempotency
import SkillCentric.Runtime.ArtifactUris

/-!
# Artifact round trip

A payload is read back as it was written exactly when none of its strings was moved to chunk
files: the reader does not put chunked strings back.  Queued tasks and composition contexts, and
with them manual retries, inherit the condition.
-/

namespace SkillCentric

open RuntimeQueueManager

namespace JsonArtifactStore

variable (store : JsonArtifactStore)

mutual

/-- The number of strings in a value. -/
def strings : Json → Nat
  | .str _ => 1
  | .arr items => stringsOfItems items
  | .obj fields => stringsOfFields fields
  | _ => 0

def stringsOfItems : List Json → Nat
  | [] => 0
  | item :: rest => strings item + stringsOfItems rest

def stringsOfFields : List (Text × Json) → Nat
  | [] => 0
  | (_, value) :: rest => strings value + stringsOfFields rest

end

def moved (kept : Bool) : Nat := if kept then 0 else 1

theorem moved_and (left right : Bool) : moved (left && right) ≤ moved left + moved right := by
  cases left <;> cases right <;> decide

mutual

theorem strings_chunkLargeStrings (base field : List Text) : (payload : Json) →
    strings payload + moved (store.unchunked payload) ≤
      strings (store.chunkLargeStrings base field payload).1
  | .str value => by
      simp only [unchunked, chunkLargeStrings]
      split
      · rename_i small
        simp [small, moved]
      · rename_i large
        simp [large, moved, chunkedText, strings, stringsOfFields]
  | .arr items => by
      have bound := stringsOfItems_chunkItems base field 0 items
      simpa [strings, unchunked, chunkLargeStrings] using bound
  | .obj fields => by
      have bound := stringsOfFields_chunkFields base field fields
      simpa [strings, unchunked, chunkLargeStrings] using bound
  | .null | .bool _ | .int _ | .float _ => by simp [strings, unchunked, moved, chunkLargeStrings]

theorem stringsOfItems_chunkItems (base field : List Text) (index : Nat) : (items : List Json) →
    stringsOfItems items + moved (store.unchunkedItems items) ≤
      stringsOfItems (store.chunkItems base field index items).1
  | [] => by simp [stringsOfItems, unchunkedItems, moved, chunkItems]
  | item :: rest => by
      have first := strings_chunkLargeStrings base (field ++ [decimal index]) item
      have others := stringsOfItems_chunkItems base field (index + 1) rest
      have flags := moved_and (store.unchunked item) (store.unchunkedItems rest)
      simp only [stringsOfItems, unchunkedItems, chunkItems]
      omega

theorem stringsOfFields_chunkFields (base field : List Text) : (fields : List (Text × Json)) →
    stringsOfFields fields + moved (store.unchunkedFields fields) ≤
      stringsOfFields (store.chunkFields base field fields).1
  | [] => by simp [stringsOfFields, unchunkedFields, moved, chunkFields]
  | (name, value) :: rest => by
      have first := strings_chunkLargeStrings base (field ++ [name]) value
      have others := stringsOfFields_chunkFields base field rest
      have flags := moved_and (store.unchunked value) (store.unchunkedFields rest)
      simp only [stringsOfFields, unchunkedFields, chunkFields]
      omega

end

/-- What is stored for a payload. -/
def stored (parts : List Text) (payload : Json) : Json :=
  (store.chunkLargeStrings (safeParts parts) [] payload).1

variable {payload : Json} (parts : List Text)

theorem stored_of_unchunked
    (small : store.unchunked payload = true) : store.stored parts payload = payload := by
  rw [stored, store.chunkLargeStrings_of_unchunked _ _ payload small]

theorem strings_stored_le (payload : Json) :
    strings payload ≤ strings (store.stored parts payload) := by
  have bound := store.strings_chunkLargeStrings (safeParts parts) [] payload
  rw [stored]
  omega

theorem strings_lt_stored (large : store.unchunked payload = false) :
    strings payload < strings (store.stored parts payload) := by
  have bound := store.strings_chunkLargeStrings (safeParts parts) [] payload
  rw [large] at bound
  rw [stored]
  simp only [moved, Bool.false_eq_true, if_false] at bound
  omega

theorem stored_eq_iff (payload : Json) :
    store.stored parts payload = payload ↔ store.unchunked payload = true := by
  constructor
  · intro same
    by_contra large
    have grown := store.strings_lt_stored parts (Bool.eq_false_iff.mpr large)
    rw [same] at grown
    omega
  · exact store.stored_of_unchunked parts

theorem stored_stored_eq_iff {other : JsonArtifactStore} (parts otherParts : List Text)
    (payload : Json)
    (threshold : other.chunkStringThresholdBytes = store.chunkStringThresholdBytes) :
    other.stored otherParts (store.stored parts payload) = payload ↔
      store.unchunked payload = true := by
  constructor
  · intro same
    by_contra large
    have grown := store.strings_lt_stored parts (Bool.eq_false_iff.mpr large)
    have kept := other.strings_stored_le otherParts (store.stored parts payload)
    rw [same] at kept
    omega
  · intro small
    rw [store.stored_of_unchunked parts small]
    exact other.stored_of_unchunked otherParts
      ((store.unchunked_congr threshold payload).trans small)

theorem chunkedText_paths (base field : List Text) (encoded : List UInt8) :
    ∀ entry ∈ (store.chunkedText base field encoded).2,
      base ++ [("chunks" : Text)] <+: entry.1 := by
  intro entry member
  simp only [chunkedText, List.mem_append, List.mem_map, List.mem_singleton] at member
  rcases member with ⟨index, -, rfl⟩ | rfl
  · exact ⟨_, (List.append_assoc _ _ _).symm⟩
  · exact ⟨_, (List.append_assoc _ _ _).symm⟩

mutual

theorem chunkLargeStrings_paths (base field : List Text) : (payload : Json) →
    ∀ entry ∈ (store.chunkLargeStrings base field payload).2,
      base ++ [("chunks" : Text)] <+: entry.1
  | .str value => by
      simp only [chunkLargeStrings]
      split
      · simp
      · exact store.chunkedText_paths base field _
  | .arr items => by
      simpa only [chunkLargeStrings] using chunkItems_paths base field 0 items
  | .obj fields => by
      simpa only [chunkLargeStrings] using chunkFields_paths base field fields
  | .null | .bool _ | .int _ | .float _ => by simp [chunkLargeStrings]

theorem chunkItems_paths (base field : List Text) (index : Nat) : (items : List Json) →
    ∀ entry ∈ (store.chunkItems base field index items).2, base ++ [("chunks" : Text)] <+: entry.1
  | [] => by simp [chunkItems]
  | item :: rest => by
      intro entry member
      simp only [chunkItems, List.mem_append] at member
      rcases member with first | later
      · exact chunkLargeStrings_paths base _ item entry first
      · exact chunkItems_paths base field (index + 1) rest entry later

theorem chunkFields_paths (base field : List Text) : (fields : List (Text × Json)) →
    ∀ entry ∈ (store.chunkFields base field fields).2, base ++ [("chunks" : Text)] <+: entry.1
  | [] => by simp [chunkFields]
  | (name, value) :: rest => by
      intro entry member
      simp only [chunkFields, List.mem_append] at member
      rcases member with first | later
      · exact chunkLargeStrings_paths base _ value entry first
      · exact chunkFields_paths base field rest entry later

end

theorem get?_foldl_set {files : Dict ArtifactPath Artifact} {path : ArtifactPath}
    {entries : List (ArtifactPath × Artifact)} (elsewhere : ∀ entry ∈ entries, entry.1 ≠ path) :
    (entries.foldl (fun files entry => files.set entry.1 entry.2) files).get? path =
      files.get? path := by
  induction entries generalizing files with
  | nil => rfl
  | cons entry rest ih =>
      rw [List.foldl_cons, ih fun other member => elsewhere other (by simp [member])]
      exact Dict.get?_set_ne files _ (elsewhere entry (by simp)).symm

theorem readJson_writeJson (payload : Json) :
    (store.writeJson parts payload).2.readJson (relativePath parts) =
      .ok (store.stored parts payload) := by
  rw [readJson_eq_ok_iff]
  exact Dict.get?_set_self _ _ _

theorem readJson_writeJson_of_ne (payload : Json) {path : ArtifactPath}
    (path_ne : path ≠ relativePath parts)
    (outside : ¬safeParts parts ++ [("chunks" : Text)] <+: path) :
    (store.writeJson parts payload).2.readJson path = store.readJson path := by
  have kept : (store.writeJson parts payload).2.files.get? path = store.files.get? path := by
    refine (Dict.get?_set_ne _ _ path_ne).trans (get?_foldl_set fun entry member => ?_)
    rintro rfl
    exact outside (store.chunkLargeStrings_paths _ _ payload entry member)
  unfold readJson
  rw [kept]

theorem writeJson_threshold (payload : Json) :
    (store.writeJson parts payload).2.chunkStringThresholdBytes =
      store.chunkStringThresholdBytes := rfl

theorem writeJsonUri_ok {parts : List Text} (payload : Json) (parts_ne : safeParts parts ≠ [])
    (size_ne : store.chunkSizeBytes ≠ 0) :
    store.writeJsonUri parts payload =
      (.ok (store.uriText (relativePath parts)), (store.writeJson parts payload).2) := by
  rw [writeJsonUri, if_neg parts_ne, if_neg fun zero => size_ne zero.1]
  rfl

theorem readJsonUri_writeJsonUri (root : List Text) {parts : List Text}
    {uri : Text} {after : JsonArtifactStore}
    (written : store.writeJsonUri parts payload = (.ok uri, after)) :
    after.readJsonUri root uri = .ok payload ↔ store.unchunked payload = true := by
  unfold writeJsonUri at written
  split at written
  · cases written
  · split at written
    · cases written
    · obtain ⟨rfl, rfl⟩ : store.uriText (relativePath parts) = uri ∧
          (store.writeJson parts payload).2 = after := by
        constructor
        · exact Except.ok.inj (Prod.mk.inj written).1
        · exact (Prod.mk.inj written).2
      have read : (store.writeJson parts payload).2.readJsonUri root
          (store.uriText (relativePath parts)) =
          (store.writeJson parts payload).2.readJson (relativePath parts) :=
        readJsonUri_uriText root (plainPart_relativePath parts)
      rw [read, readJson_writeJson, Except.ok.injEq]
      exact store.stored_eq_iff parts payload

end JsonArtifactStore

namespace ArtifactRoundTrip

open EnqueueIdempotency (taskPath contextPath taskPath_eq contextPath_eq taskPath_ne_contextPath
  crowded run_checkQueuedLimit)

/-- The payloads of an item are read back as the given ones. -/
def Reads (plane : Plane) (item : QueueItem) (task : JsonObject) (context : Option JsonObject) :
    Prop :=
  ((loadTask item).run exec plane).1 = .ok task ∧
    ((loadCompositionContext item).run exec plane).1 = .ok context

/-- No string of the payloads is moved. -/
def Inline (store : JsonArtifactStore) (task : JsonObject) (context : Option JsonObject) : Prop :=
  store.unchunked (.obj task) = true ∧ ∀ fields ∈ context, store.unchunked (.obj fields) = true

/-- The item is stored with the payloads it was enqueued with, and nobody wrote to their files. -/
structure Untouched (after later : Plane) (item current : QueueItem) : Prop where
  stored : later.items.get? item.id = some current
  taskPayloadUri : current.taskPayloadUri = item.taskPayloadUri
  compositionContextUri : current.compositionContextUri = item.compositionContextUri
  task : later.artifacts.readJson item.taskPayloadUri = after.artifacts.readJson item.taskPayloadUri
  context : ∀ uri ∈ item.compositionContextUri,
    later.artifacts.readJson uri = after.artifacts.readJson uri
  threshold : later.artifacts.chunkStringThresholdBytes = after.artifacts.chunkStringThresholdBytes

section Queue

variable {plane after later final : Plane} {store : JsonArtifactStore} {key : Text}
  {task : JsonObject} {context : Option JsonObject} {item current : QueueItem}

def storedFields (store : JsonArtifactStore) (parts : List Text)
    (fields : JsonObject) : JsonObject :=
  (store.chunkFields (safeParts parts) [] fields).1

theorem stored_obj (parts : List Text) (fields : JsonObject) :
    store.stored parts (.obj fields) = .obj (storedFields store parts fields) := by
  simp only [JsonArtifactStore.stored, JsonArtifactStore.chunkLargeStrings, storedFields]

theorem storedFields_eq_iff (parts : List Text) (fields : JsonObject) :
    storedFields store parts fields = fields ↔ store.unchunked (.obj fields) = true := by
  rw [← store.stored_eq_iff parts, stored_obj, Json.obj.injEq]

theorem storedFields_twice_iff {other : JsonArtifactStore} (parts otherParts : List Text)
    (fields : JsonObject)
    (threshold : other.chunkStringThresholdBytes = store.chunkStringThresholdBytes) :
    storedFields other otherParts (storedFields store parts fields) = fields ↔
      store.unchunked (.obj fields) = true := by
  rw [← store.stored_stored_eq_iff parts otherParts (.obj fields) threshold, stored_obj, stored_obj,
    Json.obj.injEq]

def taskParts (key : Text) : List Text := taskPayloadParts (queueIdOf key)

def contextParts (key : Text) : List Text := compositionContextParts (queueIdOf key)

def writePayloads (store : JsonArtifactStore) (key : Text) (task : JsonObject)
    (context : Option JsonObject) : JsonArtifactStore :=
  let written := (store.writeJson (taskParts key) (.obj task)).2
  match context with
  | none => written
  | some fields => (written.writeJson (contextParts key) (.obj fields)).2

theorem safeParts_contextParts (key : Text) :
    safeParts (contextParts key) =
      [("queue" : Text), queueIdOf key, ("composition-context-response" : Text)] :=
  EnqueueIdempotency.safeParts_queue key (by decide) (by decide)

theorem readJson_writePayloads_task :
    (writePayloads store key task context).readJson (taskPath key) =
      .ok (.obj (storedFields store (taskParts key) task)) := by
  have first : (store.writeJson (taskParts key) (.obj task)).2.readJson (taskPath key) =
      .ok (.obj (storedFields store (taskParts key) task)) := by
    rw [← stored_obj]
    exact store.readJson_writeJson (taskParts key) (.obj task)
  cases context with
  | none => exact first
  | some fields =>
      refine (JsonArtifactStore.readJson_writeJson_of_ne _ (contextParts key) (.obj fields)
        (taskPath_ne_contextPath key key) ?_).trans first
      rw [safeParts_contextParts, taskPath_eq]
      rintro ⟨tail, equal⟩
      have lengths := congrArg List.length equal
      simp at lengths

theorem readJson_writePayloads_context {fields : JsonObject} :
    (writePayloads store key task (some fields)).readJson (contextPath key) =
      .ok (.obj (storedFields (store.writeJson (taskParts key) (.obj task)).2 (contextParts key)
        fields)) := by
  rw [← stored_obj]
  exact JsonArtifactStore.readJson_writeJson _ (contextParts key) (.obj fields)

theorem run_loadTask {fields : JsonObject}
    (read : plane.artifacts.readJson item.taskPayloadUri = .ok (.obj fields)) :
    (loadTask item).run exec plane = (.ok fields, plane) := by
  have reply : exec (.readJson item.taskPayloadUri) plane = (.ok (.obj fields), plane) :=
    congrArg (·, plane) read
  simp only [loadTask, Py.call, Py.lift, Program.run_bind, Program.run_op, reply,
    Program.run_ofExcept]
  rfl

theorem run_loadCompositionContext
    (read : ∀ uri ∈ item.compositionContextUri, ∃ fields,
      plane.artifacts.readJson uri = .ok (.obj fields) ∧ context = some fields)
    (absent : item.compositionContextUri = none → context = none) :
    (loadCompositionContext item).run exec plane = (.ok context, plane) := by
  unfold loadCompositionContext
  cases uri_eq : item.compositionContextUri with
  | none =>
      rw [absent uri_eq]
      rfl
  | some uri =>
      obtain ⟨fields, stored, rfl⟩ := read uri uri_eq
      have reply : exec (.readJson uri) plane = (.ok (.obj fields), plane) :=
        congrArg (·, plane) stored
      simp only [Py.call, Py.lift, Program.run_bind, Program.run_op, reply, Program.run_ofExcept]
      rfl

def storedTask (store : JsonArtifactStore) (key : Text) (task : JsonObject) : JsonObject :=
  storedFields store (taskParts key) task

def storedContext (store : JsonArtifactStore) (key : Text) (task : JsonObject)
    (context : Option JsonObject) : Option JsonObject :=
  context.map (storedFields (store.writeJson (taskParts key) (.obj task)).2 (contextParts key))

theorem run_loads (task_read : plane.artifacts.readJson item.taskPayloadUri =
      .ok (.obj (storedTask store key task)))
    (uris : item.compositionContextUri = context.map fun _ => contextPath key)
    (context_read : ∀ uri ∈ item.compositionContextUri,
      plane.artifacts.readJson uri = (writePayloads store key task context).readJson uri) :
    (loadTask item).run exec plane = (.ok (storedTask store key task), plane) ∧
      (loadCompositionContext item).run exec plane =
        (.ok (storedContext store key task context), plane) := by
  refine ⟨run_loadTask task_read, run_loadCompositionContext ?_ ?_⟩
  · intro uri named
    have same := context_read uri named
    rw [uris] at named
    cases context with
    | none => cases named
    | some fields =>
        have uri_eq : uri = contextPath key := (Option.mem_some.mp named).symm
        rw [uri_eq] at same ⊢
        rw [readJson_writePayloads_context] at same
        exact ⟨_, same, rfl⟩
  · intro absent
    rw [uris] at absent
    cases context with
    | none => rfl
    | some fields => cases absent

theorem storedContext_eq_iff :
    storedContext store key task context = context ↔
      ∀ fields ∈ context, store.unchunked (.obj fields) = true := by
  cases context with
  | none => simp [storedContext]
  | some fields =>
      rw [storedContext, Option.map_some, Option.some.injEq, storedFields_eq_iff,
        store.unchunked_congr (store.writeJson_threshold _ _)]
      simp

theorem storedContext_twice_iff {other : JsonArtifactStore} {otherKey : Text}
    {otherTask : JsonObject}
    (threshold : other.chunkStringThresholdBytes = store.chunkStringThresholdBytes) :
    storedContext other otherKey otherTask (storedContext store key task context) = context ↔
      ∀ fields ∈ context, store.unchunked (.obj fields) = true := by
  cases context with
  | none => simp [storedContext]
  | some fields =>
      have written :
          (other.writeJson (taskParts otherKey) (.obj otherTask)).2.chunkStringThresholdBytes =
          (store.writeJson (taskParts key) (.obj task)).2.chunkStringThresholdBytes := threshold
      rw [storedContext, storedContext, Option.map_some, Option.map_some, Option.some.injEq,
        storedFields_twice_iff _ _ _ written,
        store.unchunked_congr (store.writeJson_threshold _ _)]
      simp

variable {request : EnqueueRequest}

theorem run_enqueue_writes {analyzed : AnalyzedTask}
    (checks : enqueueChecks request = .ok analyzed)
    (room : crowded plane request analyzed = false) :
    (enqueue request).run exec plane =
      let key := effectiveKey request.idempotencyKey analyzed.taskId
      let inserted := plane.store.insertRuntimeQueueItem
        (EnqueueIdempotency.newItem ⟨plane.clock, request⟩ analyzed key)
      (.ok inserted.1, { plane with
        store := inserted.2
        artifacts := writePayloads plane.artifacts key request.task
          request.compositionContextResponse }) := by
  unfold enqueue
  simp only [checks, Py.lift, Program.run_bind, Program.run_ofExcept, run_checkQueuedLimit, room,
    Bool.false_eq_true, if_false, run_timestamp]
  unfold EnqueueIdempotency.newItem
  cases request.compositionContextResponse with
  | none => rfl
  | some fields => rfl

theorem enqueue_created (ran : (enqueue request).run exec plane = (.ok item, after))
    (created : item ∉ plane.items.values) :
    ∃ key, item.taskPayloadUri = taskPath key ∧
      item.compositionContextUri =
        request.compositionContextResponse.map (fun _ => contextPath key) ∧
      after.artifacts =
        writePayloads plane.artifacts key request.task request.compositionContextResponse := by
  cases checks : enqueueChecks request with
  | error error => simp [enqueue, checks, Py.lift, Program.run_bind] at ran
  | ok analyzed =>
      by_cases full : crowded plane request analyzed = true
      · simp [enqueue, checks, Py.lift, Program.run_bind, run_checkQueuedLimit, full] at ran
      · rw [run_enqueue_writes checks (Bool.eq_false_iff.mpr full)] at ran
        obtain ⟨returned, rfl⟩ := Prod.mk.inj ran
        have item_eq := Except.ok.inj returned
        unfold InMemoryRuntimeStore.insertRuntimeQueueItem at item_eq
        split at item_eq
        · rename_i existing found
          exact (created (item_eq ▸ List.mem_of_find?_eq_some found)).elim
        · subst item_eq
          exact ⟨_, rfl, rfl, rfl⟩

theorem enqueue_reads (ran : (enqueue request).run exec plane = (.ok item, after))
    (created : item ∉ plane.items.values) :
    Reads after item request.task request.compositionContextResponse ↔
      Inline plane.artifacts request.task request.compositionContextResponse := by
  obtain ⟨key, task_uri, context_uri, artifacts⟩ := enqueue_created ran created
  have task_read : after.artifacts.readJson item.taskPayloadUri =
      .ok (.obj (storedTask plane.artifacts key request.task)) := by
    rw [task_uri, artifacts]
    exact readJson_writePayloads_task
  obtain ⟨task_run, context_run⟩ := run_loads task_read context_uri fun uri _ => by rw [artifacts]
  unfold Reads Inline
  rw [task_run, context_run, Except.ok.injEq, Except.ok.injEq]
  exact and_congr (storedFields_eq_iff _ _) storedContext_eq_iff

theorem retry_enqueues {request : RetryRequest} {retried : QueueItem}
    (stored : later.items.get? request.queueId = some current)
    (task_run : (loadTask current).run exec later = (.ok task, later))
    (context_run : (loadCompositionContext current).run exec later = (.ok context, later))
    (ran : (retry request).run exec later = (.ok retried, final)) :
    (enqueue (retryEnqueue request current task context)).run exec later =
      (.ok retried, final) := by
  simp only [retry, Program.run_bind, run_requireItem later stored, run_storedItem later stored]
    at ran
  by_cases allowed : retryable current.status = true
  · have passes : ∀ error, (Py.raiseIf ((!retryable current.status) = true) error).run exec later =
        (.ok (), later) := by
      intro error
      rw [Py.raiseIf, if_neg (by simp [allowed])]
      rfl
    simpa only [passes, run_storedItem later stored, task_run, context_run] using ran
  · have refused : ∀ error, (Py.raiseIf ((!retryable current.status) = true) error).run exec later =
        (.error error, later) := by
      intro error
      rw [Py.raiseIf, if_pos (by simp [allowed])]
      rfl
    simp only [refused] at ran
    cases (Prod.mk.inj ran).1

theorem retry_reads {again : RetryRequest} {retried : QueueItem}
    (ran : (enqueue request).run exec plane = (.ok item, after))
    (created : item ∉ plane.items.values) (untouched : Untouched after later item current)
    (named : again.queueId = item.id)
    (ran_again : (retry again).run exec later = (.ok retried, final))
    (created_again : retried ∉ later.items.values) :
    Reads final retried request.task request.compositionContextResponse ↔
      Inline plane.artifacts request.task request.compositionContextResponse := by
  obtain ⟨key, task_uri, context_uri, artifacts⟩ := enqueue_created ran created
  have threshold : later.artifacts.chunkStringThresholdBytes =
      plane.artifacts.chunkStringThresholdBytes := by
    rw [untouched.threshold, artifacts]
    unfold writePayloads
    split <;> rfl
  have task_read : later.artifacts.readJson current.taskPayloadUri =
      .ok (.obj (storedTask plane.artifacts key request.task)) := by
    rw [untouched.taskPayloadUri, untouched.task, task_uri, artifacts]
    exact readJson_writePayloads_task
  obtain ⟨task_run, context_run⟩ := run_loads task_read
    (untouched.compositionContextUri.trans context_uri) fun uri member => by
      rw [untouched.compositionContextUri] at member
      rw [untouched.context uri member, artifacts]
  have enqueued := retry_enqueues (named ▸ untouched.stored) task_run context_run ran_again
  obtain ⟨otherKey, task_uri, context_uri, artifacts⟩ := enqueue_created enqueued created_again
  have task_read : final.artifacts.readJson retried.taskPayloadUri =
      .ok (.obj
        (storedTask later.artifacts otherKey (storedTask plane.artifacts key request.task))) := by
    rw [task_uri, artifacts]
    exact readJson_writePayloads_task
  obtain ⟨task_run, context_run⟩ := run_loads task_read context_uri fun uri _ => by
    rw [artifacts]
    rfl
  unfold Reads Inline
  rw [task_run, context_run, Except.ok.injEq, Except.ok.injEq]
  exact and_congr (storedFields_twice_iff _ _ _ threshold) (storedContext_twice_iff threshold)

end Queue

/-- Payloads, queued payloads and retried payloads come back exactly when no string is above the
threshold. -/
theorem artifact_round_trip (request : EnqueueRequest) :
    (∀ (store after : JsonArtifactStore) (root parts : List Text) (payload : Json) (uri : Text),
      store.writeJsonUri parts payload = (.ok uri, after) →
        (after.readJsonUri root uri = .ok payload ↔ store.unchunked payload = true)) ∧
    (∀ (plane after : Plane) (item : QueueItem),
      (enqueue request).run exec plane = (.ok item, after) → item ∉ plane.items.values →
        (Reads after item request.task request.compositionContextResponse ↔
          Inline plane.artifacts request.task request.compositionContextResponse)) ∧
    ∀ (plane after later final : Plane) (again : RetryRequest) (item current retried : QueueItem),
      (enqueue request).run exec plane = (.ok item, after) → item ∉ plane.items.values →
      Untouched after later item current → again.queueId = item.id →
      (retry again).run exec later = (.ok retried, final) → retried ∉ later.items.values →
        (Reads final retried request.task request.compositionContextResponse ↔
          Inline plane.artifacts request.task request.compositionContextResponse) := by
  refine ⟨?_, ?_, ?_⟩
  · intro store after root parts payload uri written
    exact store.readJsonUri_writeJsonUri root written
  · intro plane after item ran created
    exact enqueue_reads ran created
  · intro plane after later final again item current retried ran created untouched named
      ran_again created_again
    exact retry_reads ran created untouched named ran_again created_again

/-- A task that is enqueued, cancelled and retried. -/
def sampleRequest : EnqueueRequest :=
  { task := Sample.task "task-a" "tenant-a"
    compositionContextResponse := some (Sample.authorized "tenant-a") }

def enqueuedPlane : Plane := ((enqueue sampleRequest).run exec .empty).2

/-- The plane after the cancellation. -/
def cancelledPlane : Plane :=
  ((markCancelled (queueIdOf "task-a:initial") none).run exec enqueuedPlane).2

/-- The retry of the task. -/
def sampleRetry : RetryRequest := { queueId := queueIdOf "task-a:initial" }

def itemOf (plane : Plane) (queueId : Text) : QueueItem :=
  (plane.items.get? queueId).getD (sampleRequest.record ⟨[], [], []⟩ [] [] [] none)

def retriedPlane : Plane := ((retry sampleRetry).run exec cancelledPlane).2

theorem artifact_round_trip_retried :
    Reads retriedPlane (itemOf retriedPlane (queueIdOf "task-a:initial:manual-retry:1"))
      (Sample.task "task-a" "tenant-a") (some (Sample.authorized "tenant-a")) :=
  ((artifact_round_trip sampleRequest).2.2 .empty enqueuedPlane cancelledPlane
    retriedPlane sampleRetry
    (itemOf enqueuedPlane (queueIdOf "task-a:initial"))
    (itemOf cancelledPlane (queueIdOf "task-a:initial"))
    (itemOf retriedPlane (queueIdOf "task-a:initial:manual-retry:1"))
    (Prod.ext (by decide) rfl) (by decide)
    ⟨by decide, by decide, by decide, by decide,
      by decide, by decide⟩
    (by decide) (Prod.ext (by decide) rfl) (by decide)).mpr
    ⟨by decide, by decide⟩

def largeText : Text := List.replicate 64001 'a'

theorem encodeUtf8_replicate (count : Nat) :
    (encodeUtf8 (List.replicate count 'a')).length = count := by
  induction count with
  | zero => rfl
  | succ count ih =>
      rw [List.replicate_succ]
      change (String.utf8EncodeChar 'a' ++ encodeUtf8 (List.replicate count 'a')).length = count + 1
      rw [List.length_append, ih]
      have one : (String.utf8EncodeChar 'a').length = 1 := by decide
      omega

theorem largeText_not_read_back :
    ¬∀ (store after : JsonArtifactStore) (root parts : List Text) (payload : Json) (uri : Text),
      store.writeJsonUri parts payload = (.ok uri, after) →
        after.readJsonUri root uri = .ok payload := by
  intro round_trip
  have large : JsonArtifactStore.empty.unchunked (.str largeText) = false := by
    have length := encodeUtf8_replicate 64001
    simp only [JsonArtifactStore.unchunked, largeText, length]
    decide
  have written := JsonArtifactStore.empty.writeJsonUri_ok (.str largeText)
    (show safeParts [("profile" : Text)] ≠ [] by decide) (by decide)
  have read := round_trip _ _ [] _ _ _ written
  rw [JsonArtifactStore.readJsonUri_writeJsonUri _ [] written, large] at read
  exact Bool.false_ne_true read

end ArtifactRoundTrip

end SkillCentric
