import SkillCentric.Runtime.Sequential
import SkillCentric.Runtime.SlugFixpoints
import SkillCentric.Runtime.System

/-!
# Enqueue idempotency

Enqueue calls one after another.  The payload artifacts are written before the idempotency key is
looked up, under a path made of the slugged key.  Nothing is lost as long as a known key comes with
the payloads it came with first and a new key has a slug of its own.
-/

namespace SkillCentric

open RuntimeQueueManager Slug

namespace EnqueueIdempotency

/-- An enqueue call and the time it is made at. -/
structure Call where
  clock : Datetime
  request : EnqueueRequest

/-- The plane after an enqueue, whether it was accepted or raised. -/
def step (plane : Plane) (call : Call) : Plane :=
  ((enqueue call.request).run exec { plane with clock := call.clock }).2

/-- An accepted enqueue. -/
structure Acceptance where
  key : Text
  request : EnqueueRequest
  analyzed : AnalyzedTask

def crowded (plane : Plane) (request : EnqueueRequest) (analyzed : AnalyzedTask) : Bool :=
  (request.tenantQueuedLimits analyzed.tenantId).any fun limit =>
    limit ≤ ((plane.items.values.countP fun item =>
      item.tenantId = analyzed.tenantId ∧ item.status.claimable : Nat) : Int)

/-- What an enqueue accepts. -/
def accepted (plane : Plane) (request : EnqueueRequest) : Option Acceptance :=
  match enqueueChecks request with
  | .error _ => none
  | .ok analyzed =>
      if crowded plane request analyzed then none
      else some ⟨effectiveKey request.idempotencyKey analyzed.taskId, request, analyzed⟩

/-- The accepted enqueues of a sequence, in order. -/
def acceptances (plane : Plane) : List Call → List Acceptance
  | [] => []
  | call :: rest => (accepted plane call.request).toList ++ acceptances (step plane call) rest

/-- An item has the key. -/
def Known (plane : Plane) (key : Text) : Prop :=
  ∃ item ∈ plane.items.values, item.idempotencyKey = key

instance (plane : Plane) (key : Text) : Decidable (Known plane key) :=
  inferInstanceAs (Decidable (∃ item ∈ plane.items.values, item.idempotencyKey = key))

def taskPath (key : Text) : ArtifactPath := relativePath (taskPayloadParts (queueIdOf key))

def contextPath (key : Text) : ArtifactPath :=
  relativePath (compositionContextParts (queueIdOf key))

/-- A known key comes with the stored payloads, a new key with an unused queue identifier. -/
def Consistent (plane : Plane) (call : Call) : Prop :=
  ∀ acceptance ∈ accepted plane call.request,
    if Known plane acceptance.key then
      plane.artifacts.readJson (taskPath acceptance.key) = .ok (.obj call.request.task) ∧
        ∀ context ∈ call.request.compositionContextResponse,
          plane.artifacts.readJson (contextPath acceptance.key) = .ok (.obj context)
    else (plane.items.get? (queueIdOf acceptance.key)).isNone

instance (plane : Plane) (call : Call) : Decidable (Consistent plane call) := by
  unfold Consistent
  infer_instance

/-- The item holds what was enqueued first. -/
structure Holds (plane : Plane) (first : Acceptance) (item : QueueItem) : Prop where
  taskId : item.taskId = first.analyzed.taskId
  tenantId : item.tenantId = first.analyzed.tenantId
  areaId : item.areaId = first.analyzed.areaId
  task : ((loadTask item).run exec plane).1 = .ok first.request.task
  context : ((loadCompositionContext item).run exec plane).1 =
    .ok first.request.compositionContextResponse

/-- One item for each accepted key, holding what was enqueued first. -/
def Represents (plane : Plane) (accepted : List Acceptance) : Prop :=
  ∀ key, match accepted.find? (·.key = key) with
    | none => plane.items.values.filter (·.idempotencyKey = key) = []
    | some first => ∃ item, plane.items.values.filter (·.idempotencyKey = key) = [item] ∧
        Holds plane first item

/-- A repeated enqueue with a known key leaves the store and the artifacts as they were. -/
def Idempotent (plane : Plane) (call : Call) : Prop :=
  ∀ analyzed, enqueueChecks call.request = .ok analyzed →
    Known plane (effectiveKey call.request.idempotencyKey analyzed.taskId) →
      (step plane call).store = plane.store ∧ (step plane call).artifacts = plane.artifacts

/-- No string of the payloads is above the chunk threshold. -/
def Unchunked (plane : Plane) (call : Call) : Prop :=
  plane.artifacts.unchunked (.obj call.request.task) = true ∧
    ∀ context ∈ call.request.compositionContextResponse,
      plane.artifacts.unchunked (.obj context) = true

instance (plane : Plane) (call : Call) : Decidable (Unchunked plane call) :=
  inferInstanceAs (Decidable (_ ∧ _))

section Run

variable {plane : Plane} {call : Call} {request : EnqueueRequest} {analyzed : AnalyzedTask}

def fileOptional (files : Dict ArtifactPath Artifact) (path : ArtifactPath)
    (payload : Option JsonObject) : Dict ArtifactPath Artifact :=
  match payload with
  | none => files
  | some fields => files.set path (.json (.obj fields))

def writtenFiles (files : Dict ArtifactPath Artifact) (request : EnqueueRequest) (key : Text) :
    Dict ArtifactPath Artifact :=
  fileOptional (files.set (taskPath key) (.json (.obj request.task))) (contextPath key)
    request.compositionContextResponse

def newItem (call : Call) (analyzed : AnalyzedTask) (key : Text) : QueueItem :=
  call.request.record analyzed (isoTimestamp call.clock) key (taskPath key)
    (call.request.compositionContextResponse.map fun _ => contextPath key)

theorem run_checkQueuedLimit :
    (checkQueuedLimit (request.tenantQueuedLimits analyzed.tenantId) analyzed.tenantId).run exec
      plane = if crowded plane request analyzed then
        (.error (queueError "Tenant queued backlog limit exceeded."), plane)
          else (.ok (), plane) := by
  unfold checkQueuedLimit crowded
  cases request.tenantQueuedLimits analyzed.tenantId with
  | none => rfl
  | some limit =>
      simp only [tenantQueuedCount, Py.raiseIf, Py.call, Program.run_bind, Program.run_op,
        Program.run_pure, exec, Option.any_some, decide_eq_true_eq]
      split <;> rfl

theorem run_writeJson (parts : List Text) {payload : Json}
    (small : plane.artifacts.unchunked payload = true) :
    (Py.call (.writeJson parts payload)).run exec plane =
      (.ok (relativePath parts), { plane with artifacts := { plane.artifacts with
        files := plane.artifacts.files.set (relativePath parts) (.json payload) } }) := by
  simp only [Py.call, Program.run_op, exec, JsonArtifactStore.writeJson_of_unchunked _ small]

theorem run_writeOptional (plane : Plane) (parts : List Text) {payload : Option JsonObject}
    (small : ∀ fields ∈ payload, plane.artifacts.unchunked (.obj fields) = true) :
    (writeOptional parts payload).run exec plane =
      (.ok (payload.map fun _ => relativePath parts), { plane with artifacts :=
        { plane.artifacts with
          files := fileOptional plane.artifacts.files (relativePath parts) payload } }) := by
  cases payload with
  | none => rfl
  | some fields =>
      simp only [writeOptional, Py.call, Program.run_bind, Program.run_op, Program.run_pure, exec,
        JsonArtifactStore.writeJson_of_unchunked _ (small fields rfl)]
      rfl

theorem run_enqueue (checks : enqueueChecks request = .ok analyzed)
    (room : crowded plane request analyzed = false)
    (small : plane.artifacts.unchunked (.obj request.task) = true)
    (small_context : ∀ context ∈ request.compositionContextResponse,
      plane.artifacts.unchunked (.obj context) = true) :
    ((enqueue request).run exec plane).2 =
      let key := effectiveKey request.idempotencyKey analyzed.taskId
      { plane with
        store :=
          (plane.store.insertRuntimeQueueItem (newItem ⟨plane.clock, request⟩ analyzed key)).2
        artifacts := { plane.artifacts with
          files := writtenFiles plane.artifacts.files request key } } := by
  have small_after : ∀ artifacts : JsonArtifactStore,
      artifacts.chunkStringThresholdBytes = plane.artifacts.chunkStringThresholdBytes →
      ∀ context ∈ request.compositionContextResponse,
        artifacts.unchunked (.obj context) = true := by
    intro artifacts same context given
    rw [plane.artifacts.unchunked_congr same]
    exact small_context context given
  unfold enqueue
  simp only [checks, Py.lift, Program.run_bind, Program.run_ofExcept, run_checkQueuedLimit, room,
    Bool.false_eq_true, if_false, run_timestamp]
  rw [run_writeJson _ small]
  refine (congrArg Prod.snd (Program.run_bind exec _ _ _)).trans ?_
  rw [run_writeOptional]
  · rfl
  · exact small_after _ rfl

theorem step_of_rejected (rejected : accepted plane call.request = none) :
    step plane call = { plane with clock := call.clock } := by
  unfold accepted at rejected
  unfold step enqueue
  cases checks : enqueueChecks call.request with
  | error error => simp [Py.lift, Program.run_bind]
  | ok analyzed =>
      have full : crowded { plane with clock := call.clock } call.request analyzed = true := by
        rw [checks] at rejected
        by_contra room
        have room : ¬crowded plane call.request analyzed = true := room
        simp [room] at rejected
      simp [Py.lift, Program.run_bind, run_checkQueuedLimit, full]

theorem step_of_accepted {acceptance : Acceptance} (small : Unchunked plane call)
    (accepts : accepted plane call.request = some acceptance) :
    acceptance.request = call.request ∧
      (step plane call).store = (plane.store.insertRuntimeQueueItem
        (newItem call acceptance.analyzed acceptance.key)).2 ∧
      (step plane call).artifacts = { plane.artifacts with
        files := writtenFiles plane.artifacts.files call.request acceptance.key } := by
  unfold accepted at accepts
  cases checks : enqueueChecks call.request with
  | error error => simp [checks] at accepts
  | ok analyzed =>
      rw [checks] at accepts
      by_cases full : crowded plane call.request analyzed
      · simp [full] at accepts
      · simp only [full, Bool.false_eq_true, if_false, Option.some.injEq] at accepts
        subst accepts
        have room : crowded { plane with clock := call.clock } call.request analyzed = false :=
          Bool.eq_false_iff.mpr full
        have ran := run_enqueue checks room small.1 small.2
        unfold step
        rw [ran]
        exact ⟨rfl, rfl, rfl⟩

end Run

theorem queueIdOf_ne_nil (key : Text) : queueIdOf key ≠ [] :=
  slugId_ne_nil key (.inr (by decide))

theorem safe_queueId (key : Text) :
    slugId (removeSuffix (queueIdOf key) ".json") = queueIdOf key := by
  have queue_word : IsWord ("queue" : Text) := by decide
  have undotted : ¬(".json" : Text).isSuffixOf (queueIdOf key) := by
    intro ends
    have dot : '.' ∈ queueIdOf key := (List.isSuffixOf_iff_suffix.mp ends).mem (by decide)
    exact dot_notMem_slugId key (.inr queue_word) dot
  unfold removeSuffix
  rw [if_neg undotted]
  exact slugId_slugId key queue_word rfl rfl

theorem safeParts_queue (key : Text) {name : Text}
    (safe : slugId (removeSuffix name ".json") = name) (name_ne : name ≠ []) :
    safeParts [("queue" : Text), queueIdOf key, name] =
      [("queue" : Text), queueIdOf key, name] := by
  unfold safeParts
  rw [List.filter_eq_self.mpr (by simp [queueIdOf_ne_nil key, name_ne])]
  simp only [List.map_cons, List.map_nil, safe_queueId, safe]
  rfl

theorem relativePath_queue (key : Text) {name : Text}
    (safe : slugId (removeSuffix name ".json") = name) (name_ne : name ≠ []) :
    relativePath [("queue" : Text), queueIdOf key, name] =
      [("queue" : Text), queueIdOf key, name ++ (".json" : Text)] := by
  rw [relativePath, safeParts_queue key safe name_ne]
  rfl

theorem taskPath_eq (key : Text) :
    taskPath key = [("queue" : Text), queueIdOf key, ("task-payload.json" : Text)] :=
  relativePath_queue key (by decide) (by decide)

theorem contextPath_eq (key : Text) :
    contextPath key =
      [("queue" : Text), queueIdOf key, ("composition-context-response.json" : Text)] :=
  relativePath_queue key (by decide) (by decide)

theorem taskPath_ne_contextPath (key other : Text) : taskPath key ≠ contextPath other := by
  rw [taskPath_eq, contextPath_eq]
  intro equal
  injection equal with _ equal
  injection equal with _ equal
  revert equal
  decide

variable {key other : Text}

private theorem queueIdOf_of_taskPath (equal : taskPath key = taskPath other) :
    queueIdOf key = queueIdOf other := by
  rw [taskPath_eq, taskPath_eq] at equal
  exact (List.cons.inj (List.cons.inj equal).2).1

private theorem queueIdOf_of_contextPath (equal : contextPath key = contextPath other) :
    queueIdOf key = queueIdOf other := by
  rw [contextPath_eq, contextPath_eq] at equal
  exact (List.cons.inj (List.cons.inj equal).2).1

theorem writtenFiles_of_ne (files : Dict ArtifactPath Artifact) (request : EnqueueRequest)
    (differ : queueIdOf other ≠ queueIdOf key) :
    (writtenFiles files request key).get? (taskPath other) = files.get? (taskPath other) ∧
      (writtenFiles files request key).get? (contextPath other) =
        files.get? (contextPath other) := by
  have task_ne : taskPath other ≠ taskPath key := fun equal => differ (queueIdOf_of_taskPath equal)
  have context_ne : contextPath other ≠ contextPath key := fun equal =>
    differ (queueIdOf_of_contextPath equal)
  unfold writtenFiles fileOptional
  cases request.compositionContextResponse with
  | none =>
      simp [Dict.get?_set_ne _ _ task_ne,
        Dict.get?_set_ne _ _ (taskPath_ne_contextPath key other).symm]
  | some context =>
      simp [Dict.get?_set_ne _ _ task_ne, Dict.get?_set_ne _ _ context_ne,
        Dict.get?_set_ne _ _ (taskPath_ne_contextPath key other).symm,
        Dict.get?_set_ne _ _ (taskPath_ne_contextPath other key)]

theorem writtenFiles_self (files : Dict ArtifactPath Artifact) (request : EnqueueRequest)
    (key : Text) :
    (writtenFiles files request key).get? (taskPath key) = some (.json (.obj request.task)) ∧
      ∀ context ∈ request.compositionContextResponse,
        (writtenFiles files request key).get? (contextPath key) = some (.json (.obj context)) := by
  unfold writtenFiles fileOptional
  cases request.compositionContextResponse with
  | none => simp
  | some context => simp [Dict.get?_set_ne _ _ (taskPath_ne_contextPath key key)]

theorem writtenFiles_of_same {files : Dict ArtifactPath Artifact} {request : EnqueueRequest}
    {key : Text} (task : files.get? (taskPath key) = some (.json (.obj request.task)))
    (context : ∀ context ∈ request.compositionContextResponse,
      files.get? (contextPath key) = some (.json (.obj context))) :
    writtenFiles files request key = files := by
  unfold writtenFiles fileOptional
  rw [Dict.set_of_same files task]
  cases given : request.compositionContextResponse with
  | none => rfl
  | some fields => exact Dict.set_of_same files (context fields given)

/-- The item and the files of a key are those of its first accepted enqueue. -/
structure Kept (plane : Plane) (first : Acceptance) (item : QueueItem) : Prop where
  key : item.idempotencyKey = first.key
  taskId : item.taskId = first.analyzed.taskId
  tenantId : item.tenantId = first.analyzed.tenantId
  areaId : item.areaId = first.analyzed.areaId
  taskUri : item.taskPayloadUri = taskPath first.key
  contextUri : item.compositionContextUri =
    first.request.compositionContextResponse.map fun _ => contextPath first.key
  task : plane.artifacts.files.get? (taskPath first.key) = some (.json (.obj first.request.task))
  context : ∀ context ∈ first.request.compositionContextResponse,
    plane.artifacts.files.get? (contextPath first.key) = some (.json (.obj context))

/-- The store after the accepted enqueues. -/
structure Inv (plane : Plane) (entries : List Acceptance) : Prop where
  keyed : ∀ id item, plane.items.get? id = some item → id = queueIdOf item.idempotencyKey
  accepted : ∀ id item, plane.items.get? id = some item →
    ∃ first, entries.find? (·.key = item.idempotencyKey) = some first
  kept : ∀ key first, entries.find? (·.key = key) = some first →
    ∃ item, plane.items.get? (queueIdOf key) = some item ∧ Kept plane first item

theorem key_of_find {entries : List Acceptance} {key : Text} {first : Acceptance}
    (found : entries.find? (·.key = key) = some first) : first.key = key := by
  simpa using List.find?_some found

section Invariant

variable {plane : Plane} {entries : List Acceptance}

theorem Kept.holds {first : Acceptance} {item : QueueItem} (kept : Kept plane first item) :
    Holds plane first item where
  taskId := kept.taskId
  tenantId := kept.tenantId
  areaId := kept.areaId
  task := by
    have stored := plane.artifacts.readJson_eq_ok_iff.mpr kept.task
    simp only [loadTask, Py.call, Py.lift, Program.run_bind, Program.run_op, exec, kept.taskUri,
      stored]
    rfl
  context := by
    unfold loadCompositionContext
    rw [kept.contextUri]
    cases given : first.request.compositionContextResponse with
    | none => rfl
    | some context =>
        have stored := plane.artifacts.readJson_eq_ok_iff.mpr (kept.context context given)
        simp only [Option.map_some, Py.call, Py.lift, Program.run_bind,
          Program.run_op, exec, stored]
        rfl

theorem Inv.represents (inv : Inv plane entries) : Represents plane entries := by
  intro key
  have only : ∀ id item, plane.items.get? id = some item →
      decide (item.idempotencyKey = key) = true → id = queueIdOf key := by
    intro id item stored same
    rw [inv.keyed id item stored, of_decide_eq_true same]
  rw [plane.items.filter_values_of_key (queueIdOf key) _ only]
  cases found : entries.find? (·.key = key) with
  | none =>
      rw [List.filter_eq_nil_iff]
      intro item member same
      have stored : plane.items.get? (queueIdOf key) = some item := by simpa using member
      obtain ⟨first, known⟩ := inv.accepted _ item stored
      rw [of_decide_eq_true same, found] at known
      cases known
  | some first =>
      obtain ⟨item, stored, kept⟩ := inv.kept key first found
      have same : item.idempotencyKey = key := kept.key.trans (key_of_find found)
      exact ⟨item, by simp [stored, same], kept.holds⟩

theorem Inv.known (inv : Inv plane entries) {key : Text} :
    Known plane key ↔ ∃ first, entries.find? (·.key = key) = some first := by
  constructor
  · rintro ⟨item, member, rfl⟩
    obtain ⟨id, stored⟩ := (Dict.mem_values_iff _ _).mp member
    exact inv.accepted id item stored
  · rintro ⟨first, found⟩
    obtain ⟨item, stored, kept⟩ := inv.kept key first found
    exact ⟨item, (Dict.mem_values_iff _ _).mpr ⟨_, stored⟩, kept.key.trans (key_of_find found)⟩

theorem Inv.of_same {after : Plane} (inv : Inv plane entries) (items : after.items = plane.items)
    (artifacts : after.artifacts = plane.artifacts) : Inv after entries where
  keyed := by rw [items]; exact inv.keyed
  accepted := by rw [items]; exact inv.accepted
  kept := by
    intro key first found
    obtain ⟨item, stored, kept⟩ := inv.kept key first found
    rw [items]
    exact ⟨item, stored, { kept with
      task := by rw [artifacts]; exact kept.task
      context := by rw [artifacts]; exact kept.context }⟩

theorem Inv.append (inv : Inv plane entries) {acceptance : Acceptance}
    (known : Known plane acceptance.key) : Inv plane (entries ++ [acceptance]) := by
  have same :
      ∀ key, (entries ++ [acceptance]).find? (·.key = key) = entries.find? (·.key = key) := by
    intro key
    obtain ⟨first, found⟩ := inv.known.mp known
    rw [List.find?_append]
    by_cases equal : acceptance.key = key
    · rw [← equal, found]
      rfl
    · simp [equal]
  exact { keyed := inv.keyed
          accepted := by simpa only [same] using inv.accepted
          kept := by simpa only [same] using inv.kept }

variable {call : Call} {acceptance : Acceptance}

theorem insert_of_known {record : QueueItem} (known : Known plane record.idempotencyKey) :
    (plane.store.insertRuntimeQueueItem record).2 = plane.store := by
  unfold InMemoryRuntimeStore.insertRuntimeQueueItem
  split
  · rfl
  · rename_i absent
    obtain ⟨item, member, same⟩ := known
    simp only [List.find?_eq_none, decide_eq_true_eq] at absent
    exact (absent item member same).elim

theorem insert_of_new {record : QueueItem} (unknown : ¬Known plane record.idempotencyKey) :
    (plane.store.insertRuntimeQueueItem record).2.runtimeQueueItems =
      plane.items.set record.id record := by
  unfold InMemoryRuntimeStore.insertRuntimeQueueItem
  split
  · rename_i item found
    exact (unknown
      ⟨item, List.mem_of_find?_eq_some found, by simpa using List.find?_some found⟩).elim
  · rfl

theorem step_of_known (small : Unchunked plane call) (consistent : Consistent plane call)
    (accepts : accepted plane call.request = some acceptance)
    (known : Known plane acceptance.key) :
    (step plane call).store = plane.store ∧ (step plane call).artifacts = plane.artifacts := by
  obtain ⟨-, store, artifacts⟩ := step_of_accepted small accepts
  have stored := consistent acceptance accepts
  rw [if_pos known] at stored
  simp only [JsonArtifactStore.readJson_eq_ok_iff] at stored
  constructor
  · rw [store]
    exact insert_of_known known
  · rw [artifacts, writtenFiles_of_same stored.1 stored.2]

theorem Inv.step_of_new (inv : Inv plane entries) (small : Unchunked plane call)
    (consistent : Consistent plane call)
    (accepts : EnqueueIdempotency.accepted plane call.request = some acceptance)
    (unknown : ¬Known plane acceptance.key) :
    Inv (step plane call) (entries ++ [acceptance]) := by
  obtain ⟨same_request, store, artifacts⟩ := step_of_accepted small accepts
  have unused := consistent acceptance accepts
  rw [if_neg unknown, Option.isNone_iff_eq_none] at unused
  have items : (step plane call).items = plane.items.set (queueIdOf acceptance.key)
      (newItem call acceptance.analyzed acceptance.key) := by
    have inserted :=
      @insert_of_new plane (newItem call acceptance.analyzed acceptance.key) unknown
    have named :
        (newItem call acceptance.analyzed acceptance.key).id = queueIdOf acceptance.key := rfl
    rw [Plane.items, store, inserted, named]
  have files : (step plane call).artifacts.files =
      writtenFiles plane.artifacts.files call.request acceptance.key := by
    rw [artifacts]
  have absent : entries.find? (·.key = acceptance.key) = none := by
    by_contra present
    obtain ⟨first, found⟩ := Option.ne_none_iff_exists'.mp present
    exact unknown (inv.known.mpr ⟨first, found⟩)
  have found_self : (entries ++ [acceptance]).find? (·.key = acceptance.key) = some acceptance := by
    rw [List.find?_append, absent]
    simp
  have found_other : ∀ key, key ≠ acceptance.key →
      (entries ++ [acceptance]).find? (·.key = key) = entries.find? (·.key = key) := by
    intro key differ
    rw [List.find?_append]
    simp [Ne.symm differ]
  refine ⟨?_, ?_, ?_⟩
  · intro id item stored
    rw [items, Dict.get?_set] at stored
    split_ifs at stored with same
    · obtain rfl := Option.some.inj stored
      exact same
    · exact inv.keyed id item stored
  · intro id item stored
    rw [items, Dict.get?_set] at stored
    split_ifs at stored with same
    · obtain rfl := Option.some.inj stored
      exact ⟨acceptance, found_self⟩
    · obtain ⟨first, found⟩ := inv.accepted id item stored
      have differ : item.idempotencyKey ≠ acceptance.key := by
        intro equal
        rw [equal, absent] at found
        cases found
      exact ⟨first, (found_other _ differ).trans found⟩
  · intro key first found
    by_cases equal : key = acceptance.key
    · subst equal
      rw [found_self] at found
      cases found
      have written := writtenFiles_self plane.artifacts.files call.request acceptance.key
      refine ⟨newItem call acceptance.analyzed acceptance.key, by rw [items]; simp, ?_⟩
      exact { key := rfl, taskId := rfl, tenantId := rfl, areaId := rfl, taskUri := rfl
              contextUri := by rw [same_request]; rfl
              task := by rw [files, same_request]; exact written.1
              context := by rw [files, same_request]; exact written.2 }
    · rw [found_other key equal] at found
      obtain ⟨item, stored, kept⟩ := inv.kept key first found
      have differ : queueIdOf key ≠ queueIdOf acceptance.key := by
        intro same
        rw [same, unused] at stored
        cases stored
      have first_key := key_of_find found
      have frame := writtenFiles_of_ne plane.artifacts.files call.request differ
      refine ⟨item, by rw [items, Dict.get?_set_ne _ _ differ]; exact stored, { kept with
        task := ?_
        context := ?_ }⟩
      · rw [files, first_key, frame.1, ← first_key]
        exact kept.task
      · intro context given
        rw [files, first_key, frame.2, ← first_key]
        exact kept.context context given

theorem Inv.step (inv : Inv plane entries) (small : Unchunked plane call)
    (consistent : Consistent plane call) :
    Inv (step plane call) (entries ++ (EnqueueIdempotency.accepted plane call.request).toList) := by
  cases accepts : EnqueueIdempotency.accepted plane call.request with
  | none =>
      rw [step_of_rejected accepts, Option.toList_none, List.append_nil]
      exact inv.of_same rfl rfl
  | some acceptance =>
      by_cases known : Known plane acceptance.key
      · obtain ⟨store, artifacts⟩ := step_of_known small consistent accepts known
        have items : (EnqueueIdempotency.step plane call).items = plane.items :=
          congrArg InMemoryRuntimeStore.runtimeQueueItems store
        refine (inv.of_same items artifacts).append ?_
        unfold Known
        rw [items]
        exact known
      · exact inv.step_of_new small consistent accepts known

theorem Consistent.idempotent (small : Unchunked plane call) (consistent : Consistent plane call) :
    Idempotent plane call := by
  intro analyzed checks known
  cases accepts : accepted plane call.request with
  | none =>
      rw [step_of_rejected accepts]
      exact ⟨rfl, rfl⟩
  | some acceptance =>
      have key : acceptance.key = effectiveKey call.request.idempotencyKey analyzed.taskId := by
        unfold accepted at accepts
        rw [checks] at accepts
        dsimp only at accepts
        split_ifs at accepts
        cases accepts
        rfl
      exact step_of_known small consistent accepts (key ▸ known)

theorem Inv.run {calls : List Call} (inv : Inv plane entries)
    (small : Steps EnqueueIdempotency.step Unchunked plane calls)
    (consistent : Steps EnqueueIdempotency.step Consistent plane calls) :
    Inv (calls.foldl EnqueueIdempotency.step plane) (entries ++ acceptances plane calls) := by
  induction calls generalizing plane entries with
  | nil => simpa [acceptances] using inv
  | cons call rest ih =>
      have later := ih (inv.step small.1 consistent.1) small.2 consistent.2
      simpa [acceptances] using later

end Invariant

/-- Enqueues that repeat a key only with its payloads, and bring a new key only with a queue
identifier of its own, keep one item for each key as it came first. -/
theorem enqueue_keeps_first_request (start : Plane) (calls : List Call)
    (fresh : start.items = .empty)
    (small : Steps step Unchunked start calls) (consistent : Steps step Consistent start calls) :
    Represents (calls.foldl step start) (acceptances start calls) ∧
      Steps step Idempotent start calls := by
  have init : Inv start [] := by
    refine ⟨?_, ?_, ?_⟩ <;> simp [fresh]
  constructor
  · simpa using (init.run small consistent).represents
  · exact (small.and consistent).of_invariant (fun _ => True) trivial (fun _ _ _ _ => trivial)
      fun _ _ _ careful => careful.2.idempotent careful.1

/-- An enqueue of a task under a key. -/
def under (key id tenant : Text) : Call where
  clock := Sample.clock
  request :=
    { task := Sample.task id tenant
      compositionContextResponse := some (Sample.authorized tenant)
      idempotencyKey := some key }

theorem enqueue_keeps_first_request_repeated :
    let calls := [under "first" "task-a" "tenant-a", under "second" "task-b" "tenant-b",
      under "first" "task-a" "tenant-a"]
    Represents (calls.foldl step .empty) (acceptances .empty calls) ∧
      Steps step Idempotent .empty calls :=
  enqueue_keeps_first_request .empty _ rfl (by decide) (by decide)

/-- Another tenant reuses the key. -/
def reused : List Call := [under "first" "task-a" "tenant-a", under "first" "task-b" "tenant-b"]

/-- The item of the first tenant loads the task of the second. -/
theorem reused_not_represented :
    Steps step Unchunked .empty reused ∧
      ¬Represents (reused.foldl step .empty) (acceptances .empty reused) := by
  refine ⟨by decide, ?_⟩
  intro represents
  have first_found : ((acceptances .empty reused).find? (·.key = ("first" : Text))).map
      (fun first => first.request.task) = some (Sample.task "task-a" "tenant-a") := by
    decide
  have uris : ((reused.foldl step .empty).items.values.filter
      (·.idempotencyKey = ("first" : Text))).map (·.taskPayloadUri) = [taskPath "first"] := by
    decide
  have stored : (reused.foldl step .empty).artifacts.readJson (taskPath "first") =
      .ok (.obj (Sample.task "task-b" "tenant-b")) := by
    decide
  have kept := represents "first"
  obtain ⟨first, found, first_task⟩ := Option.map_eq_some_iff.mp first_found
  rw [found] at kept
  obtain ⟨item, single, holds⟩ := kept
  rw [single] at uris
  have uri : item.taskPayloadUri = taskPath "first" := by simpa using uris
  have loaded := holds.task
  simp only [loadTask, Py.call, Py.lift, Program.run_bind, Program.run_op, exec, uri, stored,
    first_task] at loaded
  revert loaded
  decide

end EnqueueIdempotency

end SkillCentric
