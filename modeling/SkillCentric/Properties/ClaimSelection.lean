import SkillCentric.Runtime.Frames

/-!
# Claim selection

A claim takes the least item, in the claim order, among those that may be claimed and whose tenant
has room.  Items of saturated tenants are skipped, however many there are before it.
-/

namespace SkillCentric.ClaimSelection

open SkillCentric InMemoryRuntimeStore

section Order

variable {left middle right : QueueItem}

theorem claimsBefore_iff : ClaimsBefore id left right ↔
    toLex (OrderDual.toDual left.priority,
      toLex (left.scheduledAt, toLex (left.createdAt, left.id))) ≤
      toLex (OrderDual.toDual right.priority,
        toLex (right.scheduledAt, toLex (right.createdAt, right.id))) := by
  simp only [ClaimsBefore, Prod.Lex.toLex_le_toLex, OrderDual.toDual_lt_toDual,
    OrderDual.toDual_inj, id_eq]

theorem claimsBefore_total (left right : QueueItem) :
    ClaimsBefore id left right ∨ ClaimsBefore id right left := by
  simp only [claimsBefore_iff]
  exact le_total _ _

theorem ClaimsBefore.trans (first : ClaimsBefore id left middle)
    (second : ClaimsBefore id middle right) : ClaimsBefore id left right := by
  rw [claimsBefore_iff] at first second ⊢
  exact first.trans second

theorem ClaimsBefore.id_eq (first : ClaimsBefore id left right)
    (second : ClaimsBefore id right left) : left.id = right.id := by
  rw [claimsBefore_iff] at first second
  have same := toLex.injective (first.antisymm second)
  simp only [Prod.mk.injEq, EmbeddingLike.apply_eq_iff_eq] at same
  exact same.2.2.2

end Order

/-- The item may be claimed, and its tenant has room. -/
structure Ready (store : InMemoryRuntimeStore) (request : ClaimRequest) (item : QueueItem) :
    Prop where
  stored : item ∈ store.runtimeQueueItems.values
  status : item.status = .queued ∨ item.status = .retryScheduled
  due : item.scheduledAt ≤ request.claimedAt
  allowed : request.allowedTenantIds = [] ∨ item.tenantId ∈ request.allowedTenantIds
  enabled : item.tenantId ∉ request.disabledTenantIds
  environment : ∀ environment ∈ request.environment, item.environment = environment
  queueName : ∀ queueName ∈ request.queueName, item.queueName = queueName
  room : ∀ limit ∈ request.tenantRunningLimits item.tenantId,
    (store.tenantRunningCount item.tenantId : Int) < limit

/-- The item is ready, and every other ready item comes strictly after it. -/
structure First (store : InMemoryRuntimeStore) (request : ClaimRequest) (item : QueueItem) :
    Prop where
  ready : Ready store request item
  least : ∀ other, Ready store request other → other ≠ item →
    ClaimsBefore id item other ∧ ¬ClaimsBefore id other item

/-- The running items are below the global limit. -/
def Room (store : InMemoryRuntimeStore) (request : ClaimRequest) : Prop :=
  ∀ limit ∈ request.globalRunningLimit, (store.globalRunningCount : Int) < limit

/-- The store after an attempt of the item was claimed. -/
structure Claimed (before after : InMemoryRuntimeStore) (item : QueueItem) (bundle : ClaimBundle) :
    Prop where
  updated : after.runtimeQueueItems.get? item.id = some bundle.queueItem
  attempts : bundle.queueItem.attempts = item.attempts + 1
  others : ∀ queueId, queueId ≠ item.id →
    after.runtimeQueueItems.get? queueId = before.runtimeQueueItems.get? queueId
  attempt : after.runtimeRunAttempts.get? bundle.attempt.id = some bundle.attempt
  attempted : bundle.attempt.queueId = item.id
  claim : after.runtimeRunClaims.get? bundle.claim.id = some bundle.claim
  claimed : bundle.claim.queueId = item.id ∧ bundle.claim.releasedAt = none

section Selection

variable {plane : Plane} {store : InMemoryRuntimeStore} {request : ClaimRequest} {item : QueueItem}

theorem globallySaturated_eq_false :
    store.globallySaturated request = false ↔ Room store request := by
  unfold globallySaturated Room
  cases request.globalRunningLimit with
  | none => simp
  | some limit => simp

theorem tenantSaturated_eq_false : store.tenantSaturated request item = false ↔
    ∀ limit ∈ request.tenantRunningLimits item.tenantId,
      (store.tenantRunningCount item.tenantId : Int) < limit := by
  unfold tenantSaturated
  cases request.tenantRunningLimits item.tenantId with
  | none => simp
  | some limit => simp

theorem wanted_iff {wanted : Option Text} {found : Text} :
    (wanted.isNone || decide (wanted = some found)) = true ↔ ∀ value ∈ wanted, found = value := by
  cases wanted with
  | none => simp
  | some value => simp [eq_comm]

theorem admits_iff : request.admits item = true ↔
    (request.allowedTenantIds = [] ∨ item.tenantId ∈ request.allowedTenantIds) ∧
      item.tenantId ∉ request.disabledTenantIds ∧
      (∀ environment ∈ request.environment, item.environment = environment) ∧
      ∀ queueName ∈ request.queueName, item.queueName = queueName := by
  rw [ClaimRequest.admits, Bool.and_eq_true, Bool.and_eq_true, Bool.and_eq_true, wanted_iff,
    wanted_iff, Bool.or_eq_true, List.isEmpty_iff, List.contains_iff_mem, Bool.not_eq_true',
    List.contains_eq_mem, decide_eq_false_iff_not, and_assoc, and_assoc]

theorem mem_candidates : item ∈ store.candidates request ∧
    store.tenantSaturated request item = false ↔ Ready store request item := by
  have claimable : item.status.claimable = true ↔
      item.status = .queued ∨ item.status = .retryScheduled := by
    cases item.status <;> simp [RuntimeQueueStatus.claimable]
  rw [candidates, List.mem_insertionSort, List.mem_filter,
    tenantSaturated_eq_false]
  simp only [Bool.and_eq_true, decide_eq_true_eq, claimable, admits_iff]
  constructor
  · rintro ⟨⟨stored, ⟨status, due⟩, allowed, enabled, environment, queueName⟩, room⟩
    exact ⟨stored, status, due, allowed, enabled, environment, queueName, room⟩
  · rintro ⟨stored, status, due, allowed, enabled, environment, queueName, room⟩
    exact ⟨⟨stored, ⟨status, due⟩, allowed, enabled, environment, queueName⟩, room⟩

private theorem candidates_sorted : (store.candidates request).Pairwise (ClaimsBefore id) := by
  have : Std.Total (ClaimsBefore id) := ⟨claimsBefore_total⟩
  have : IsTrans QueueItem (ClaimsBefore id) := ⟨fun _ _ _ => ClaimsBefore.trans⟩
  exact List.pairwise_insertionSort _ _

theorem selected_least (taken : store.selected request = some item) :
    Ready store request item ∧ ∀ other, Ready store request other →
      other = item ∨ ClaimsBefore id item other := by
  unfold selected at taken
  split at taken
  · cases taken
  obtain ⟨open_, before, after, split, skipped⟩ := List.find?_eq_some_iff_append.mp taken
  have sorted : (store.candidates request).Pairwise (ClaimsBefore id) := candidates_sorted
  refine ⟨mem_candidates.mp ⟨split ▸ by simp, by simpa using open_⟩, fun other ready => ?_⟩
  obtain ⟨listed, room⟩ := mem_candidates.mpr ready
  rw [split] at listed sorted
  rcases List.mem_append.mp listed with earlier | later
  · have saturated := skipped other earlier
    simp [room] at saturated
  · rcases List.mem_cons.mp later with same | behind
    · exact .inl same
    · exact .inr ((List.pairwise_cons.mp (List.pairwise_append.mp sorted).2.1).1 other behind)

theorem selected_eq_none : store.selected request = none ↔
    ¬Room store request ∨ ∀ item, ¬Ready store request item := by
  unfold selected
  split
  · rename_i saturated
    have full : ¬Room store request := fun room => by
      simp [globallySaturated_eq_false.mpr room] at saturated
    simp [full]
  · rename_i unsaturated
    have room : Room store request := globallySaturated_eq_false.mp (by simpa using unsaturated)
    simp only [room, not_true_eq_false, false_or, List.find?_eq_none, ← mem_candidates, not_and,
      Bool.not_eq_false]
    simp

end Selection

/-- With room under the global limit, a claim takes the first ready item and creates its attempt and
its claim; no other item changes.  Otherwise it takes nothing and changes nothing. -/
def TakesFirst (store : InMemoryRuntimeStore) (request : ClaimRequest) : Prop :=
  let (claimed, after) := store.claimNextRuntimeQueueAttempt request
  (Room store request → (∃ item, Ready store request item) →
    ∃ item bundle, First store request item ∧ claimed = some bundle ∧
      Claimed store after item bundle) ∧
  (¬(Room store request ∧ ∃ item, Ready store request item) → claimed = none ∧ after = store)

/-- Every claim on a store whose items are stored under their identifiers takes the first item. -/
theorem claim_takes_first {plane : Plane} (keyed : plane.Keyed) (request : ClaimRequest) :
    TakesFirst plane.store request := by
  cases taken : plane.store.selected request with
  | none =>
      have nothing := selected_eq_none.mp taken
      simp only [TakesFirst, claimNextRuntimeQueueAttempt, taken]
      refine ⟨fun room waiting => ?_, fun _ => ⟨trivial, trivial⟩⟩
      obtain ⟨item, ready⟩ := waiting
      rcases nothing with full | none_ready
      · exact absurd room full
      · exact absurd ready (none_ready item)
  | some item =>
      obtain ⟨ready, least⟩ := selected_least taken
      have found : plane.store.runtimeQueueItems.get? item.id = some item := keyed.selected taken
      have first : First plane.store request item := by
        refine ⟨ready, fun other others differs => ?_⟩
        have before := (least other others).resolve_left differs
        refine ⟨before, fun behind => differs ?_⟩
        obtain ⟨queueId, stored⟩ := (Dict.mem_values_iff _ _).mp others.stored
        have named : other.id = queueId := keyed queueId other stored
        rw [← named, ← ClaimsBefore.id_eq before behind, found] at stored
        exact (Option.some.inj stored).symm
      simp only [TakesFirst, claimNextRuntimeQueueAttempt, taken]
      refine ⟨fun _ _ => ⟨item, _, first, rfl, ?_⟩, fun idle => ?_⟩
      · exact {
          updated := by rw [recordClaim, Dict.get?_modify_self, found]; rfl
          attempts := rfl
          others := fun _ differs => Dict.get?_modify_ne _ _ differs
          attempt := Dict.get?_set_self _ _ _
          attempted := rfl
          claim := Dict.get?_set_self _ _ _
          claimed := ⟨rfl, rfl⟩ }
      · refine absurd ⟨?_, item, ready⟩ idle
        exact globallySaturated_eq_false.mp (selected_spec taken).2.2.2.2.1

/-- An item of a tenant. -/
def sampleItem (id tenantId : Text) (status : RuntimeQueueStatus) (priority : Int) : QueueItem where
  id := id
  taskId := id
  tenantId := tenantId
  areaId := tenantId
  environment := "dev"
  queueName := "default"
  status := status
  priority := priority
  scheduledAt := "2026-07-01T09:00:00Z"
  attempts := 0
  maxAttempts := 3
  claimedBy := none
  claimedAt := none
  claimedUntil := none
  leaseExpiresAt := none
  heartbeatAt := none
  attemptId := none
  taskPayloadUri := []
  compositionContextUri := none
  runId := none
  lastError := none
  idempotencyKey := id
  createdAt := "2026-07-01T09:00:00Z"
  updatedAt := "2026-07-01T09:00:00Z"

/-- A running and two urgent items of one tenant, and an item of another. -/
def saturatedPlane : Plane :=
  [sampleItem "first" "busy" .running 9, sampleItem "second" "busy" .queued 9,
    sampleItem "third" "busy" .retryScheduled 8, sampleItem "fourth" "calm" .queued 0].foldl
      (fun plane item => (exec (.insertRuntimeQueueItem item) plane).2) .empty

/-- One item of a tenant runs at a time. -/
def oneEach : ClaimRequest where
  workerId := "worker-a"
  claimedAt := "2026-07-01T10:00:00Z"
  leaseExpiresAt := "2026-07-01T10:05:00Z"
  tenantRunningLimits := fun _ => some 1

private theorem saturatedPlane_keyed : saturatedPlane.Keyed := by
  have start : Plane.empty.Keyed := fun _ _ found => by cases found
  exact (((start.exec _).exec _).exec _).exec _

/-- The item of the calm tenant is taken. -/
theorem calm_item_taken :
    TakesFirst saturatedPlane.store oneEach ∧
      (saturatedPlane.store.claimNextRuntimeQueueAttempt oneEach).1.map (·.queueItem.id) =
        some ("fourth" : Text) :=
  ⟨claim_takes_first saturatedPlane_keyed oneEach, by decide⟩

end SkillCentric.ClaimSelection
