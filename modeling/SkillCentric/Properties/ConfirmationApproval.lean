import SkillCentric.Crm.Confirmations
import SkillCentric.Library.Runs

/-!
# Approval of supplier confirmations

A confirmation should be approved exactly when every difference found in it is accepted or
resolved.  A decision derives the approval from the number of *other* exceptions that are open, as
counted when its statement began: it does not look at rejected exceptions or at those that wait for
the supplier, nor at its own outcome for the approval fields, nor whether the exception exists.
-/

namespace SkillCentric.Crm

open SkillCentric

/-- Accepted or resolved. -/
def ExceptionStatus.settled : ExceptionStatus → Bool
  | .accepted | .resolved => true
  | _ => false

namespace ConfirmationApproval

open ConfirmationSystem

/-- The confirmation has exceptions, and each of them is accepted or resolved. -/
structure Settles (exceptions : Table ConfirmationException) (confirmationId : Nat) : Prop where
  some : ∃ exception ∈ exceptions, exception.confirmationId = confirmationId
  all : ∀ exception ∈ exceptions, exception.confirmationId = confirmationId →
    exception.status.settled = true

instance (exceptions : Table ConfirmationException) (confirmationId : Nat) :
    Decidable (Settles exceptions confirmationId) :=
  decidable_of_iff
    ((∃ exception ∈ exceptions.rows, exception.confirmationId = confirmationId) ∧
      ∀ exception ∈ exceptions.rows, exception.confirmationId = confirmationId →
        exception.status.settled = true)
    ⟨fun ⟨present, all⟩ => ⟨present, all⟩, fun settles => ⟨settles.some, settles.all⟩⟩

/-- Status, time and user of the approval are there exactly when the confirmation is settled. -/
structure ApprovedWhenSettled (exceptions : Table ConfirmationException)
    (confirmation : Confirmation) : Prop where
  status : confirmation.status = .approved ↔ Settles exceptions confirmation.id
  time : confirmation.approvedAt.isSome = true ↔ Settles exceptions confirmation.id
  user : confirmation.approvedByUserId.isSome = true ↔ Settles exceptions confirmation.id

/-- Confirmations are approved exactly when they are settled. -/
def Lawful (db : CrmDatabase) : Prop :=
  ∀ confirmation ∈ db.confirmations, ApprovedWhenSettled db.exceptions confirmation

def entering : ConfirmationCall → Option Nat
  | .created confirmationId | .fetched confirmationId _ _ => some confirmationId
  | .deciding _ => none

/-- A decision's exception belongs to its confirmation, and without one it counts nothing. -/
structure Located (decision : DecisionSnapshot) (exceptions : Table ConfirmationException) :
    Prop where
  belongs : ∀ decided, decision.exception = some decided → ∃ row ∈ exceptions,
    row.id = decided.id ∧ decision.confirmationId = some row.confirmationId
  counted : decision.openCount ≠ 0 → decision.exception ≠ none

/-- What holds of every reachable system: foreign keys, confirmations that are being entered have no
exceptions yet and are entered by one call, a decision knows where its exception belongs. -/
structure Coherent (system : ConfirmationSystem) : Prop where
  references : ∀ exception ∈ system.db.exceptions, ∃ confirmation ∈ system.db.confirmations,
    confirmation.id = exception.confirmationId
  stored : ∀ call ∈ system.calls, ∀ confirmationId, entering call = some confirmationId →
    ∃ confirmation ∈ system.db.confirmations, confirmation.id = confirmationId
  fresh : ∀ call ∈ system.calls, ∀ confirmationId, entering call = some confirmationId →
    ∀ exception ∈ system.db.exceptions, exception.confirmationId ≠ confirmationId
  distinct : (system.calls.filterMap entering).Nodup
  located : ∀ decision, ConfirmationCall.deciding decision ∈ system.calls →
    Located decision system.db.exceptions

section Coherence

variable {locale : Locale} {countsUnreturned : Bool} {system : ConfirmationSystem}

variable {place : Nat} {confirmationId : Nat} {now : Datetime} {request : ConfirmationRequest}
  {db : CrmDatabase} {positions : List ConfirmationPosition} {orders : List SupplierOrderPosition}

private theorem perm_eraseIdx {call : ConfirmationCall} (found : system.calls[place]? = some call) :
    (call :: system.calls.eraseIdx place).Perm system.calls := by
  obtain ⟨bound, rfl⟩ := List.getElem?_eq_some_iff.mp found
  exact List.getElem_cons_eraseIdx_perm bound

theorem mem_of_mem_eraseIdx {call : ConfirmationCall}
    (member : call ∈ system.calls.eraseIdx place) : call ∈ system.calls :=
  (List.eraseIdx_sublist _ _).mem member

theorem Coherent.other_entering (coherent : Coherent system)
    {call other : ConfirmationCall} (found : system.calls[place]? = some call)
    (member : other ∈ system.calls.eraseIdx place)
    (enters : entering call = some confirmationId) : entering other ≠ some confirmationId := by
  have distinct := ((perm_eraseIdx found).filterMap entering).nodup_iff.mpr coherent.distinct
  rw [List.filterMap_cons_some enters, List.nodup_cons] at distinct
  exact fun same => distinct.1 (List.mem_filterMap.mpr ⟨other, member, same⟩)

theorem distinct_eraseIdx (coherent : Coherent system) (place : Nat) :
    ((system.calls.eraseIdx place).filterMap entering).Nodup :=
  coherent.distinct.sublist ((List.eraseIdx_sublist _ _).filterMap entering)

theorem create_eq_ok {db after : CrmDatabase}
    (created : request.create now countsUnreturned db = .ok (confirmationId, after)) :
    confirmationId = db.confirmations.nextKey ∧ ∃ order, after = request.inserted now order db := by
  unfold ConfirmationRequest.create at created
  split at created
  · cases created
  split at created
  · cases created
  split at created
  · cases created
  · rename_i order _
    split at created
    · cases created
    · cases created
      exact ⟨rfl, order, rfl⟩

theorem mem_inserted {order : SupplierOrder} {confirmation : Confirmation} :
    confirmation ∈ (request.inserted now order db).confirmations ↔
      confirmation ∈ db.confirmations ∨
        confirmation = request.confirmation now order db.inboxItems.nextKey
          db.confirmations.nextKey :=
  Table.mem_insertAll_singleton

theorem coherent_create {order : SupplierOrder} (coherent : Coherent system) :
    Coherent ⟨request.inserted now order system.db,
      system.calls ++ [.created system.db.confirmations.nextKey]⟩ := by
  have old : ∀ confirmation ∈ system.db.confirmations,
      confirmation ∈ (request.inserted now order system.db).confirmations :=
    fun confirmation member => mem_inserted.mpr (.inl member)
  have unused : ∀ confirmation ∈ system.db.confirmations,
      confirmation.id ≠ system.db.confirmations.nextKey :=
    fun confirmation member => (Table.key_lt_nextKey member).ne
  refine ⟨?_, ?_, ?_, ?_, ?_⟩
  · intro exception member
    obtain ⟨confirmation, confirmation_mem, same⟩ := coherent.references exception member
    exact ⟨confirmation, old confirmation confirmation_mem, same⟩
  · intro call member confirmationId enters
    rcases List.mem_append.mp member with earlier | new
    · obtain ⟨confirmation, confirmation_mem, same⟩ :=
        coherent.stored call earlier confirmationId enters
      exact ⟨confirmation, old confirmation confirmation_mem, same⟩
    · cases List.mem_singleton.mp new
      cases enters
      exact ⟨_, mem_inserted.mpr (.inr rfl), rfl⟩
  · intro call member confirmationId enters exception exception_mem
    rcases List.mem_append.mp member with earlier | new
    · exact coherent.fresh call earlier confirmationId enters exception exception_mem
    · cases List.mem_singleton.mp new
      cases enters
      obtain ⟨confirmation, confirmation_mem, same⟩ := coherent.references exception exception_mem
      rw [← same]
      exact unused confirmation confirmation_mem
  · rw [List.filterMap_append]
    refine coherent.distinct.append (List.nodup_singleton _) ?_
    intro confirmationId earlier new
    cases List.mem_singleton.mp new
    obtain ⟨call, call_mem, enters⟩ := List.mem_filterMap.mp earlier
    obtain ⟨confirmation, confirmation_mem, same⟩ := coherent.stored call call_mem _ enters
    exact unused confirmation confirmation_mem same
  · intro decision member
    rcases List.mem_append.mp member with earlier | new
    · exact coherent.located decision earlier
    · cases List.mem_singleton.mp new

theorem snapshot_located (request : DecisionRequest) (db : CrmDatabase) :
    Located (request.snapshot db) db.exceptions := by
  constructor
  · intro exception found
    obtain ⟨confirmation, visible, located⟩ := Option.bind_eq_some_iff.mp found
    rw [Option.filter_eq_some_iff, decide_eq_true_eq] at located
    refine ⟨exception, (Table.find?_eq_some.mp located.1).1, rfl, ?_⟩
    simp [DecisionRequest.snapshot, visible, located.2]
  · intro counted missing
    refine counted ?_
    change request.visibleException db = none at missing
    simp only [DecisionRequest.snapshot, DecisionRequest.openCount]
    split
    · simp_all
    · rfl

theorem coherent_decide (coherent : Coherent system) (request : DecisionRequest) :
    Coherent ⟨system.db, system.calls ++ [.deciding (request.snapshot system.db)]⟩ := by
  have earlier_or : ∀ call ∈ system.calls ++ [.deciding (request.snapshot system.db)],
      ∀ confirmationId, entering call = some confirmationId → call ∈ system.calls := by
    intro call member confirmationId enters
    rcases List.mem_append.mp member with earlier | new
    · exact earlier
    · cases List.mem_singleton.mp new
      cases enters
  refine ⟨coherent.references, ?_, ?_, ?_, ?_⟩
  · exact fun call member confirmationId enters =>
      coherent.stored call (earlier_or call member confirmationId enters) confirmationId enters
  · exact fun call member confirmationId enters =>
      coherent.fresh call (earlier_or call member confirmationId enters) confirmationId enters
  · rw [List.filterMap_append, List.filterMap_cons_none rfl, List.filterMap_nil, List.append_nil]
    exact coherent.distinct
  · intro decision member
    rcases List.mem_append.mp member with earlier | new
    · exact coherent.located decision earlier
    · cases List.mem_singleton.mp new
      exact snapshot_located request system.db

theorem coherent_abandon (coherent : Coherent system) (place : Nat) :
    Coherent ⟨system.db, system.calls.eraseIdx place⟩ where
  references := coherent.references
  stored call member := coherent.stored call (mem_of_mem_eraseIdx member)
  fresh call member := coherent.fresh call (mem_of_mem_eraseIdx member)
  distinct := distinct_eraseIdx coherent place
  located decision member := coherent.located decision (mem_of_mem_eraseIdx member)

theorem coherent_fetch (coherent : Coherent system) {call next : ConfirmationCall}
    (found : system.calls[place]? = some call)
    (enters : entering call = some confirmationId) (same : entering next = some confirmationId) :
    Coherent ⟨system.db, next :: system.calls.eraseIdx place⟩ := by
  have call_mem : call ∈ system.calls := List.mem_of_getElem? found
  refine ⟨coherent.references, ?_, ?_, ?_, ?_⟩
  · intro other member otherId other_enters
    rcases List.mem_cons.mp member with rfl | later
    · rw [same] at other_enters
      cases other_enters
      exact coherent.stored call call_mem confirmationId enters
    · exact coherent.stored other (mem_of_mem_eraseIdx later) otherId other_enters
  · intro other member otherId other_enters
    rcases List.mem_cons.mp member with rfl | later
    · rw [same] at other_enters
      cases other_enters
      exact coherent.fresh call call_mem confirmationId enters
    · exact coherent.fresh other (mem_of_mem_eraseIdx later) otherId other_enters
  · rw [List.filterMap_cons_some same, List.nodup_cons]
    refine ⟨fun again => ?_, distinct_eraseIdx coherent place⟩
    obtain ⟨other, other_mem, other_enters⟩ := List.mem_filterMap.mp again
    exact coherent.other_entering found other_mem enters other_enters
  · intro decision member
    rcases List.mem_cons.mp member with rfl | later
    · cases same
    · exact coherent.located decision (mem_of_mem_eraseIdx later)

theorem mem_storeMatching {exception : ConfirmationException} (member : exception ∈
      (storeMatching locale confirmationId orders positions now db).exceptions) :
    exception ∈ db.exceptions ∨
      exception.confirmationId = confirmationId ∧ exception.status = .open := by
  rcases Table.mem_insertAll.mp member with kept | ⟨i, difference, -, rfl⟩
  · exact .inl (Table.mem_delete.mp kept).1
  · exact .inr ⟨rfl, rfl⟩

theorem mem_storeMatching_of_mem
    (fresh : ∀ exception ∈ db.exceptions, exception.confirmationId ≠ confirmationId)
    {exception : ConfirmationException} (member : exception ∈ db.exceptions) :
    exception ∈ (storeMatching locale confirmationId orders positions now db).exceptions :=
  Table.mem_insertAll.mpr (.inl (Table.mem_delete.mpr
    ⟨member, decide_eq_false (fresh exception member)⟩))

theorem coherent_store (coherent : Coherent system) (now : Datetime)
    (found : system.calls[place]? = some (.fetched confirmationId orders positions)) :
    Coherent ⟨storeMatching locale confirmationId orders positions now system.db,
      system.calls.eraseIdx place⟩ := by
  have call_mem := List.mem_of_getElem? found
  have fresh := coherent.fresh _ call_mem confirmationId rfl
  -- the statement keeps the keys of the confirmations
  have confirmations : ∀ wanted, (∃ confirmation ∈ system.db.confirmations,
      confirmation.id = wanted) → ∃ confirmation ∈
        (storeMatching locale confirmationId orders positions now system.db).confirmations,
          confirmation.id = wanted := by
    refine fun wanted present => Table.exists_key_of_written rfl (fun confirmation => ?_) present
    split <;> rfl
  refine ⟨?_, ?_, ?_, distinct_eraseIdx coherent place, ?_⟩
  · intro exception member
    refine confirmations _ ?_
    rcases mem_storeMatching member with old | ⟨new, -⟩
    · exact coherent.references exception old
    · exact new ▸ coherent.stored _ call_mem confirmationId rfl
  · exact fun call member otherId enters =>
      confirmations _ (coherent.stored call (mem_of_mem_eraseIdx member) otherId enters)
  · intro call member otherId enters exception exception_mem
    rcases mem_storeMatching exception_mem with old | ⟨new, -⟩
    · exact coherent.fresh call (mem_of_mem_eraseIdx member) otherId enters exception old
    · rintro rfl
      rw [new] at enters
      exact coherent.other_entering found member rfl enters
  · intro decision member
    have located := coherent.located decision (mem_of_mem_eraseIdx member)
    refine ⟨fun exception found => ?_, located.counted⟩
    obtain ⟨row, row_mem, row_id, same⟩ := located.belongs exception found
    exact ⟨row, mem_storeMatching_of_mem fresh row_mem, row_id, same⟩

theorem matchingStatus_ne_approved (locale : Locale) (orders : List SupplierOrderPosition)
    (positions : List ConfirmationPosition) :
    matchingStatus locale orders positions ≠ .approved := by
  unfold matchingStatus
  split
  · decide
  · split <;> decide

theorem lawful_store (coherent : Coherent system) (lawful : Lawful system.db) (now : Datetime)
    (found : system.calls[place]? = some (.fetched confirmationId orders positions)) :
    Lawful (storeMatching locale confirmationId orders positions now system.db) := by
  have fresh := coherent.fresh _ (List.mem_of_getElem? found) confirmationId rfl
  intro confirmation member
  obtain ⟨old, old_mem, rfl⟩ := (Table.mem_of_written rfl).mp member
  have holds := lawful old old_mem
  by_cases entered : old.id = confirmationId
  · -- before it had no exceptions, afterwards those it has are open
    have before : ¬ Settles system.db.exceptions old.id := by
      rintro ⟨⟨exception, exception_mem, belongs⟩, -⟩
      exact fresh exception exception_mem (belongs.trans entered)
    have after : ¬ Settles
        (storeMatching locale confirmationId orders positions now system.db).exceptions old.id := by
      rintro ⟨⟨exception, exception_mem, belongs⟩, all⟩
      have settled := all exception exception_mem belongs
      rcases mem_storeMatching exception_mem with old_exception | ⟨-, opened⟩
      · exact fresh exception old_exception (belongs.trans entered)
      · rw [opened] at settled
        cases settled
    rw [if_pos entered]
    refine ⟨?_, ?_, ?_⟩
    · exact iff_of_false (matchingStatus_ne_approved locale orders positions) after
    · exact iff_of_false (fun timed => before (holds.time.mp timed)) after
    · exact iff_of_false (fun named => before (holds.user.mp named)) after
  · have same : Settles
        (storeMatching locale confirmationId orders positions now system.db).exceptions old.id ↔
          Settles system.db.exceptions old.id := by
      have exceptions : ∀ exception, exception.confirmationId = old.id →
          (exception ∈ (storeMatching locale confirmationId orders positions now
            system.db).exceptions ↔ exception ∈ system.db.exceptions) := by
        intro exception belongs
        refine ⟨fun exception_mem => ?_, mem_storeMatching_of_mem fresh⟩
        rcases mem_storeMatching exception_mem with kept | ⟨new, -⟩
        · exact kept
        · exact (entered (belongs.symm.trans new)).elim
      constructor
      · rintro ⟨⟨exception, exception_mem, belongs⟩, all⟩
        exact ⟨⟨exception, (exceptions exception belongs).mp exception_mem, belongs⟩,
          fun other other_mem other_belongs =>
            all other ((exceptions other other_belongs).mpr other_mem) other_belongs⟩
      · rintro ⟨⟨exception, exception_mem, belongs⟩, all⟩
        exact ⟨⟨exception, (exceptions exception belongs).mpr exception_mem, belongs⟩,
          fun other other_mem other_belongs =>
            all other ((exceptions other other_belongs).mp other_mem) other_belongs⟩
    rw [if_neg entered]
    exact ⟨holds.status.trans same.symm, holds.time.trans same.symm, holds.user.trans same.symm⟩

theorem mem_commit {decision : DecisionSnapshot} {exception : ConfirmationException} :
    exception ∈ (decision.commit now db).exceptions ↔ ∃ old ∈ db.exceptions,
      (if decision.exception.map (·.id) = some old.id then decision.decideException now old
        else old) = exception :=
  Table.mem_of_written rfl

theorem coherent_commit (coherent : Coherent system) {decision : DecisionSnapshot}
    (now : Datetime) :
    Coherent ⟨decision.commit now system.db, system.calls.eraseIdx place⟩ := by
  have confirmations : ∀ wanted, (∃ confirmation ∈ system.db.confirmations,
      confirmation.id = wanted) → ∃ confirmation ∈ (decision.commit now system.db).confirmations,
        confirmation.id = wanted := by
    refine fun wanted present => Table.exists_key_of_written rfl (fun confirmation => ?_) present
    split <;> rfl
  -- decided exceptions stay where they belong
  have belongs : ∀ exception ∈ (decision.commit now system.db).exceptions,
      ∃ old ∈ system.db.exceptions, old.id = exception.id ∧
        old.confirmationId = exception.confirmationId := by
    intro exception member
    obtain ⟨old, old_mem, rfl⟩ := mem_commit.mp member
    refine ⟨old, old_mem, ?_⟩
    split <;> exact ⟨rfl, rfl⟩
  refine ⟨?_, ?_, ?_, distinct_eraseIdx coherent place, ?_⟩
  · intro exception member
    obtain ⟨old, old_mem, -, same⟩ := belongs exception member
    exact confirmations _ (same ▸ coherent.references old old_mem)
  · exact fun call member confirmationId enters =>
      confirmations _ (coherent.stored call (mem_of_mem_eraseIdx member) confirmationId enters)
  · intro call member confirmationId enters exception exception_mem
    obtain ⟨old, old_mem, -, same⟩ := belongs exception exception_mem
    exact same ▸ coherent.fresh call (mem_of_mem_eraseIdx member) confirmationId enters old old_mem
  · intro other member
    have located := coherent.located other (mem_of_mem_eraseIdx member)
    refine ⟨fun exception found => ?_, located.counted⟩
    obtain ⟨row, row_mem, row_id, same⟩ := located.belongs exception found
    refine ⟨_, mem_commit.mpr ⟨row, row_mem, rfl⟩, ?_⟩
    split <;> exact ⟨row_id, same⟩

end Coherence

section Commit

variable {db : CrmDatabase} {decision : DecisionSnapshot} {now : Datetime}

/-- After the decision every exception of the confirmation is accepted or resolved: the decided one
by its new status, the others already. -/
def WouldSettle (decision : DecisionSnapshot) (exceptions : Table ConfirmationException)
    (confirmationId : Nat) : Prop :=
  match decision.exception with
  | some decided =>
      decision.request.action.newStatus.settled = true ∧
        ∀ exception ∈ exceptions, exception.confirmationId = confirmationId →
          exception.id ≠ decided.id → exception.status.settled = true
  | none => Settles exceptions confirmationId

instance (decision : DecisionSnapshot) (exceptions : Table ConfirmationException)
    (confirmationId : Nat) : Decidable (WouldSettle decision exceptions confirmationId) :=
  match found : decision.exception with
  | some decided =>
      decidable_of_iff
        (decision.request.action.newStatus.settled = true ∧
          ∀ exception ∈ exceptions.rows, exception.confirmationId = confirmationId →
            exception.id ≠ decided.id → exception.status.settled = true)
        (by rw [WouldSettle, found]; rfl)
  | none => decidable_of_iff (Settles exceptions confirmationId) (by rw [WouldSettle, found])

theorem settles_commit (now : Datetime) (located : Located decision db.exceptions)
    {confirmationId : Nat}
    (same : decision.confirmationId = some confirmationId) :
    Settles (decision.commit now db).exceptions confirmationId ↔
      WouldSettle decision db.exceptions confirmationId := by
  unfold WouldSettle
  cases found : decision.exception with
  | none =>
      have unchanged : ∀ exception, exception ∈ (decision.commit now db).exceptions ↔
          exception ∈ db.exceptions := by
        intro exception
        simp [mem_commit, found]
      constructor
      · rintro ⟨⟨exception, member, belongs⟩, all⟩
        exact ⟨⟨exception, (unchanged exception).mp member, belongs⟩,
          fun other other_mem => all other ((unchanged other).mpr other_mem)⟩
      · rintro ⟨⟨exception, member, belongs⟩, all⟩
        exact ⟨⟨exception, (unchanged exception).mpr member, belongs⟩,
          fun other other_mem => all other ((unchanged other).mp other_mem)⟩
  | some decided =>
      obtain ⟨row, row_mem, row_id, row_same⟩ := located.belongs decided found
      have row_belongs : row.confirmationId = confirmationId := by
        rw [same] at row_same
        exact (Option.some.inj row_same).symm
      simp only
      constructor
      · rintro ⟨-, all⟩
        constructor
        · have written := all (decision.decideException now row)
            (mem_commit.mpr ⟨row, row_mem, by simp [found, row_id]⟩) row_belongs
          exact written
        · intro exception member belongs differs
          refine all exception (mem_commit.mpr ⟨exception, member, ?_⟩) belongs
          rw [if_neg]
          simpa [found] using differs.symm
      · rintro ⟨settled, others⟩
        refine ⟨⟨decision.decideException now row,
          mem_commit.mpr ⟨row, row_mem, by simp [found, row_id]⟩, row_belongs⟩, ?_⟩
        intro exception member belongs
        obtain ⟨old, old_mem, rfl⟩ := mem_commit.mp member
        by_cases chosen : decision.exception.map (·.id) = some old.id
        · rw [if_pos chosen]
          exact settled
        · rw [if_neg chosen] at belongs ⊢
          refine others old old_mem belongs fun same_id => chosen ?_
          rw [found, Option.map_some, same_id]

theorem settles_commit_other (now : Datetime) (located : Located decision db.exceptions)
    {confirmationId : Nat}
    (other : decision.confirmationId ≠ some confirmationId) :
    Settles (decision.commit now db).exceptions confirmationId ↔
      Settles db.exceptions confirmationId := by
  have unchanged : ∀ exception, exception.confirmationId = confirmationId →
      (exception ∈ (decision.commit now db).exceptions ↔ exception ∈ db.exceptions) := by
    intro exception belongs
    have kept : ∀ old ∈ db.exceptions, old.confirmationId = confirmationId →
        decision.exception.map (·.id) ≠ some old.id := by
      intro old old_mem old_belongs chosen
      obtain ⟨decided, found, same_id⟩ := Option.map_eq_some_iff.mp chosen
      obtain ⟨row, row_mem, row_id, row_same⟩ := located.belongs decided found
      have row_eq := Table.eq_of_key row_mem old_mem (row_id.trans same_id)
      rw [row_eq, old_belongs] at row_same
      exact other row_same
    rw [mem_commit]
    constructor
    · rintro ⟨old, old_mem, rfl⟩
      by_cases chosen : decision.exception.map (·.id) = some old.id
      · rw [if_pos chosen] at belongs
        exact (kept old old_mem belongs chosen).elim
      · rwa [if_neg chosen]
    · exact fun member => ⟨exception, member, if_neg (kept exception member belongs)⟩
  constructor
  · rintro ⟨⟨exception, member, belongs⟩, all⟩
    exact ⟨⟨exception, (unchanged exception belongs).mp member, belongs⟩,
      fun other other_mem other_belongs =>
        all other ((unchanged other other_belongs).mpr other_mem) other_belongs⟩
  · rintro ⟨⟨exception, member, belongs⟩, all⟩
    exact ⟨⟨exception, (unchanged exception belongs).mpr member, belongs⟩,
      fun other other_mem other_belongs =>
        all other ((unchanged other other_belongs).mp other_mem) other_belongs⟩

/-- A decision that counted no other open exception settles the confirmation and does not ask the
supplier; one that counted some leaves it settled or unsettled as it was. -/
def Sound (decision : DecisionSnapshot) (exceptions : Table ConfirmationException)
    (confirmationId : Nat) : Prop :=
  if decision.openCount = 0 then
    WouldSettle decision exceptions confirmationId ∧
      decision.request.action.newStatus ≠ .waitingForSupplier
  else Settles exceptions confirmationId ↔ WouldSettle decision exceptions confirmationId

instance (decision : DecisionSnapshot) (exceptions : Table ConfirmationException)
    (confirmationId : Nat) : Decidable (Sound decision exceptions confirmationId) :=
  inferInstanceAs (Decidable (if decision.openCount = 0 then _ else _))

theorem approvedWhenSettled_commit (located : Located decision db.exceptions)
    {confirmation : Confirmation} (same : decision.confirmationId = some confirmation.id)
    (lawful : ApprovedWhenSettled db.exceptions confirmation) :
    ApprovedWhenSettled (decision.commit now db).exceptions
        (decision.decideConfirmation now confirmation) ↔
      Sound decision db.exceptions confirmation.id := by
  have settles := settles_commit now located same
  have settled_asks : WouldSettle decision db.exceptions confirmation.id →
      decision.exception ≠ none → decision.request.action.newStatus ≠ .waitingForSupplier := by
    intro would found waiting
    unfold WouldSettle at would
    split at would
    · rw [waiting] at would
      cases would.1
    · exact found ‹_›
  unfold Sound
  by_cases counted : decision.openCount = 0
  · rw [if_pos counted]
    constructor
    · intro after
      have approved : Settles (decision.commit now db).exceptions confirmation.id :=
        after.time.mp (by simp [DecisionSnapshot.decideConfirmation, counted])
      refine ⟨settles.mp approved, fun waiting => ?_⟩
      have status := after.status.mpr approved
      simp [DecisionSnapshot.decideConfirmation, waiting] at status
    · rintro ⟨would, asks⟩
      have approved := settles.mpr would
      refine ⟨iff_of_true ?_ approved, iff_of_true ?_ approved, iff_of_true ?_ approved⟩
      · simp [DecisionSnapshot.decideConfirmation, counted, asks]
      · simp [DecisionSnapshot.decideConfirmation, counted]
      · simp [DecisionSnapshot.decideConfirmation, counted]
  · rw [if_neg counted]
    have time : (decision.decideConfirmation now confirmation).approvedAt =
        confirmation.approvedAt := by simp [DecisionSnapshot.decideConfirmation, counted]
    have user : (decision.decideConfirmation now confirmation).approvedByUserId =
        confirmation.approvedByUserId := by simp [DecisionSnapshot.decideConfirmation, counted]
    constructor
    · intro after
      rw [← lawful.time, ← settles, ← time]
      exact after.time
    · intro kept
      have kept_settles := kept.trans settles.symm
      refine ⟨?_, ?_, ?_⟩
      · by_cases waiting : decision.request.action.newStatus = .waitingForSupplier
        · have unmet : ¬ Settles (decision.commit now db).exceptions confirmation.id := fun met =>
            settled_asks (settles.mp met) (located.counted counted) waiting
          refine iff_of_false ?_ unmet
          simp [DecisionSnapshot.decideConfirmation, waiting]
        · have status : (decision.decideConfirmation now confirmation).status =
              confirmation.status := by
            simp [DecisionSnapshot.decideConfirmation, counted, waiting]
          rw [status]
          exact lawful.status.trans kept_settles
      · rw [time]
        exact lawful.time.trans kept_settles
      · rw [user]
        exact lawful.user.trans kept_settles

theorem mem_commit_confirmations {confirmation : Confirmation} :
    confirmation ∈ (decision.commit now db).confirmations ↔ ∃ old ∈ db.confirmations,
      (if decision.confirmationId = some old.id then decision.decideConfirmation now old
        else old) = confirmation :=
  Table.mem_of_written rfl

theorem lawful_commit_iff (located : Located decision db.exceptions) (lawful : Lawful db) :
    Lawful (decision.commit now db) ↔
      ∀ confirmation ∈ db.confirmations, decision.confirmationId = some confirmation.id →
        Sound decision db.exceptions confirmation.id := by
  constructor
  · intro after confirmation member same
    have decided := after _ (mem_commit_confirmations.mpr ⟨confirmation, member, rfl⟩)
    rw [if_pos same] at decided
    exact (approvedWhenSettled_commit located same (lawful confirmation member)).mp decided
  · intro sound confirmation member
    obtain ⟨old, old_mem, rfl⟩ := mem_commit_confirmations.mp member
    by_cases same : decision.confirmationId = some old.id
    · rw [if_pos same]
      exact (approvedWhenSettled_commit located same (lawful old old_mem)).mpr
        (sound old old_mem same)
    · rw [if_neg same]
      have settles := settles_commit_other now located same
      have holds := lawful old old_mem
      exact ⟨holds.status.trans settles.symm, holds.time.trans settles.symm,
        holds.user.trans settles.symm⟩

end Commit

/-- Each decision that commits is sound for its confirmation as it then is. -/
def Careful (system : ConfirmationSystem) : ConfirmationEvent → Prop
  | .proceed place _ =>
      ∀ decision, system.calls[place]? = some (.deciding decision) →
        ∀ confirmation ∈ system.db.confirmations, decision.confirmationId = some confirmation.id →
          Sound decision system.db.exceptions confirmation.id
  | _ => True

section Runs

variable {locale : Locale} {countsUnreturned : Bool} {system : ConfirmationSystem}

theorem lawful_create {request : ConfirmationRequest} {now : Datetime} {order : SupplierOrder}
    (coherent : Coherent system) (lawful : Lawful system.db) :
    Lawful (request.inserted now order system.db) := by
  intro confirmation member
  rcases mem_inserted.mp member with old | rfl
  · exact lawful confirmation old
  · have unmet : ¬ Settles system.db.exceptions system.db.confirmations.nextKey := by
      rintro ⟨⟨exception, exception_mem, belongs⟩, -⟩
      obtain ⟨confirmation, confirmation_mem, same⟩ := coherent.references exception exception_mem
      exact (Table.key_lt_nextKey confirmation_mem).ne (same.trans belongs)
    refine ⟨iff_of_false ?_ unmet, iff_of_false ?_ unmet, iff_of_false ?_ unmet⟩ <;>
      simp [ConfirmationRequest.confirmation]

theorem coherent_step (coherent : Coherent system) (event : ConfirmationEvent) :
    Coherent (system.step locale countsUnreturned event) := by
  cases event with
  | create request now =>
      cases created : request.create now countsUnreturned system.db with
      | error error =>
          simp only [step, created]
          exact coherent
      | ok outcome =>
          obtain ⟨id_eq, order, after_eq⟩ := create_eq_ok created
          simp only [step, created, id_eq, after_eq]
          exact coherent_create coherent
  | decide request => exact coherent_decide coherent request
  | proceed place now =>
      cases found : system.calls[place]? with
      | none =>
          simp only [step, found]
          exact coherent
      | some call =>
          cases call with
          | created confirmationId =>
              simp only [step, found]
              cases fetched : fetch system.db confirmationId with
              | none => exact coherent_abandon coherent place
              | some next =>
                  obtain ⟨confirmation, -, rfl⟩ := Option.map_eq_some_iff.mp fetched
                  exact coherent_fetch coherent found rfl rfl
          | fetched confirmationId orders positions =>
              simp only [step, found]
              exact coherent_store coherent now found
          | deciding decision =>
              simp only [step, found]
              exact coherent_commit coherent now
  | abandon place => exact coherent_abandon coherent place

theorem lawful_step_iff (coherent : Coherent system) (lawful : Lawful system.db)
    (event : ConfirmationEvent) :
    Lawful (system.step locale countsUnreturned event).db ↔ Careful system event := by
  cases event with
  | create request now =>
      refine iff_of_true ?_ trivial
      cases created : request.create now countsUnreturned system.db with
      | error error =>
          simp only [step, created]
          exact lawful
      | ok outcome =>
          obtain ⟨-, order, after_eq⟩ := create_eq_ok created
          simp only [step, created, after_eq]
          exact lawful_create coherent lawful
  | decide request => exact iff_of_true lawful trivial
  | proceed place now =>
      cases found : system.calls[place]? with
      | none =>
          simp only [step, found]
          exact iff_of_true lawful fun decision here => by rw [found] at here; cases here
      | some call =>
          cases call with
          | created confirmationId =>
              refine iff_of_true ?_ fun decision here => by rw [found] at here; cases here
              simp only [step, found]
              cases fetch system.db confirmationId <;> exact lawful
          | fetched confirmationId orders positions =>
              refine iff_of_true ?_ fun decision here => by rw [found] at here; cases here
              simp only [step, found]
              exact lawful_store coherent lawful now found
          | deciding decision =>
              simp only [step, found]
              rw [lawful_commit_iff (coherent.located decision (List.mem_of_getElem? found)) lawful]
              constructor
              · intro sound other here
                rw [found] at here
                cases here
                exact sound
              · exact fun careful => careful decision found
  | abandon place => exact iff_of_true lawful trivial

/-- Along a run every confirmation is approved, with time and user, exactly when it is settled. -/
def ApprovedAlong (locale : Locale) (countsUnreturned : Bool) (start : ConfirmationSystem)
    (events : List ConfirmationEvent) : Prop :=
  ∀ before, before <+: events →
    Lawful (before.foldl (step locale countsUnreturned) start).db

/-- From lawful tables and with no call begun, confirmations are approved exactly when they are
settled, all along the run, if and only if every decision of the run is sound when it commits. -/
theorem confirmation_approval (locale : Locale) (countsUnreturned : Bool) (db : CrmDatabase)
    (events : List ConfirmationEvent)
    (references : ∀ exception ∈ db.exceptions, ∃ confirmation ∈ db.confirmations,
      confirmation.id = exception.confirmationId)
    (lawful : Lawful db) :
    ApprovedAlong locale countsUnreturned ⟨db, []⟩ events ↔
      Steps (step locale countsUnreturned) Careful ⟨db, []⟩ events := by
  have start : Coherent ⟨db, []⟩ :=
    ⟨references, by simp, by simp, by simp, by simp⟩
  constructor
  · intro along
    refine steps_iff.mpr ?_
    rintro before event later rfl
    have coherent : Coherent (before.foldl (step locale countsUnreturned)
        ⟨db, []⟩) := by
      have run : Steps (step locale countsUnreturned) (fun _ _ => True)
          ⟨db, []⟩ before := steps_of_forall _ _ fun _ _ _ => trivial
      exact run.invariant Coherent start fun system event holds _ => coherent_step holds event
    have next := along (before ++ [event]) ⟨later, by simp⟩
    rw [List.foldl_append] at next
    exact (lawful_step_iff coherent (along before (List.prefix_append _ _)) event).mp next
  · rintro careful before ⟨later, rfl⟩
    have both := careful.initial.invariant (fun system => Coherent system ∧ Lawful system.db)
      ⟨start, lawful⟩ fun system event holds careful =>
        ⟨coherent_step holds.1 event, (lawful_step_iff holds.1 holds.2 event).mpr careful⟩
    exact both.2

end Runs

/-- One case with an order of one position. -/
def oneOrder : CrmDatabase :=
  { CrmDatabase.empty with
    cases := .single ⟨1, none, some 1, none, none, true, 0⟩
    suppliers := .single ⟨1, "Blum", "blum", 0⟩
    supplierOrders := ⟨[⟨1, 1, 1, none, none, "Blum Bestellung", .ordered, 1, none, 0⟩], by simp⟩
    supplierOrderPositions :=
      ⟨[⟨1, 1, none, some "1", some "A1", "Scharnier", none, some 2000, none, none, none, []⟩],
        by simp⟩ }

def clerk : UserContext := ⟨1, false, [1]⟩

def threePieces : ConfirmationRequest :=
  ⟨clerk, 1, 1, none, "AB-1", [⟨"1", some "A1", "Scharnier", none, some 3000, none, none, none⟩]⟩

/-- The confirmation is entered and matched. -/
def enterConfirmation : List ConfirmationEvent :=
  [.create threePieces 10, .proceed 0 11, .proceed 0 12]

def matchedConfirmation : CrmDatabase :=
  (enterConfirmation.foldl (step .ascii true) ⟨oneOrder, []⟩).db

def decideOne (action : ExceptionAction) : List ConfirmationEvent :=
  [.decide ⟨clerk, 1, 1, action, ""⟩, .proceed 0 20]

/-- Status and approval time of the confirmation, and the status of its exception. -/
def outcome (db : CrmDatabase) :
    Option (ConfirmationStatus × Option Datetime) × List ExceptionStatus :=
  ((db.confirmations.find? 1).map fun confirmation =>
      (confirmation.status, confirmation.approvedAt),
    db.exceptions.rows.map (·.status))

/-- Rejecting the only exception approves the confirmation, asking the supplier about it stamps the
approval time; so on PostgreSQL, for a confirmation that is in the tables, and in a run that enters
it on a server that takes the first statement. -/
theorem rejected_exception_approves :
    outcome matchedConfirmation = (some (.exceptionsOpen, none), [.open]) ∧
      outcome ((decideOne .reject).foldl (step .ascii false)
        ⟨matchedConfirmation, []⟩).db = (some (.approved, some 20), [.rejected]) ∧
      outcome ((decideOne .requestPriceClarification).foldl (step .ascii false)
        ⟨matchedConfirmation, []⟩).db = (some (.suspended, some 20), [.waitingForSupplier]) ∧
      outcome ((enterConfirmation ++ decideOne .reject).foldl
        (step .ascii true) ⟨oneOrder, []⟩).db =
          (some (.approved, some 20), [.rejected]) := by
  refine ⟨?_, ?_, ?_, ?_⟩ <;> decide

/-- Accepting the only exception approves the confirmation lawfully. -/
theorem accepted_exception_approves :
    ApprovedAlong .ascii true ⟨oneOrder, []⟩ (enterConfirmation ++ decideOne .accept) := by
  refine (confirmation_approval .ascii true oneOrder _ ?_ ?_).mpr
    ⟨trivial, ?_, ?_, trivial, ?_, trivial⟩
  · rintro exception ⟨⟩
  · rintro confirmation ⟨⟩
  · rintro decision ⟨⟩
  · rintro decision ⟨⟩
  · rintro decision ⟨⟩ confirmation - same
    have same_id : confirmation.id = 1 :=
      (Option.some.inj ((by decide : (DecisionRequest.snapshot
        ⟨clerk, 1, 1, .accept, ""⟩ matchedConfirmation).confirmationId = some 1).symm.trans
          same)).symm
    rw [same_id]
    exact (by decide : Sound
      (DecisionRequest.snapshot ⟨clerk, 1, 1, .accept, ""⟩ matchedConfirmation)
        matchedConfirmation.exceptions 1)

end ConfirmationApproval

end SkillCentric.Crm
