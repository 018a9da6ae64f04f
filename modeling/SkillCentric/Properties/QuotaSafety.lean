import SkillCentric.Runtime.Footprints
import SkillCentric.Runtime.System

/-!
# Quota safety

Calls of the quota manager side by side.  A reservation is granted in a step of its own, after its
checks have read the table.  The limits hold as long as no other reservation joins the count in
between, identifiers are not reused, and what was refunded is not finalized.
-/

namespace SkillCentric

open Contract

namespace QuotaSafety

/-- Calls of the quota manager. -/
inductive QuotaCall where
  | reserve (redact : Json → Json) (request : ReserveRequest)
  | finalize (reservationId : Text)
  | refund (reservationId : Text)

/-- The program of a call. -/
def QuotaCall.program (config : RuntimeQuotaConfig) : QuotaCall → Py Unit
  | .reserve redact request => do
      let _ ← RuntimeQuotaManager.reserve redact config request
      return ()
  | .finalize reservationId => RuntimeQuotaManager.finalize reservationId
  | .refund reservationId => RuntimeQuotaManager.refund reservationId

/-- The calls on a plane, and every reservation granted so far with what became of it. -/
structure Quotas where
  pool : Pool Op.Reply Plane QuotaCall PyError Unit
  granted : List QuotaReservation

/-- What can happen next. -/
inductive Event where
  | tick (micros : Nat)
  | call (call : QuotaCall)
  | perform (index : Nat)
  | crash (index : Nat)

/-- The granted reservations after an operation. -/
def record (op : Op) (granted : List QuotaReservation) : List QuotaReservation :=
  match op with
  | .insertRuntimeQuotaReservation reservation => granted ++ [reservation]
  | .updateRuntimeQuotaReservation reservationId status finalizedAt =>
      granted.map fun reservation =>
        if reservation.id = reservationId then
          { reservation with status, finalizedAt := some finalizedAt }
        else reservation
  | _ => granted

namespace Quotas

def nextOp (quotas : Quotas) (index : Nat) : Option Op :=
  quotas.pool.threads[index]?.bind Thread.nextOp

/-- One event. -/
def step (config : RuntimeQuotaConfig) (quotas : Quotas) : Event → Quotas
  | .tick micros =>
      let plane := quotas.pool.state
      { quotas with pool :=
        { quotas.pool with state := { plane with clock := plane.clock + micros } } }
  | .call call => { quotas with pool := quotas.pool.spawn call (call.program config) }
  | .perform index =>
      { pool := quotas.pool.step exec index
        granted := match quotas.nextOp index with
          | none => quotas.granted
          | some op => record op quotas.granted }
  | .crash index => { quotas with pool := quotas.pool.crash index (.ok ()) }

/-- No call and no reservation. -/
def initial (clock : Datetime) (artifacts : JsonArtifactStore) : Quotas where
  pool := ⟨⟨clock, .empty, artifacts⟩, []⟩
  granted := []

end Quotas

/-- The granted amounts that were not refunded are within the limits, for every tenant, window and
quantity. -/
def Within (config : RuntimeQuotaConfig) (granted : List QuotaReservation) : Prop :=
  ∀ field tenantId quotaWindow, ∀ limit ∈ config.limit field tenantId,
    usedQuota field tenantId quotaWindow granted ≤ limit

/-- The operation reads the reservations. -/
def reads : Op → Bool
  | .asRuntimePlaneRecordset => true
  | _ => false

/-- Two states of one reservation. -/
def SameGrant (left right : QuotaReservation) : Prop :=
  left.id = right.id ∧ left.reservedTokens = right.reservedTokens ∧
    left.reservedToolCalls = right.reservedToolCalls

instance (left right : QuotaReservation) : Decidable (SameGrant left right) :=
  inferInstanceAs (Decidable (_ ∧ _ ∧ _))

/-- No reservation has come to count meanwhile. -/
def NotGrown (before now : List QuotaReservation) (tenantId quotaWindow : Text) : Prop :=
  ∀ reservation ∈ now, reservation.counts tenantId quotaWindow = true →
    ∃ old ∈ before, old.counts tenantId quotaWindow = true ∧ SameGrant old reservation

instance (before now : List QuotaReservation) (tenantId quotaWindow : Text) :
    Decidable (NotGrown before now tenantId quotaWindow) :=
  inferInstanceAs (Decidable (∀ reservation ∈ now, _ → ∃ old ∈ before, _))

/-- A grant has an identifier of its own and non-negative amounts, and the count has not grown
since it was read; a finalized reservation was not refunded. -/
def CarefulOp (past : List (Op × Plane)) (plane : Plane) : Op → Prop
  | .insertRuntimeQuotaReservation reservation =>
      (plane.store.runtimeQuotaReservations.get? reservation.id).isNone = true ∧
        0 ≤ reservation.reservedTokens ∧ 0 ≤ reservation.reservedToolCalls ∧
        ∀ entry ∈ past, reads entry.1 = true →
          NotGrown entry.2.store.runtimeQuotaReservations.values
            plane.store.runtimeQuotaReservations.values reservation.tenantId
            reservation.quotaWindow
  | .updateRuntimeQuotaReservation reservationId status _ =>
      status ≠ .refunded → ∀ reservation ∈ plane.store.runtimeQuotaReservations.get? reservationId,
        reservation.status ≠ .refunded
  | _ => True

instance (past : List (Op × Plane)) (plane : Plane) (op : Op) :
    Decidable (CarefulOp past plane op) := by
  rcases op with ⟨⟩ <;> unfold CarefulOp <;> infer_instance

/-- A careful event. -/
def Careful (quotas : Quotas) : Event → Prop
  | .perform index => ∀ thread ∈ quotas.pool.threads[index]?, ∀ op ∈ thread.nextOp,
      CarefulOp thread.past quotas.pool.state op
  | _ => True

instance (quotas : Quotas) (event : Event) : Decidable (Careful quotas event) := by
  rcases event with ⟨⟩ <;> unfold Careful <;> infer_instance

/-- Reservations are stored under their identifiers, with non-negative amounts. -/
structure Orderly (plane : Plane) : Prop where
  keyed : ∀ id reservation, plane.store.runtimeQuotaReservations.get? id = some reservation →
    reservation.id = id
  nonneg : ∀ reservation ∈ plane.store.runtimeQuotaReservations.values,
    0 ≤ reservation.reservedTokens ∧ 0 ≤ reservation.reservedToolCalls

section Sums

variable {plane before now : Plane} {field : QuotaField} {tenantId quotaWindow : Text}

theorem Orderly.amount_nonneg (orderly : Orderly plane) {reservation : QuotaReservation}
    (member : reservation ∈ plane.store.runtimeQuotaReservations.values) :
    0 ≤ field.amount reservation := by
  obtain ⟨tokens, calls⟩ := orderly.nonneg reservation member
  cases field with
  | reservedTokens => exact tokens
  | reservedToolCalls => exact calls

theorem SameGrant.amount {left right : QuotaReservation} (same : SameGrant left right) :
    field.amount left = field.amount right := by
  cases field with
  | reservedTokens => exact same.2.1
  | reservedToolCalls => exact same.2.2

theorem Orderly.nodup (orderly : Orderly plane) :
    (plane.store.runtimeQuotaReservations.values.map (·.id)).Nodup := by
  have keys : plane.store.runtimeQuotaReservations.values.map (·.id) =
      plane.store.runtimeQuotaReservations.entries.map Prod.fst := by
    rw [Dict.values, List.map_map]
    refine List.map_congr_left ?_
    rintro ⟨id, reservation⟩ member
    exact orderly.keyed id reservation ((Dict.mem_entries_iff _ _ _).mp member)
  rw [keys]
  exact plane.store.runtimeQuotaReservations.nodup

theorem usedQuota_le (field : QuotaField) (orderly_before : Orderly before) (orderly : Orderly now)
    (kept : NotGrown before.store.runtimeQuotaReservations.values
      now.store.runtimeQuotaReservations.values tenantId quotaWindow) :
    usedQuota field tenantId quotaWindow now.store.runtimeQuotaReservations.values ≤
      usedQuota field tenantId quotaWindow before.store.runtimeQuotaReservations.values := by
  unfold usedQuota
  generalize now_eq : now.store.runtimeQuotaReservations.values.filter
    (·.counts tenantId quotaWindow) = counted
  generalize before_eq : before.store.runtimeQuotaReservations.values.filter
    (·.counts tenantId quotaWindow) = counted_before
  -- amounts are compared together with the identifiers, which occur once
  let tag (reservation : QuotaReservation) : Text × Int :=
    (reservation.id, field.amount reservation)
  have nodup : (counted.map tag).Nodup := by
    have ids : (counted.map (·.id)).Nodup := by
      rw [← now_eq]
      exact orderly.nodup.sublist (List.filter_sublist.map _)
    refine List.Nodup.of_map Prod.fst ?_
    rwa [List.map_map]
  have subset : counted.map tag ⊆ counted_before.map tag := by
    intro entry member
    obtain ⟨reservation, inside, rfl⟩ := List.mem_map.mp member
    rw [← now_eq, List.mem_filter] at inside
    obtain ⟨old, old_inside, counts, same⟩ := kept reservation inside.1 inside.2
    refine List.mem_map.mpr ⟨old, ?_, ?_⟩
    · rw [← before_eq]
      exact List.mem_filter.mpr ⟨old_inside, counts⟩
    · exact Prod.ext same.1 same.amount
  obtain ⟨chosen, perm, sublist⟩ := nodup.subperm subset
  have amounts_nonneg : ∀ amount ∈ (counted_before.map tag).map Prod.snd, 0 ≤ amount := by
    intro amount member
    simp only [List.map_map, List.mem_map, Function.comp_apply] at member
    obtain ⟨old, inside, rfl⟩ := member
    rw [← before_eq] at inside
    exact orderly_before.amount_nonneg (List.mem_of_mem_filter inside)
  have snd_tag :
      ∀ list : List QuotaReservation, (list.map tag).map Prod.snd = list.map field.amount :=
    fun list => by simp [tag, Function.comp_def]
  calc (counted.map field.amount).sum
      = (chosen.map Prod.snd).sum := by
        rw [← snd_tag]
        exact (perm.map Prod.snd).sum_eq.symm
    _ ≤ ((counted_before.map tag).map Prod.snd).sum :=
        (sublist.map Prod.snd).sum_le_sum amounts_nonneg
    _ = (counted_before.map field.amount).sum := by rw [snd_tag]

theorem usedQuota_append {granted : List QuotaReservation} {reservation : QuotaReservation} :
    usedQuota field tenantId quotaWindow (granted ++ [reservation]) =
      usedQuota field tenantId quotaWindow granted +
        if reservation.counts tenantId quotaWindow then field.amount reservation else 0 := by
  unfold usedQuota
  rw [List.filter_append, List.map_append, List.sum_append]
  by_cases counts : reservation.counts tenantId quotaWindow = true
  · simp [counts]
  · simp [counts]

theorem usedQuota_map_le {granted : List QuotaReservation} {f : QuotaReservation → QuotaReservation}
    (nonneg : ∀ reservation ∈ granted, 0 ≤ field.amount reservation)
    (amount : ∀ reservation, field.amount (f reservation) = field.amount reservation)
    (counted : ∀ reservation ∈ granted, (f reservation).counts tenantId quotaWindow = true →
      reservation.counts tenantId quotaWindow = true) :
    usedQuota field tenantId quotaWindow (granted.map f) ≤
      usedQuota field tenantId quotaWindow granted := by
  unfold usedQuota
  induction granted with
  | nil => exact le_refl _
  | cons first rest ih =>
      have later := ih (fun reservation member => nonneg reservation (by simp [member]))
        fun reservation member => counted reservation (by simp [member])
      have first_nonneg := nonneg first (by simp)
      have first_counted := counted first (by simp)
      have first_amount := amount first
      rw [List.map_cons, List.filter_cons, List.filter_cons]
      by_cases after : (f first).counts tenantId quotaWindow = true
      · rw [if_pos after, if_pos (first_counted after)]
        simp only [List.map_cons, List.sum_cons]
        omega
      · rw [if_neg after]
        split
        · simp only [List.map_cons, List.sum_cons]
          omega
        · exact later

end Sums

section Contract

variable (config : RuntimeQuotaConfig)

/-- A grant fits into what the limits leave. -/
def Fits (op : Op) (plane : Plane) : Prop :=
  match op with
  | .insertRuntimeQuotaReservation reservation =>
      ∀ field, ∀ limit ∈ config.limit field reservation.tenantId,
        usedQuota field reservation.tenantId reservation.quotaWindow
          plane.store.runtimeQuotaReservations.values + field.amount reservation ≤ limit
  | _ => True

/-- What a careful operation reserves fits the limits. -/
def contract : Contract Op Plane where
  rely _ _ := True
  allowed past op plane := CarefulOp past plane op ∧ Orderly plane
  guar := Fits config
  rely_refl _ := trivial
  rely_trans _ _ _ _ _ := trivial

variable {config} {α : Type} {past : List (Op × Plane)} {plane : Plane}
  {redact : Json → Json} {request : ReserveRequest} {quotaWindow : Text} {field : QuotaField}

private theorem fits_of_untouched {op : Op} (untouched : op.touchesReservations = false) :
    Fits config op plane := by
  cases op <;> trivial

theorem meets_of_untouched {program : Py α} {returned : α → Prop}
    (yields : program.Yields exec (fun op => op.touchesReservations = false) returned) :
    (contract config).Meets exec past program (fun later _ _ => past ⊆ later) plane := by
  induction program generalizing past plane with
  | done outcome => exact fun _ member => member
  | call op next ih =>
      intro now _ _
      refine ⟨fits_of_untouched yields.1, ?_⟩
      refine (ih _ (yields.2 now)).mono fun later _ _ inside => ?_
      exact fun entry member => inside (by simp [member])

theorem untouched_of_records {program : Py α} {runId : Text} (records : program.Records runId) :
    program.Yields exec (fun op => op.touchesReservations = false) fun _ => True := by
  refine records.mono (fun op footprint => ?_) fun _ => id
  have quiet := footprint.quiet
  simp only [Op.quiet, Bool.not_eq_true', Bool.or_eq_false_iff] at quiet
  exact quiet.1.2

/-- The past holds a check of the limit, at the sums of that moment. -/
def Checked (config : RuntimeQuotaConfig) (request : ReserveRequest) (quotaWindow : Text)
    (field : QuotaField) (past : List (Op × Plane)) : Prop :=
  ∀ limit ∈ config.limit field request.tenantId, ∃ entry ∈ past, reads entry.1 = true ∧
    Orderly entry.2 ∧ usedQuota field request.tenantId quotaWindow
      entry.2.store.runtimeQuotaReservations.values + request.requested field ≤ limit

theorem Checked.mono {later : List (Op × Plane)}
    (checked : Checked config request quotaWindow field past)
    (inside : past ⊆ later) : Checked config request quotaWindow field later := by
  intro limit limited
  obtain ⟨entry, member, rest⟩ := checked limit limited
  exact ⟨entry, inside member, rest⟩

theorem assertWithinLimit_meets :
    (contract config).Meets exec past
      (RuntimeQuotaManager.assertWithinLimit redact config request quotaWindow field)
      (fun later outcome _ => past ⊆ later ∧
        (outcome = .ok () → Checked config request quotaWindow field later)) plane := by
  unfold RuntimeQuotaManager.assertWithinLimit
  cases limited : config.limit field request.tenantId with
  | none =>
      refine ⟨fun _ member => member, fun _ limit given => ?_⟩
      rw [limited] at given
      cases given
  | some limit =>
      intro now _ allowed
      refine ⟨trivial, ?_⟩
      change (contract config).Meets exec _ (if _ then pure () else _) _ _
      have read : ((.asRuntimePlaneRecordset, now) : Op × Plane) ∈
          past ++ [(.asRuntimePlaneRecordset, now)] := by simp
      split
      · rename_i fits
        refine ⟨fun _ member => by simp [member], fun _ other given => ?_⟩
        rw [limited] at given
        cases given
        exact ⟨_, read, rfl, allowed.2, fits⟩
      · refine meets_bind ((meets_of_untouched (untouched_of_records
          (FlightRecorder.recordEvent_records rfl))).mono fun later outcome state inside => ?_)
        have grown : past ⊆ later := fun entry member => inside (by simp [member])
        cases outcome with
        | ok event => exact ⟨grown, fun passed => by cases passed⟩
        | error error => exact ⟨grown, fun passed => by cases passed⟩

theorem fits_of_checked {createdAt : Text}
    (checked : ∀ field, Checked config request quotaWindow field past)
    (careful : CarefulOp past plane
      (.insertRuntimeQuotaReservation (request.reservation quotaWindow createdAt)))
    (orderly : Orderly plane) :
    Fits config (.insertRuntimeQuotaReservation (request.reservation quotaWindow createdAt))
      plane := by
  intro field limit limited
  obtain ⟨entry, member, read, orderly_then, fits⟩ := checked field limit limited
  have kept := careful.2.2.2 entry member read
  have sum_le : usedQuota field request.tenantId quotaWindow
      plane.store.runtimeQuotaReservations.values ≤
      usedQuota field request.tenantId quotaWindow entry.2.store.runtimeQuotaReservations.values :=
    usedQuota_le field orderly_then orderly kept
  have amount_eq : field.amount (request.reservation quotaWindow createdAt) =
      request.requested field := by
    cases field <;> rfl
  rw [amount_eq]
  change usedQuota field request.tenantId quotaWindow _ + _ ≤ _
  omega

theorem reserve_meets (redact : Json → Json) (request : ReserveRequest) :
    (contract config).Meets exec [] (RuntimeQuotaManager.reserve redact config request)
      (fun _ _ _ => True) plane := by
  refine meets_bind ((meets_of_untouched (untouched_of_records
    (RuntimeQuotaManager.quotaWindow_records : RuntimeQuotaManager.quotaWindow.Records []))).mono
    fun past outcome plane _ => ?_)
  cases outcome with
  | error error => trivial
  | ok quotaWindow =>
      refine meets_bind (assertWithinLimit_meets.mono fun past outcome plane tokens => ?_)
      cases outcome with
      | error error => trivial
      | ok _ =>
          have tokens_checked := tokens.2 rfl
          refine meets_bind (assertWithinLimit_meets.mono fun past outcome plane calls => ?_)
          cases outcome with
          | error error => trivial
          | ok _ =>
              have calls_checked := calls.2 rfl
              have tokens_still := tokens_checked.mono calls.1
              refine meets_bind ((meets_of_untouched (untouched_of_records
                (records_timestamp : Py.timestamp.Records []))).mono
                fun later outcome plane inside => ?_)
              cases outcome with
              | error error => trivial
              | ok createdAt =>
                  have checked : ∀ field, Checked config request quotaWindow field later := by
                    intro field
                    cases field with
                    | reservedTokens => exact tokens_still.mono inside
                    | reservedToolCalls => exact calls_checked.mono inside
                  intro now _ allowed
                  refine ⟨fits_of_checked checked allowed.1 allowed.2, ?_⟩
                  change (contract config).Meets exec _ (do
                    let _ ← FlightRecorder.recordEvent redact _
                    pure _) _ _
                  refine meets_bind ((meets_of_untouched (untouched_of_records
                    (FlightRecorder.recordEvent_records rfl))).mono fun _ outcome _ _ => ?_)
                  cases outcome <;> trivial

theorem settle_meets (status : ReservationStatus) (reservationId : Text) :
    (contract config).Meets exec [] (RuntimeQuotaManager.settle status reservationId)
      (fun _ _ _ => True) plane := by
  refine meets_bind ((meets_of_untouched (untouched_of_records
    (records_timestamp : Py.timestamp.Records []))).mono fun past outcome plane _ => ?_)
  cases outcome with
  | error error => trivial
  | ok finalizedAt =>
      intro now _ _
      refine ⟨trivial, ?_⟩
      change (contract config).Meets exec _ (Py.lift _) _ _
      exact (meets_of_untouched (Program.yields_ofExcept fun _ _ => trivial :
        (Py.lift _ : Py Unit).Yields exec _ fun _ => True)).mono fun _ _ _ _ => trivial

theorem program_meets (call : QuotaCall) :
    (contract config).Meets exec [] (call.program config) (fun _ _ _ => True) plane := by
  cases call with
  | reserve redact request =>
      refine meets_bind ((reserve_meets redact request).mono fun _ outcome _ _ => ?_)
      cases outcome <;> trivial
  | finalize reservationId => exact settle_meets _ _
  | refund reservationId => exact settle_meets _ _

end Contract

section Runs

variable {config : RuntimeQuotaConfig} {quotas : Quotas} {plane : Plane}

/-- The granted reservations are those of the table, and within the limits. -/
structure Inv (config : RuntimeQuotaConfig) (quotas : Quotas) : Prop where
  orderly : Orderly quotas.pool.state
  table : quotas.granted = quotas.pool.state.store.runtimeQuotaReservations.values
  within : Within config quotas.granted
  sound : quotas.pool.Sound exec fun _ => contract config

theorem values_modify (orderly : Orderly plane) (reservationId : Text)
    (f : QuotaReservation → QuotaReservation) :
    (plane.store.runtimeQuotaReservations.modify reservationId f).values =
      plane.store.runtimeQuotaReservations.values.map fun reservation =>
        if reservation.id = reservationId then f reservation else reservation := by
  rw [Dict.modify, Dict.values_mapValues, Dict.values, List.map_map]
  refine List.map_congr_left ?_
  rintro ⟨id, reservation⟩ member
  have keyed := orderly.keyed id reservation ((Dict.mem_entries_iff _ _ _).mp member)
  simp [keyed]

variable {past : List (Op × Plane)}

theorem values_exec (orderly : Orderly plane) {op : Op} (careful : CarefulOp past plane op) :
    (exec op plane).2.store.runtimeQuotaReservations.values =
      record op plane.store.runtimeQuotaReservations.values := by
  by_cases touched : op.touchesReservations = true
  · cases op with
    | insertRuntimeQuotaReservation reservation =>
        exact Dict.values_set_of_absent _ _ _ (Option.isNone_iff_eq_none.mp careful.1)
    | updateRuntimeQuotaReservation reservationId status finalizedAt =>
        have modified := values_modify orderly reservationId fun reservation =>
          { reservation with status, finalizedAt := some finalizedAt }
        simp only [exec, InMemoryRuntimeStore.updateRuntimeQuotaReservation, record]
        cases found : plane.store.runtimeQuotaReservations.get? reservationId with
        | none => exact (Dict.modify_of_absent _ _ _ found).symm.trans modified
        | some reservation => exact modified
    | _ => cases touched
  · have untouched : op.touchesReservations = false := by simpa using touched
    rw [exec_reservations plane untouched]
    cases op <;> first | rfl | cases untouched

theorem Orderly.exec (orderly : Orderly plane) {op : Op}
    (careful : CarefulOp past plane op) : Orderly (exec op plane).2 := by
  by_cases touched : op.touchesReservations = true
  · cases op with
    | insertRuntimeQuotaReservation reservation =>
        constructor
        · intro id other found
          change (Dict.set _ reservation.id reservation).get? id = some other at found
          rw [Dict.get?_set] at found
          split at found
          · rename_i same
            cases found
            exact same.symm
          · exact orderly.keyed id other found
        · intro other member
          rw [values_exec orderly careful, record, List.mem_append, List.mem_singleton] at member
          rcases member with old | rfl
          · exact orderly.nonneg other old
          · exact ⟨careful.2.1, careful.2.2.1⟩
    | updateRuntimeQuotaReservation reservationId status finalizedAt =>
        constructor
        · intro id other found
          simp only [SkillCentric.exec, InMemoryRuntimeStore.updateRuntimeQuotaReservation] at found
          split at found
          · exact orderly.keyed id other found
          · change (Dict.modify _ _ _).get? id = some other at found
            rw [Dict.get?_modify] at found
            split at found
            · obtain ⟨old, stored, rfl⟩ := Option.map_eq_some_iff.mp found
              exact orderly.keyed id old stored
            · exact orderly.keyed id other found
        · intro other member
          rw [values_exec orderly careful, record, List.mem_map] at member
          obtain ⟨old, inside, rfl⟩ := member
          split
          · exact orderly.nonneg old inside
          · exact orderly.nonneg old inside
    | _ => cases touched
  · have untouched : op.touchesReservations = false := by simpa using touched
    have same := exec_reservations plane untouched
    constructor
    · rw [same]
      exact orderly.keyed
    · rw [same]
      exact orderly.nonneg

theorem within_record (orderly : Orderly plane) {op : Op}
    (careful : CarefulOp past plane op) (fits : Fits config op plane)
    (within : Within config plane.store.runtimeQuotaReservations.values) :
    Within config (record op plane.store.runtimeQuotaReservations.values) := by
  intro field tenantId quotaWindow limit limited
  have before := within field tenantId quotaWindow limit limited
  cases op with
  | insertRuntimeQuotaReservation reservation =>
      rw [record, usedQuota_append]
      split
      · rename_i counts
        simp only [QuotaReservation.counts, Bool.and_eq_true, decide_eq_true_eq] at counts
        obtain ⟨⟨rfl, rfl⟩, -⟩ := counts
        exact fits field limit limited
      · omega
  | updateRuntimeQuotaReservation reservationId status finalizedAt =>
      refine le_trans (usedQuota_map_le (fun _ member => orderly.amount_nonneg member)
        (fun reservation => ?_) fun reservation member counts => ?_) before
      · split
        · cases field <;> rfl
        · rfl
      · split at counts
        · rename_i same
          -- a settled reservation that counts was not refunded before
          simp only [QuotaReservation.counts, Bool.and_eq_true, decide_eq_true_eq, bne_iff_ne,
            ne_eq] at counts ⊢
          refine ⟨counts.1, careful counts.2 reservation ?_⟩
          obtain ⟨id, stored⟩ := (Dict.mem_values_iff _ _).mp member
          have keyed := orderly.keyed id reservation stored
          rw [← same, keyed]
          exact stored
        · exact counts
  | _ => exact before

theorem Inv.init (clock : Datetime) (artifacts : JsonArtifactStore)
    (nonneg : ∀ field tenantId, ∀ limit ∈ config.limit field tenantId, 0 ≤ limit) :
    Inv config (.initial clock artifacts) where
  orderly := by
    constructor
    · intro id reservation found
      cases found
    · intro reservation member
      cases member
  table := rfl
  within := fun field tenantId _ limit limited => nonneg field tenantId limit limited
  sound := by
    intro index thread found
    cases found

theorem Inv.step (inv : Inv config quotas) (event : Event) (careful : Careful quotas event) :
    Inv config (quotas.step config event) := by
  cases event with
  | tick micros =>
      exact ⟨⟨inv.orderly.keyed, inv.orderly.nonneg⟩, inv.table, inv.within,
        inv.sound.of_rely fun _ _ _ _ => trivial⟩
  | call call =>
      exact ⟨inv.orderly, inv.table, inv.within, inv.sound.spawn (program_meets call)⟩
  | crash index => exact ⟨inv.orderly, inv.table, inv.within, inv.sound.crash⟩
  | perform index =>
      cases found : quotas.pool.threads[index]? with
      | none =>
          have idle : quotas.step config (.perform index) = quotas := by
            simp [Quotas.step, Quotas.nextOp, Pool.step_of_none exec found, found]
          rw [idle]
          exact inv
      | some thread =>
          have careful_op : ∀ op, thread.nextOp = some op →
              CarefulOp thread.past quotas.pool.state op :=
            fun op next => careful thread found op next
          have sound := inv.sound.step found
            (fun op next => ⟨careful_op op next, inv.orderly⟩) fun _ _ _ _ _ => trivial
          have state_eq : (quotas.pool.step exec index).state =
              thread.effect exec quotas.pool.state := by
            rw [Pool.step_of_thread exec found]
          cases next : thread.nextOp with
          | none =>
              have same : (quotas.pool.step exec index).state = quotas.pool.state := by
                rw [state_eq, Thread.effect_of_done exec next]
              have granted : (quotas.step config (.perform index)).granted = quotas.granted := by
                simp [Quotas.step, Quotas.nextOp, found, next]
              refine ⟨?_, ?_, ?_, sound⟩
              · exact same.symm ▸ inv.orderly
              · rw [granted, inv.table]
                exact congrArg (·.store.runtimeQuotaReservations.values) same.symm
              · rw [granted]
                exact inv.within
          | some op =>
              have careful_here := careful_op op next
              have after : (quotas.pool.step exec index).state =
                  (exec op quotas.pool.state).2 := by
                rw [state_eq, Thread.effect_of_nextOp exec next]
              have granted : (quotas.step config (.perform index)).granted =
                  record op quotas.pool.state.store.runtimeQuotaReservations.values := by
                simp [Quotas.step, Quotas.nextOp, found, next, inv.table]
              have fits := inv.sound.guar found next ⟨careful_here, inv.orderly⟩
              refine ⟨?_, ?_, ?_, sound⟩
              · exact after.symm ▸ inv.orderly.exec careful_here
              · rw [granted, ← values_exec inv.orderly careful_here]
                exact congrArg (·.store.runtimeQuotaReservations.values) after.symm
              · rw [granted]
                exact within_record inv.orderly careful_here fits (inv.table ▸ inv.within)

/-- In every run of careful events the granted reservations stay within the limits. -/
theorem quota_safety (clock : Datetime) (artifacts : JsonArtifactStore) (events : List Event)
    (nonneg : ∀ field tenantId, ∀ limit ∈ config.limit field tenantId, 0 ≤ limit)
    (run : Steps (Quotas.step config) Careful (.initial clock artifacts) events) :
    Within config (events.foldl (Quotas.step config) (.initial clock artifacts)).granted :=
  (run.invariant (Inv config) (.init clock artifacts nonneg)
    fun _ event inv careful => inv.step event careful).within

/-- Ten tokens and ten tool calls a minute for every tenant. -/
def tenEach : RuntimeQuotaConfig := ⟨fun _ => some 10, fun _ => some 10⟩

def tenTokens (runId : Text) : ReserveRequest := ⟨"queue-a", runId, "tenant-a", 10, 1⟩

/-- One reservation is granted and refunded, then the next one is granted and finalized. -/
def inTurn : List Event :=
  let firstId := (tenTokens "run-1").reservationId "2026-07-01T09:00"
  let secondId := (tenTokens "run-2").reservationId "2026-07-01T09:00"
  [Event.call (.reserve id (tenTokens "run-1"))] ++ List.replicate 8 (Event.perform 0) ++
    [Event.call (.refund firstId)] ++ List.replicate 2 (Event.perform 1) ++
    [Event.call (.reserve id (tenTokens "run-2"))] ++ List.replicate 8 (Event.perform 2) ++
    [Event.call (.finalize secondId)] ++ List.replicate 2 (Event.perform 3)

theorem quota_safety_inTurn :
    Within tenEach (inTurn.foldl (Quotas.step tenEach)
      (.initial Sample.clock .empty)).granted :=
  quota_safety Sample.clock .empty inTurn
    (by rintro field tenantId limit limited; cases field <;> cases limited <;> decide)
    (by decide)

def sideBySide : List Event :=
  [Event.call (.reserve id (tenTokens "run-1")), .call (.reserve id (tenTokens "run-2"))] ++
    List.replicate 4 (Event.perform 0) ++ List.replicate 4 (Event.perform 1) ++
      [Event.perform 0, .perform 1]

/-- Both reservations are granted, twice the limit. -/
theorem quota_exceeded_sideBySide :
    ¬ ∀ (config : RuntimeQuotaConfig) (clock : Datetime) (artifacts : JsonArtifactStore)
      (events : List Event),
      Within config (events.foldl (Quotas.step config) (.initial clock artifacts)).granted := by
  intro safe
  have bound := safe tenEach Sample.clock .empty sideBySide .reservedTokens
    "tenant-a" "2026-07-01T09:00" 10 rfl
  exact absurd bound (by decide)

end Runs

end QuotaSafety

end SkillCentric
