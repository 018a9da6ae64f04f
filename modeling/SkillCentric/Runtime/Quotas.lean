import SkillCentric.Runtime.FlightRecorder

/-!
# Quota reservations

`RuntimeQuotaManager`: a reservation is checked against the reservations of the same tenant and
minute, inserted, and later finalized or refunded.
-/

namespace SkillCentric

/-- The two quantities under quota. -/
inductive QuotaField where
  | reservedTokens
  | reservedToolCalls
  deriving DecidableEq, Repr

namespace QuotaField

/-- The field as stored. -/
def text : QuotaField → Text
  | .reservedTokens => "reserved_tokens"
  | .reservedToolCalls => "reserved_tool_calls"

/-- The stop reason of an exhausted quota. -/
def stopReason : QuotaField → Text
  | .reservedTokens => "max_tokens"
  | .reservedToolCalls => "max_tool_calls"

/-- The amount a reservation holds. -/
def amount : QuotaField → QuotaReservation → Int
  | .reservedTokens => (·.reservedTokens)
  | .reservedToolCalls => (·.reservedToolCalls)

end QuotaField

/-- `RuntimeQuotaConfig`. -/
structure RuntimeQuotaConfig where
  tenantTokenLimitsPerMinute : Text → Option Int
  tenantToolCallLimitsPerMinute : Text → Option Int

namespace RuntimeQuotaConfig

/-- The limit of a tenant. -/
def limit (config : RuntimeQuotaConfig) : QuotaField → Text → Option Int
  | .reservedTokens => config.tenantTokenLimitsPerMinute
  | .reservedToolCalls => config.tenantToolCallLimitsPerMinute

end RuntimeQuotaConfig

/-- The arguments of `reserve`; the amounts are the limits of the profile. -/
structure ReserveRequest where
  queueId : Text
  runId : Text
  tenantId : Text
  maxTokens : Int
  maxToolCalls : Int

namespace ReserveRequest

/-- The requested amount. -/
def requested (request : ReserveRequest) : QuotaField → Int
  | .reservedTokens => request.maxTokens
  | .reservedToolCalls => request.maxToolCalls

/-- The identifier of the reservation. -/
def reservationId (request : ReserveRequest) (quotaWindow : Text) : Text :=
  slugId (request.queueId ++ '-' :: request.runId ++ '-' :: quotaWindow) "quota"

/-- The reservation to insert. -/
def reservation (request : ReserveRequest) (quotaWindow createdAt : Text) : QuotaReservation where
  id := request.reservationId quotaWindow
  queueId := request.queueId
  runId := request.runId
  tenantId := request.tenantId
  quotaWindow
  reservedTokens := request.maxTokens
  reservedToolCalls := request.maxToolCalls
  status := .reserved
  createdAt
  finalizedAt := none

end ReserveRequest

/-- A reservation that counts against the quota of a tenant and window. -/
def QuotaReservation.counts (reservation : QuotaReservation) (tenantId quotaWindow : Text) : Bool :=
  reservation.tenantId = tenantId && reservation.quotaWindow = quotaWindow &&
    reservation.status != .refunded

/-- The amount in use. -/
def usedQuota (field : QuotaField) (tenantId quotaWindow : Text)
    (reservations : List QuotaReservation) : Int :=
  ((reservations.filter (·.counts tenantId quotaWindow)).map field.amount).sum

namespace RuntimeQuotaManager

/-- The minute of a timestamp. -/
def quotaWindow : Py Text := do
  let now ← Py.timestamp
  return now.take 16

/-- The event and the error of an exhausted quota. -/
def exhausted (redact : Json → Json) (request : ReserveRequest) (quotaWindow : Text)
    (field : QuotaField) (used limit : Int) : Py Unit := do
  let _ ← FlightRecorder.recordEvent redact
    { runId := request.runId
      eventType := .quotaExhausted
      actorRole := .quotaManager
      result := some (.obj
        [("tenant_id", .str request.tenantId), ("quota_window", .str quotaWindow),
          ("field", .str field.text), ("requested", .int (request.requested field)),
          ("used", .int used), ("limit", .int limit)])
      stopReason := some field.stopReason }
  throw ⟨.runtimeQuotaError, "Tenant runtime quota exceeded.", some (some field.stopReason)⟩

/-- `_assert_within_limit`. -/
def assertWithinLimit (redact : Json → Json) (config : RuntimeQuotaConfig)
    (request : ReserveRequest) (quotaWindow : Text) (field : QuotaField) : Py Unit :=
  match config.limit field request.tenantId with
  | none => return ()
  | some limit => do
      let recordset ← Py.call .asRuntimePlaneRecordset
      let used := usedQuota field request.tenantId quotaWindow recordset.runtimeQuotaReservations
      if used + request.requested field ≤ limit then return ()
      else exhausted redact request quotaWindow field used limit

/-- `reserve`. -/
def reserve (redact : Json → Json) (config : RuntimeQuotaConfig) (request : ReserveRequest) :
    Py QuotaReservation := do
  let quotaWindow ← quotaWindow
  assertWithinLimit redact config request quotaWindow .reservedTokens
  assertWithinLimit redact config request quotaWindow .reservedToolCalls
  let createdAt ← Py.timestamp
  let reservation := request.reservation quotaWindow createdAt
  Py.call (.insertRuntimeQuotaReservation reservation)
  let _ ← FlightRecorder.recordEvent redact
    { runId := request.runId
      eventType := .quotaReserved
      actorRole := .quotaManager
      result := some (.obj
        [("tenant_id", .str request.tenantId), ("quota_window", .str quotaWindow),
          ("reserved_tokens", .int request.maxTokens),
          ("reserved_tool_calls", .int request.maxToolCalls)]) }
  return reservation

/-- The end of a reservation. -/
def settle (status : ReservationStatus) (reservationId : Text) : Py Unit := do
  let finalizedAt ← Py.timestamp
  let result ← Py.call (.updateRuntimeQuotaReservation reservationId status finalizedAt)
  Py.lift result

/-- `finalize`. -/
def finalize (reservationId : Text) : Py Unit := settle .finalized reservationId

/-- `refund`. -/
def refund (reservationId : Text) : Py Unit := settle .refunded reservationId

end RuntimeQuotaManager

end SkillCentric
