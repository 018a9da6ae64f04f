import SkillCentric.Crm.Tables

/-!
# Supplier confirmations

A supplier's order confirmation is entered, matched against the order, and the differences found
are decided one by one.  Entering runs three statements and a decision runs one; statements of
different calls interleave.  A decision reads the tables as they were when it began and writes into
the rows as they are when it commits, so the system keeps the calls that have begun.  No text holds
a zero character, which `::jsonb` refuses.
-/

namespace SkillCentric.Crm

open SkillCentric

/-- `normalize_article_code`. -/
def normalizeArticleCode (locale : Locale) (code : Option Text) : Text :=
  (locale.upper (strip (code.getD []))).filter fun c => !isSpace c

/-- An entry of the `exceptions` that the matching finds. -/
structure Difference where
  confirmationPositionId : Option Nat
  orderPositionId : Option Nat
  differenceType : DifferenceType
  severity : Severity
  message : Text
  differenceValue : Option Int
  deriving DecidableEq

/-- What the matching says of one confirmed position. -/
structure Finding where
  severity : Severity
  matchStatus : MatchStatus
  differences : List Difference

namespace Finding

/-- A difference to be reviewed by hand. -/
def red (finding : Finding) (difference : Difference) : Finding :=
  ⟨.red, .manualReviewRequired, finding.differences ++ [difference]⟩

/-- A difference that only warns; a red finding stays red. -/
def yellow (finding : Finding) (difference : Difference) : Finding :=
  ⟨if finding.severity = .red then .red else .yellow, .matchedWithWarning,
    finding.differences ++ [difference]⟩

end Finding

section Matching

variable (order : SupplierOrderPosition) (position : ConfirmationPosition)

/-- A difference between the two positions. -/
def differenceOf (type : DifferenceType) (severity : Severity) (message : Text)
    (value : Option Int) : Difference :=
  ⟨some position.id, some order.id, type, severity, message, value⟩

/-- The quantities; a difference resets the severity to yellow. -/
def compareQuantity (finding : Finding) : Finding :=
  match order.quantity, position.quantity with
  | some ordered, some confirmed =>
      if confirmed - ordered ≠ 0 then
        ⟨.yellow, .matchedWithWarning, finding.differences ++
          [differenceOf order position .quantity .yellow "Menge weicht von der Bestellung ab."
            (some (confirmed - ordered))]⟩
      else finding
  | some _, none =>
      finding.red (differenceOf order position .unreadableField .red
        "Menge der AB-Position fehlt oder ist nicht lesbar." none)
  | none, _ => finding

def comparePrice (finding : Finding) : Finding :=
  match order.orderedNetPrice, position.confirmedNetPrice with
  | some ordered, some confirmed =>
      if confirmed - ordered ≠ 0 then
        finding.yellow (differenceOf order position .netPrice .yellow
          "Netto-Preis weicht ab und muss bestätigt werden." (some (confirmed - ordered)))
      else finding
  | some _, none =>
      finding.red (differenceOf order position .unreadableField .red
        "Netto-Preis der AB-Position fehlt oder ist nicht lesbar." none)
  | none, _ => finding

/-- The delivery: dates if both are known, else weeks if both are given and not empty. -/
def compareDelivery (finding : Finding) : Finding :=
  match order.orderedDeliveryDate, position.confirmedDeliveryDate with
  | some ordered, some confirmed =>
      if 7 ≤ confirmed - ordered then
        finding.red (differenceOf order position .deliveryDate .red
          "Liefertermin weicht mindestens eine Woche ab." (some (confirmed - ordered)))
      else if 0 < confirmed - ordered then
        finding.yellow (differenceOf order position .deliveryDate .yellow
          "Liefertermin weicht innerhalb des Montagepuffers ab." (some (confirmed - ordered)))
      else finding
  | _, _ =>
      match order.orderedDeliveryWeek.bind nullIfEmpty,
        position.confirmedDeliveryWeek.bind nullIfEmpty with
      | some ordered, some confirmed =>
          if ordered ≠ confirmed then
            finding.yellow (differenceOf order position .deliveryDate .yellow
              "Liefer-KW weicht von der Bestellung ab." none)
          else finding
      | _, _ => finding

end Matching

section Recompute

variable (locale : Locale) (orders : List SupplierOrderPosition)
  (positions : List ConfirmationPosition)

/-- `order_by_article`: of two order positions with one article the later counts. -/
def orderByArticle (key : Text) : Option SupplierOrderPosition :=
  if key.isEmpty then none
  else orders.reverse.find? fun order => normalizeArticleCode locale order.articleCode = key

/-- The order position that a confirmed position answers. -/
def matchedOrder (position : ConfirmationPosition) : Option SupplierOrderPosition :=
  orderByArticle locale orders (normalizeArticleCode locale position.articleCode)

/-- The loop body of `recompute_supplier_confirmation_matching`. -/
def findingOf (position : ConfirmationPosition) : Finding :=
  match matchedOrder locale orders position with
  | none =>
      ⟨.red, .manualReviewRequired,
        [⟨some position.id, none, .extraPosition, .red,
          "AB-Position ist keiner bestellten Position zugeordnet.", none⟩]⟩
  | some order =>
      compareDelivery order position (comparePrice order position
        (compareQuantity order position ⟨.green, .matched, []⟩))

/-- `matched_order_ids`. -/
def matchedOrderIds : List Nat :=
  (positions.filterMap fun position => (matchedOrder locale orders position).map (·.id)).dedup

/-- The `exceptions` of a recomputation. -/
def differences : List Difference :=
  positions.flatMap (fun position => (findingOf locale orders position).differences) ++
    (orders.filter fun order => !(matchedOrderIds locale orders positions).contains order.id).map
      fun order => ⟨none, some order.id, .missingPosition, .red,
        "Bestellte Position fehlt in der AB.", none⟩

/-- The status of a recomputation. -/
def matchingStatus : ConfirmationStatus :=
  if orders ≠ [] ∧ (matchedOrderIds locale orders positions).length = 0 then
    .contextRevisionRequired
  else if differences locale orders positions ≠ [] then .exceptionsOpen
  else .matched

/-- `match_rate` in ten-thousandths. -/
def matchRate : Nat :=
  if orders.length = 0 then 0
  else (20000 * (matchedOrderIds locale orders positions).length + orders.length) /
    (2 * orders.length)

end Recompute

/-- The row of a found difference. -/
def Difference.row (difference : Difference) (confirmationId : Nat) (now : Datetime) (id : Nat) :
    ConfirmationException where
  id := id
  confirmationId := confirmationId
  confirmationPositionId := difference.confirmationPositionId
  orderPositionId := difference.orderPositionId
  differenceType := difference.differenceType
  severity := difference.severity
  status := .open
  differenceValue := difference.differenceValue
  message := difference.message
  resolvedByUserId := none
  resolvedAt := none
  resolutionAction := none
  resolutionNote := none
  updatedAt := now

/-- `SET` of the recomputation's `updated_confirmation`. -/
def setMatching (locale : Locale) (orders : List SupplierOrderPosition)
    (positions : List ConfirmationPosition) (now : Datetime) (confirmation : Confirmation) :
    Confirmation :=
  { confirmation with
    status := matchingStatus locale orders positions
    orderedPositionCount := orders.length
    confirmationPositionCount := positions.length
    matchedPositionCount := (matchedOrderIds locale orders positions).length
    unmatchedOrderPositionCount :=
      orders.length - (matchedOrderIds locale orders positions).length
    unmatchedConfirmationPositionCount :=
      (positions.filter fun position => (matchedOrder locale orders position).isNone).length
    matchRate := matchRate locale orders positions
    updatedAt := now }

/-- The statement of `recompute_supplier_confirmation_matching` for the context it fetched. -/
def storeMatching (locale : Locale) (confirmationId : Nat) (orders : List SupplierOrderPosition)
    (positions : List ConfirmationPosition) (now : Datetime) (db : CrmDatabase) : CrmDatabase :=
  let status := matchingStatus locale orders positions
  { db with
    exceptions := (db.exceptions.delete fun exception =>
        decide (exception.confirmationId = confirmationId)).insertAll
      (differences locale orders positions)
      (fun id difference => difference.row confirmationId now id) fun _ _ => rfl
    confirmationPositions := db.confirmationPositions.update
      (fun position =>
        match positions.find? fun read => decide (read.id = position.id) with
        | some read =>
            { position with
              matchedOrderPositionId := (matchedOrder locale orders read).map (·.id)
              severity := (findingOf locale orders read).severity
              matchStatus := (findingOf locale orders read).matchStatus }
        | none => position)
      fun position => by split <;> rfl
    confirmations := db.confirmations.update
      (fun confirmation =>
        if confirmation.id = confirmationId then
          setMatching locale orders positions now confirmation
        else confirmation)
      fun confirmation => by split <;> rfl
    -- `review_required` looks at the exceptions the statement began with
    inboxItems := db.inboxItems.update
      (fun item =>
        if db.confirmations.rows.any fun confirmation =>
            decide (confirmation.id = confirmationId ∧ confirmation.inboxItemId = item.id) then
          { item with
            status := if status = .contextRevisionRequired then .contextRevisionRequired
              else .matchingComplete
            reviewRequired := db.exceptions.rows.any fun exception =>
              decide (exception.confirmationId = confirmationId ∧ exception.status = .open)
            reviewReason := if status = .contextRevisionRequired then some "possible_wrong_context"
              else item.reviewReason
            updatedAt := now }
        else item)
      fun item => by split <;> rfl }

/-- A line of the entry form, parsed. -/
structure EnteredPosition where
  positionNumber : Text
  articleCode : Option Text
  title : Text
  description : Option Text
  quantity : Option Int
  confirmedNetPrice : Option Int
  confirmedDeliveryWeek : Option Text
  confirmedDeliveryDate : Option Int

/-- The arguments of `create_supplier_order_confirmation`. -/
structure ConfirmationRequest where
  context : UserContext
  caseId : Nat
  supplierOrderId : Nat
  documentId : Option Nat
  confirmationNumber : Text
  positions : List EnteredPosition

namespace ConfirmationRequest

variable (request : ConfirmationRequest) (now : Datetime)

def inboxItem (order : SupplierOrder) (id : Nat) : InboxItem where
  id := id
  customerCaseId := request.caseId
  documentId := request.documentId
  status := .contextConfirmed
  confirmedSupplierId := order.supplierId
  confirmedOrderId := order.id
  confirmedCaseId := request.caseId
  reviewRequired := false
  reviewReason := none
  createdByUserId := some request.context.primaryUserId
  updatedAt := now

def confirmation (order : SupplierOrder) (inboxItemId id : Nat) : Confirmation where
  id := id
  inboxItemId := inboxItemId
  customerCaseId := request.caseId
  supplierOrderId := order.id
  supplierId := order.supplierId
  documentId := request.documentId
  confirmationNumber := nullIfEmpty (strip request.confirmationNumber)
  status := .matchingInProgress
  orderedPositionCount := 0
  confirmationPositionCount := 0
  matchedPositionCount := 0
  unmatchedOrderPositionCount := 0
  unmatchedConfirmationPositionCount := 0
  matchRate := 0
  createdByUserId := some request.context.primaryUserId
  approvedByUserId := none
  approvedAt := none
  updatedAt := now

def position (confirmationId id : Nat) (entered : EnteredPosition) : ConfirmationPosition where
  id := id
  confirmationId := confirmationId
  matchedOrderPositionId := none
  positionNumber := some entered.positionNumber
  articleCode := entered.articleCode
  title := entered.title
  description := entered.description
  quantity := entered.quantity
  confirmedNetPrice := entered.confirmedNetPrice
  confirmedDeliveryWeek := entered.confirmedDeliveryWeek
  confirmedDeliveryDate := entered.confirmedDeliveryDate
  matchStatus := .manualReviewRequired
  severity := .yellow

/-- The rows that the first statement inserts. -/
def inserted (order : SupplierOrder) (db : CrmDatabase) : CrmDatabase :=
  { db with
    inboxItems := db.inboxItems.insertAll [()] (fun id _ => request.inboxItem now order id)
      fun _ _ => rfl
    confirmations := db.confirmations.insertAll [()]
      (fun id _ => request.confirmation now order db.inboxItems.nextKey id) fun _ _ => rfl
    confirmationPositions := db.confirmationPositions.insertAll request.positions
      (fun id entered => position db.confirmations.nextKey id entered) fun _ _ => rfl }

/-- The first statement of `create_supplier_order_confirmation`.  Its answer counts the rows of
`inserted_positions`, which has no `RETURNING` clause; PostgreSQL refuses such a query, and
`countsUnreturned` is true of a server that would not. -/
def create (countsUnreturned : Bool) (db : CrmDatabase) : Except ApiError (Nat × CrmDatabase) :=
  if request.positions.isEmpty then .error (.badRequest "confirmation_positions_required")
  else if !countsUnreturned then .error .database
  else
    match (db.visibleCase request.context request.caseId).bind fun _ =>
      (db.supplierOrders.find? request.supplierOrderId).filter fun order =>
        decide (order.customerCaseId = request.caseId) with
    | none => .error (.notFound "supplier_order_not_found")
    | some order =>
        -- the foreign key of the document
        if request.documentId.any fun documentId => (db.documents.find? documentId).isNone then
          .error .database
        else .ok (db.confirmations.nextKey, request.inserted now order db)

end ConfirmationRequest

/-- The actions of `decide_supplier_confirmation_exception`. -/
inductive ExceptionAction where
  | accept
  | resolve
  | reject
  | requestCorrectedAb
  | requestPriceClarification
  | requestDeliveryClarification
  | requestAlternativeArticle
  | requestQuantityClarification
  deriving DecidableEq, Repr

namespace ExceptionAction

def text : ExceptionAction → Text
  | accept => "accept"
  | resolve => "resolve"
  | reject => "reject"
  | requestCorrectedAb => "request_corrected_ab"
  | requestPriceClarification => "request_price_clarification"
  | requestDeliveryClarification => "request_delivery_clarification"
  | requestAlternativeArticle => "request_alternative_article"
  | requestQuantityClarification => "request_quantity_clarification"

/-- `new_status`. -/
def newStatus : ExceptionAction → ExceptionStatus
  | accept => .accepted
  | resolve => .resolved
  | reject => .rejected
  | _ => .waitingForSupplier

end ExceptionAction

/-- The arguments of `decide_supplier_confirmation_exception`. -/
structure DecisionRequest where
  context : UserContext
  confirmationId : Nat
  exceptionId : Nat
  action : ExceptionAction
  note : Text

/-- The statement's read part, taken when it begins. -/
structure DecisionSnapshot where
  request : DecisionRequest
  /-- `visible_confirmation`. -/
  confirmationId : Option Nat
  /-- `visible_exception`. -/
  exception : Option ConfirmationException
  /-- `open_exceptions`; without a visible exception its condition is never true. -/
  openCount : Nat

namespace DecisionRequest

variable (request : DecisionRequest)

/-- `visible_confirmation`; the case may be inactive here. -/
def visibleConfirmation (db : CrmDatabase) : Option Confirmation :=
  (db.confirmations.find? request.confirmationId).filter fun confirmation =>
    (db.cases.find? confirmation.customerCaseId).any (db.mayAccess request.context)

/-- `visible_exception`. -/
def visibleException (db : CrmDatabase) : Option ConfirmationException :=
  (request.visibleConfirmation db).bind fun confirmation =>
    (db.exceptions.find? request.exceptionId).filter fun exception =>
      decide (exception.confirmationId = confirmation.id)

def openCount (db : CrmDatabase) : Nat :=
  match request.visibleConfirmation db, request.visibleException db with
  | some confirmation, some decided =>
      (db.exceptions.rows.filter fun exception =>
        decide (exception.confirmationId = confirmation.id ∧ exception.status = .open ∧
          exception.id ≠ decided.id)).length
  | _, _ => 0

/-- The beginning of the statement. -/
def snapshot (db : CrmDatabase) : DecisionSnapshot where
  request := request
  confirmationId := (request.visibleConfirmation db).map (·.id)
  exception := request.visibleException db
  openCount := request.openCount db

end DecisionRequest

namespace DecisionSnapshot

variable (decision : DecisionSnapshot) (now : Datetime)

/-- `SET` of `updated_exception`. -/
def decideException (exception : ConfirmationException) : ConfirmationException :=
  { exception with
    status := decision.request.action.newStatus
    resolvedByUserId := some decision.request.context.primaryUserId
    resolvedAt := some now
    resolutionAction := some decision.request.action.text
    resolutionNote := nullIfEmpty (strip decision.request.note)
    updatedAt := now }

/-- `SET` of `updated_confirmation`. -/
def decideConfirmation (confirmation : Confirmation) : Confirmation :=
  { confirmation with
    status :=
      if decision.request.action.newStatus = .waitingForSupplier then .suspended
      else if decision.openCount = 0 then .approved
      else confirmation.status
    approvedByUserId :=
      if decision.openCount = 0 then some decision.request.context.primaryUserId
      else confirmation.approvedByUserId
    approvedAt := if decision.openCount = 0 then some now else confirmation.approvedAt
    updatedAt := now }

/-- The row of `decision`. -/
def row (confirmationId : Nat) (exception : ConfirmationException) (id : Nat) :
    ConfirmationDecision where
  id := id
  confirmationId := confirmationId
  exceptionId := exception.id
  actorUserId := some decision.request.context.primaryUserId
  action := decision.request.action.text
  previousStatus := exception.status
  newStatus := decision.request.action.newStatus
  note := nullIfEmpty (strip decision.request.note)

/-- The end of the statement: its writes go into the rows as they are now. -/
def commit (db : CrmDatabase) : CrmDatabase :=
  { db with
    exceptions := db.exceptions.update
      (fun exception =>
        if decision.exception.map (·.id) = some exception.id then
          decision.decideException now exception
        else exception)
      fun exception => by split <;> rfl
    decisions := db.decisions.insertAll
      (match decision.confirmationId, decision.exception with
        | some confirmationId, some exception =>
            if (db.exceptions.find? exception.id).isSome then [(confirmationId, exception)] else []
        | _, _ => [])
      (fun id (confirmationId, exception) => decision.row confirmationId exception id)
      fun _ _ => rfl
    confirmations := db.confirmations.update
      (fun confirmation =>
        if decision.confirmationId = some confirmation.id then
          decision.decideConfirmation now confirmation
        else confirmation)
      fun confirmation => by split <;> rfl }

end DecisionSnapshot

/-- A call that has run some of its statements, or is inside one. -/
inductive ConfirmationCall where
  | created (confirmationId : Nat)
  | fetched (confirmationId : Nat) (orders : List SupplierOrderPosition)
      (positions : List ConfirmationPosition)
  | deciding (decision : DecisionSnapshot)

/-- The tables and the calls that have begun, in no particular order. -/
structure ConfirmationSystem where
  db : CrmDatabase
  calls : List ConfirmationCall

/-- What can happen next: a call begins, or the call at a place goes on or is given up. -/
inductive ConfirmationEvent where
  | create (request : ConfirmationRequest) (now : Datetime)
  | decide (request : DecisionRequest)
  | proceed (place : Nat) (now : Datetime)
  | abandon (place : Nat)

namespace ConfirmationSystem

variable (locale : Locale) (countsUnreturned : Bool)

/-- `fetch_confirmation_match_context`. -/
def fetch (db : CrmDatabase) (confirmationId : Nat) : Option ConfirmationCall :=
  (db.confirmations.find? confirmationId).map fun confirmation =>
    .fetched confirmationId
      (db.supplierOrderPositions.rows.filter fun position =>
        decide (position.supplierOrderId = confirmation.supplierOrderId))
      (db.confirmationPositions.rows.filter fun position =>
        decide (position.confirmationId = confirmationId))

/-- One event. -/
def step (system : ConfirmationSystem) : ConfirmationEvent → ConfirmationSystem
  | .create request now =>
      match request.create now countsUnreturned system.db with
      | .ok (confirmationId, after) => ⟨after, system.calls ++ [.created confirmationId]⟩
      | .error _ => system
  | .decide request => ⟨system.db, system.calls ++ [.deciding (request.snapshot system.db)]⟩
  | .proceed place now =>
      match system.calls[place]? with
      | none => system
      | some (.created confirmationId) =>
          match fetch system.db confirmationId with
          | some call => ⟨system.db, call :: system.calls.eraseIdx place⟩
          | none => ⟨system.db, system.calls.eraseIdx place⟩
      | some (.fetched confirmationId orders positions) =>
          ⟨storeMatching locale confirmationId orders positions now system.db,
            system.calls.eraseIdx place⟩
      | some (.deciding decision) =>
          ⟨decision.commit now system.db, system.calls.eraseIdx place⟩
  | .abandon place => ⟨system.db, system.calls.eraseIdx place⟩

end ConfirmationSystem

end SkillCentric.Crm
