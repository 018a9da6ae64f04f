import SkillCentric.Crm.MobileIdentities

/-!
# The CRM's tables

The tables behind customer cases: documents, CARAT imports, supplier orders and supplier
confirmations, with the columns that the statements on them read or write.  Every primary key is a
serial; columns with a fixed set of values are enumerations.  `visibleCase` is the access rule that
all of the statements share.
-/

namespace SkillCentric.Crm

open SkillCentric

/-- What `require_primary_user` returns. -/
structure UserContext where
  primaryUserId : Nat
  isAdmin : Bool
  scopeUserIds : List Nat
  deriving DecidableEq

/-- The user is in the scope of the request. -/
def UserContext.inScope (context : UserContext) (user : Option Nat) : Bool :=
  user.any context.scopeUserIds.contains

/-- A row of `app.customers`. -/
structure Customer where
  id : Nat
  ownerUserId : Option Nat
  isActive : Bool
  deriving DecidableEq

instance : Keyed Customer Nat := ⟨Customer.id⟩

/-- A row of `app.customer_cases`. -/
structure CustomerCase where
  id : Nat
  customerId : Option Nat
  ownerUserId : Option Nat
  responsibleUserId : Option Nat
  caratOrderNumber : Option Text
  isActive : Bool
  updatedAt : Datetime
  deriving DecidableEq

instance : Keyed CustomerCase Nat := ⟨CustomerCase.id⟩

inductive DocumentStatus where
  | draft
  | received
  | inReview
  | approved
  | sentToCustomer
  | confirmedByCustomer
  | replaced
  | archived
  deriving DecidableEq, Repr

/-- A row of `app.customer_case_documents`. -/
structure CaseDocument where
  id : Nat
  customerCaseId : Nat
  registerCode : Text
  documentCategory : Text
  documentType : Text
  documentStatus : DocumentStatus
  title : Text
  note : Option Text
  versionLabel : Text
  isCurrentVersion : Bool
  replacesDocumentId : Option Nat
  originalFilename : Option Text
  contentType : Option Text
  fileSizeBytes : Option Nat
  storageBackend : Text
  objectStorageBucket : Option Text
  objectStorageKey : Option Text
  contentSha256 : Option Text
  uploadedByUserId : Option Nat
  archivedAt : Option Datetime
  archivedByUserId : Option Nat
  createdAt : Datetime
  updatedAt : Datetime
  deriving DecidableEq

instance : Keyed CaseDocument Nat := ⟨CaseDocument.id⟩

inductive CaratImportStatus where
  | analysisReady
  | partiallyTransferred
  | transferred
  | failed
  deriving DecidableEq, Repr

/-- A row of `app.customer_case_carat_imports`. -/
structure CaratImport where
  id : Nat
  customerCaseId : Nat
  documentId : Nat
  status : CaratImportStatus
  updatedAt : Datetime
  deriving DecidableEq

instance : Keyed CaratImport Nat := ⟨CaratImport.id⟩

inductive SelectionStatus where
  | candidate
  | selected
  | ignored
  | transferred
  deriving DecidableEq, Repr

/-- A row of `app.customer_case_carat_import_positions`; quantities are thousandths. -/
structure CaratPosition where
  id : Nat
  importId : Nat
  positionNumber : Option Text
  supplierName : Option Text
  articleCode : Option Text
  title : Text
  description : Option Text
  quantity : Option Int
  rawJson : Text
  selectionStatus : SelectionStatus
  selectedByUserId : Option Nat
  selectedAt : Option Datetime
  deriving DecidableEq

instance : Keyed CaratPosition Nat := ⟨CaratPosition.id⟩

/-- A row of `app.suppliers`. -/
structure Supplier where
  id : Nat
  name : Text
  normalizedName : Text
  updatedAt : Datetime
  deriving DecidableEq

instance : Keyed Supplier Nat := ⟨Supplier.id⟩

inductive SupplierOrderStatus where
  | draft
  | ordered
  | partiallyConfirmed
  | confirmed
  | closed
  | canceled
  deriving DecidableEq, Repr

/-- A row of `app.supplier_orders`. -/
structure SupplierOrder where
  id : Nat
  customerCaseId : Nat
  supplierId : Nat
  sourceCaratImportId : Option Nat
  orderNumber : Option Text
  title : Text
  status : SupplierOrderStatus
  orderedPositionCount : Nat
  createdByUserId : Option Nat
  updatedAt : Datetime
  deriving DecidableEq

instance : Keyed SupplierOrder Nat := ⟨SupplierOrder.id⟩

/-- A row of `app.supplier_order_positions`; quantities are thousandths, prices cents and dates
days. -/
structure SupplierOrderPosition where
  id : Nat
  supplierOrderId : Nat
  sourceCaratPositionId : Option Nat
  positionNumber : Option Text
  articleCode : Option Text
  title : Text
  description : Option Text
  quantity : Option Int
  orderedNetPrice : Option Int
  orderedDeliveryWeek : Option Text
  orderedDeliveryDate : Option Int
  rawJson : Text
  deriving DecidableEq

instance : Keyed SupplierOrderPosition Nat := ⟨SupplierOrderPosition.id⟩

inductive InboxStatus where
  | contextConfirmed
  | contextRevisionRequired
  | matchingComplete
  deriving DecidableEq, Repr

/-- A row of `app.supplier_confirmation_inbox_items`, as a manual entry writes it. -/
structure InboxItem where
  id : Nat
  customerCaseId : Nat
  documentId : Option Nat
  status : InboxStatus
  confirmedSupplierId : Nat
  confirmedOrderId : Nat
  confirmedCaseId : Nat
  reviewRequired : Bool
  reviewReason : Option Text
  createdByUserId : Option Nat
  updatedAt : Datetime
  deriving DecidableEq

instance : Keyed InboxItem Nat := ⟨InboxItem.id⟩

inductive ConfirmationStatus where
  | draft
  | matchingInProgress
  | matched
  | exceptionsOpen
  | contextRevisionRequired
  | suspended
  | invalidated
  | replaced
  | approved
  | archived
  deriving DecidableEq, Repr

/-- A row of `app.supplier_order_confirmations`; the match rate is in ten-thousandths. -/
structure Confirmation where
  id : Nat
  inboxItemId : Nat
  customerCaseId : Nat
  supplierOrderId : Nat
  supplierId : Nat
  documentId : Option Nat
  confirmationNumber : Option Text
  status : ConfirmationStatus
  orderedPositionCount : Nat
  confirmationPositionCount : Nat
  matchedPositionCount : Nat
  unmatchedOrderPositionCount : Nat
  unmatchedConfirmationPositionCount : Nat
  matchRate : Nat
  createdByUserId : Option Nat
  approvedByUserId : Option Nat
  approvedAt : Option Datetime
  updatedAt : Datetime
  deriving DecidableEq

instance : Keyed Confirmation Nat := ⟨Confirmation.id⟩

inductive MatchStatus where
  | matched
  | matchedWithWarning
  | manualReviewRequired
  | contextRevisionRequired
  deriving DecidableEq, Repr

inductive Severity where
  | green
  | yellow
  | red
  deriving DecidableEq, Repr

/-- A row of `app.supplier_order_confirmation_positions`, in the units of the order positions. -/
structure ConfirmationPosition where
  id : Nat
  confirmationId : Nat
  matchedOrderPositionId : Option Nat
  positionNumber : Option Text
  articleCode : Option Text
  title : Text
  description : Option Text
  quantity : Option Int
  confirmedNetPrice : Option Int
  confirmedDeliveryWeek : Option Text
  confirmedDeliveryDate : Option Int
  matchStatus : MatchStatus
  severity : Severity
  deriving DecidableEq

instance : Keyed ConfirmationPosition Nat := ⟨ConfirmationPosition.id⟩

inductive ExceptionStatus where
  | open
  | accepted
  | resolved
  | waitingForSupplier
  | rejected
  | superseded
  deriving DecidableEq, Repr

inductive DifferenceType where
  | quantity
  | netPrice
  | deliveryDate
  | extraPosition
  | missingPosition
  | unreadableField
  deriving DecidableEq, Repr

/-- A row of `app.supplier_order_confirmation_exceptions`; the texts that show the two values to
people are left out. -/
structure ConfirmationException where
  id : Nat
  confirmationId : Nat
  confirmationPositionId : Option Nat
  orderPositionId : Option Nat
  differenceType : DifferenceType
  severity : Severity
  status : ExceptionStatus
  differenceValue : Option Int
  message : Text
  resolvedByUserId : Option Nat
  resolvedAt : Option Datetime
  resolutionAction : Option Text
  resolutionNote : Option Text
  updatedAt : Datetime
  deriving DecidableEq

instance : Keyed ConfirmationException Nat := ⟨ConfirmationException.id⟩

/-- A row of `app.supplier_order_confirmation_decisions`. -/
structure ConfirmationDecision where
  id : Nat
  confirmationId : Nat
  exceptionId : Nat
  actorUserId : Option Nat
  action : Text
  previousStatus : ExceptionStatus
  newStatus : ExceptionStatus
  note : Option Text
  deriving DecidableEq

instance : Keyed ConfirmationDecision Nat := ⟨ConfirmationDecision.id⟩

/-- The tables. -/
structure CrmDatabase where
  customers : Table Customer
  cases : Table CustomerCase
  documents : Table CaseDocument
  caratImports : Table CaratImport
  caratPositions : Table CaratPosition
  suppliers : Table Supplier
  supplierOrders : Table SupplierOrder
  supplierOrderPositions : Table SupplierOrderPosition
  inboxItems : Table InboxItem
  confirmations : Table Confirmation
  confirmationPositions : Table ConfirmationPosition
  exceptions : Table ConfirmationException
  decisions : Table ConfirmationDecision

namespace CrmDatabase

/-- No rows. -/
def empty : CrmDatabase where
  customers := .empty
  cases := .empty
  documents := .empty
  caratImports := .empty
  caratPositions := .empty
  suppliers := .empty
  supplierOrders := .empty
  supplierOrderPositions := .empty
  inboxItems := .empty
  confirmations := .empty
  confirmationPositions := .empty
  exceptions := .empty
  decisions := .empty

variable (db : CrmDatabase) (context : UserContext)

/-- The customer of a case. -/
def customerOf (case : CustomerCase) : Option Customer := case.customerId.bind db.customers.find?

/-- The access rule of a case: an administrator, or someone who owns or handles the case or its
customer. -/
def mayAccess (case : CustomerCase) : Bool :=
  context.isAdmin || context.inScope case.ownerUserId || context.inScope case.responsibleUserId ||
    (db.customerOf case).any fun customer => context.inScope customer.ownerUserId

/-- `visible_case`. -/
def visibleCase (caseId : Nat) : Option CustomerCase :=
  (db.cases.find? caseId).filter fun case => case.isActive && db.mayAccess context case

/-- `touched`: the case's `updated_at`. -/
def touchCase (caseId : Nat) (now : Datetime) : Table CustomerCase :=
  db.cases.update (fun case => if case.id = caseId then { case with updatedAt := now } else case)
    fun case => by split <;> rfl

end CrmDatabase

end SkillCentric.Crm
