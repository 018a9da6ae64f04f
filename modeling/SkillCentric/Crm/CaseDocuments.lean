import SkillCentric.Crm.Tables

/-!
# Documents of a customer case

Uploads, replacements and archiving of case documents, and the three readers: the customers' state,
the download and the customer export.  An upload runs one statement; the analysis of a CARAT file
that may follow writes only the import tables.  No text holds a zero character, which `::jsonb`
refuses.
-/

namespace SkillCentric.Crm

open SkillCentric

/-- `DOCUMENT_STATUSES`. -/
def DocumentStatus.ofText? (text : Text) : Option DocumentStatus :=
  (([("draft", .draft), ("received", .received), ("in_review", .inReview), ("approved", .approved),
    ("sent_to_customer", .sentToCustomer), ("confirmed_by_customer", .confirmedByCustomer),
    ("replaced", .replaced), ("archived", .archived)] : List (Text × DocumentStatus)).find?
      fun entry => entry.1 = text).map (·.2)

/-- `DOCUMENT_CATEGORIES`. -/
def documentCategories : List Text :=
  ["from_customer", "measurement", "planning", "offer", "order", "order_processing",
    "delivery_installation", "complaint_service", "invoice", "customer_document", "drawing_plan",
    "offer_order", "invoice_closure"]

/-- `DOCUMENT_TYPES`. -/
def documentTypes : List Text :=
  ["offer", "measurement", "order_confirmation", "delivery_note", "invoice", "plan", "photo",
    "contract", "email_attachment", "customer_document", "drawing_plan", "offer_order",
    "invoice_closure", "carat_project", "other"]

/-- `DOCUMENT_CATEGORY_REGISTERS`. -/
def documentCategoryRegisters : List (Text × Text) :=
  [("from_customer", "anfrage"), ("measurement", "planung"), ("planning", "planung"),
    ("offer", "angebot_auftrag"), ("order", "angebot_auftrag"), ("order_processing", "abwicklung"),
    ("complaint_service", "kommunikation"), ("delivery_installation", "abwicklung"),
    ("invoice", "rechnung_abschluss")]

/-- The content types of the table's check. -/
def storableContentTypes : List Text :=
  ["application/pdf", "image/jpeg", "image/png", "image/webp",
    "application/vnd.openxmlformats-officedocument.wordprocessingml.document",
    "application/vnd.openxmlformats-officedocument.spreadsheetml.sheet", "application/zip",
    "application/x-zip-compressed", "application/octet-stream"]

/-- `normalize_document_choice` for a set of texts. -/
def normalizeDocumentChoice (value : Text) (allowed : List Text) (default : Text) : Text :=
  if strip value ∈ allowed then strip value else default

/-- `CHECK` constraints that an upload could break. -/
def CaseDocument.checks (document : CaseDocument) : Bool :=
  !(btrim document.title).isEmpty &&
  document.contentType.all (fun type => decide (type ∈ storableContentTypes)) &&
  (decide (document.storageBackend ≠ "object_storage") ||
    (!(btrim (document.objectStorageBucket.getD [])).isEmpty &&
      !(btrim (document.objectStorageKey.getD [])).isEmpty))

/-- The fields of an upload's form, each as `str` gives it. -/
structure DocumentRequest where
  title : Text
  documentCategory : Text
  documentType : Text
  documentStatus : Text
  note : Text
  versionLabel : Text
  /-- `replaces_document_id`, if the form names a document. -/
  replacesDocumentId : Option Nat
  caratUploadMode : Text

/-- An uploaded file as the object storage took it. -/
structure StoredUpload where
  originalFilename : Text
  contentType : Text
  fileSizeBytes : Nat
  objectStorageBucket : Text
  objectStorageKey : Text
  contentSha256 : Text
  /-- `is_carat_prjz_upload`. -/
  isCarat : Bool

/-- The statement's `payload`. -/
structure DocumentPayload where
  caseId : Nat
  registerCode : Text
  documentCategory : Text
  documentType : Text
  documentStatus : DocumentStatus
  title : Text
  note : Text
  versionLabel : Text
  replacesDocumentId : Option Nat
  replaceLatestCaratProject : Bool
  actorUserId : Nat
  upload : Option StoredUpload

/-- The status an upload asks for. -/
def DocumentRequest.status (request : DocumentRequest) : DocumentStatus :=
  (DocumentStatus.ofText? (strip request.documentStatus)).getD .received

def DocumentRequest.payload (request : DocumentRequest) (context : UserContext) (caseId : Nat)
    (upload : Option StoredUpload) : DocumentPayload :=
  let isCarat := upload.any (·.isCarat)
  let category : Text :=
    if isCarat then "order_processing"
    else normalizeDocumentChoice request.documentCategory documentCategories "from_customer"
  { caseId := caseId
    registerCode := ((documentCategoryRegisters.find? fun entry => entry.1 = category).map
      (·.2)).getD "anfrage"
    documentCategory := category
    documentType :=
      if isCarat then "carat_project"
      else normalizeDocumentChoice request.documentType documentTypes "other"
    documentStatus := request.status
    title := strip request.title
    note := strip request.note
    versionLabel := if (strip request.versionLabel).isEmpty then "1" else strip request.versionLabel
    replacesDocumentId := request.replacesDocumentId
    replaceLatestCaratProject :=
      isCarat && decide (strip request.caratUploadMode = "replace_latest")
    actorUserId := context.primaryUserId
    upload := upload }

namespace DocumentPayload

variable (payload : DocumentPayload)

/-- The document is named as the one to replace. -/
def names (document : CaseDocument) : Bool := decide (payload.replacesDocumentId = some document.id)

/-- The condition of `replacement`. -/
def replaces (document : CaseDocument) : Bool :=
  decide (document.customerCaseId = payload.caseId) &&
    (payload.names document ||
      (payload.replaceLatestCaratProject && decide (document.documentType = "carat_project") &&
        decide (document.documentStatus ≠ .archived) && document.isCurrentVersion))

/-- `ORDER BY` of `replacement`: the named document first, then the newest. -/
def precedes (document other : CaseDocument) : Bool :=
  if payload.names document != payload.names other then payload.names document
  else if document.createdAt ≠ other.createdAt then decide (other.createdAt < document.createdAt)
  else decide (other.id < document.id)

/-- The first of the documents seen so far. -/
def lead (best : Option CaseDocument) (document : CaseDocument) : Option CaseDocument :=
  match best with
  | none => some document
  | some leader => if payload.precedes document leader then some document else some leader

/-- `replacement`. -/
def replacement (documents : Table CaseDocument) : Option CaseDocument :=
  (documents.rows.filter payload.replaces).foldl payload.lead none

/-- `marked_replaced`. -/
def marked (documents : Table CaseDocument) (now : Datetime) : Table CaseDocument :=
  documents.update
    (fun document =>
      if (payload.replacement documents).map (·.id) = some document.id then
        { document with documentStatus := .replaced, isCurrentVersion := false, updatedAt := now }
      else document)
    fun document => by split <;> rfl

/-- The row of `inserted`. -/
def row (documents : Table CaseDocument) (now : Datetime) (id : Nat) : CaseDocument where
  id := id
  customerCaseId := payload.caseId
  registerCode := payload.registerCode
  documentCategory := payload.documentCategory
  documentType := payload.documentType
  documentStatus := payload.documentStatus
  title := payload.title
  note := nullIfEmpty payload.note
  versionLabel := payload.versionLabel
  isCurrentVersion := true
  replacesDocumentId := (payload.replacement documents).map (·.id)
  originalFilename := payload.upload.bind fun upload => nullIfEmpty upload.originalFilename
  contentType := payload.upload.bind fun upload => nullIfEmpty upload.contentType
  fileSizeBytes := payload.upload.map (·.fileSizeBytes)
  storageBackend := if payload.upload.isSome then "object_storage" else "local"
  objectStorageBucket := payload.upload.bind fun upload => nullIfEmpty upload.objectStorageBucket
  objectStorageKey := payload.upload.bind fun upload => nullIfEmpty upload.objectStorageKey
  contentSha256 := payload.upload.bind fun upload => nullIfEmpty upload.contentSha256
  uploadedByUserId := some payload.actorUserId
  archivedAt := none
  archivedByUserId := none
  createdAt := now
  updatedAt := now

/-- `canceled_replaced_supplier_orders`: the orders of the replaced document's import. -/
def cancels (db : CrmDatabase) (order : SupplierOrder) : Bool :=
  decide (order.status ≠ .canceled) && order.sourceCaratImportId.any fun importId =>
    db.caratImports.rows.any fun carat =>
      decide (carat.id = importId) &&
        decide ((payload.replacement db.documents).map (·.id) = some carat.documentId)

/-- The tables after the statement, for a visible case. -/
def written (db : CrmDatabase) (now : Datetime) : CrmDatabase :=
  { db with
    documents := (payload.marked db.documents now).insertAll [()]
      (fun id _ => payload.row db.documents now id) fun _ _ => rfl
    supplierOrders := db.supplierOrders.update
      (fun order =>
        if payload.cancels db order then { order with status := .canceled, updatedAt := now }
        else order)
      fun order => by split <;> rfl
    cases := db.touchCase payload.caseId now }

end DocumentPayload

/-- What an upload returns. -/
structure CreatedDocument where
  documentId : Nat
  canceledSupplierOrderCount : Nat
  deriving DecidableEq

/-- `create_customer_case_document_metadata`; `upload` is the outcome of checking the file and
putting it into the object storage. -/
def createCustomerCaseDocumentMetadata (context : UserContext) (caseId : Nat)
    (request : DocumentRequest) (upload : Except ApiError (Option StoredUpload)) (now : Datetime)
    (db : CrmDatabase) : Except ApiError (CreatedDocument × CrmDatabase) := do
  if (strip request.title).isEmpty then throw (.badRequest "document_title_required")
  if (db.visibleCase context caseId).isNone then throw (.notFound "customer_case_not_found")
  let stored ← upload
  let payload := request.payload context caseId stored
  if !(payload.row db.documents now db.documents.nextKey).checks then throw .database
  return (⟨(payload.marked db.documents now).nextKey,
    (db.supplierOrders.rows.filter (payload.cancels db)).length⟩, payload.written db now)

/-- `archived`: the document's row after archiving. -/
def CaseDocument.archive (document : CaseDocument) (userId : Nat) (now : Datetime) : CaseDocument :=
  { document with
    documentStatus := .archived
    isCurrentVersion := false
    archivedAt := some now
    archivedByUserId := some userId
    updatedAt := now }

/-- `archive_customer_case_document`: the statement touches a visible case even if it has no such
document. -/
def archiveCustomerCaseDocument (context : UserContext) (caseId documentId : Nat) (now : Datetime)
    (db : CrmDatabase) : Except ApiError Nat × CrmDatabase :=
  if (db.visibleCase context caseId).isSome then
    let found := db.documents.rows.any fun document =>
      decide (document.id = documentId) && decide (document.customerCaseId = caseId)
    (if found then .ok documentId else .error (.notFound "customer_case_document_not_found"),
      { db with
        documents := db.documents.update
          (fun document =>
            if document.id = documentId ∧ document.customerCaseId = caseId then
              document.archive context.primaryUserId now
            else document)
          fun document => by split <;> rfl
        cases := db.touchCase caseId now })
  else (.error (.notFound "customer_case_document_not_found"), db)

namespace CrmDatabase

variable (db : CrmDatabase) (context : UserContext)

/-- The access rule of a customer: also through any of the customer's cases. -/
def mayAccessCustomer (customer : Customer) : Bool :=
  context.isAdmin || context.inScope customer.ownerUserId ||
    db.cases.rows.any fun case =>
      decide (case.customerId = some customer.id) &&
        (context.inScope case.ownerUserId || context.inScope case.responsibleUserId)

/-- `visible_customers`. -/
def visibleCustomer (customerId : Nat) : Option Customer :=
  (db.customers.find? customerId).filter fun customer =>
    customer.isActive && db.mayAccessCustomer context customer

/-- `customers_state` shows the case. -/
def showsCase (case : CustomerCase) : Bool :=
  case.isActive && (case.customerId.bind (db.visibleCustomer context)).isSome

/-- The `documents` of a case in `customers_state`: current versions first, then the newest. -/
def customersStateDocuments (case : CustomerCase) : List CaseDocument :=
  (db.documents.rows.filter fun document =>
    decide (document.customerCaseId = case.id) &&
      decide (document.documentStatus ≠ .archived)).mergeSort fun document other =>
        if document.isCurrentVersion != other.isCurrentVersion then document.isCurrentVersion
        else if document.createdAt ≠ other.createdAt then
          decide (other.createdAt < document.createdAt)
        else decide (other.id ≤ document.id)

/-- The document that `download_customer_case_document` serves. -/
def downloadCustomerCaseDocument (caseId documentId : Nat) : Option CaseDocument :=
  (db.visibleCase context caseId).bind fun case =>
    (db.documents.find? documentId).filter fun document =>
      decide (document.customerCaseId = case.id) && decide (document.documentStatus ≠ .archived)

/-- `customer_export_document_rows`: each document with the case it belongs to. -/
def customerExportDocumentRows (customerId : Nat) : List (CustomerCase × CaseDocument) :=
  match db.visibleCustomer context customerId with
  | none => []
  | some customer =>
      (db.cases.rows.filter fun case => decide (case.customerId = some customer.id)).flatMap
        fun case => (db.documents.rows.filter fun document =>
          decide (document.customerCaseId = case.id) && document.archivedAt.isNone).map (case, ·)

end CrmDatabase

/-- The calls that write documents. -/
inductive DocumentCall where
  | create (context : UserContext) (caseId : Nat) (request : DocumentRequest)
      (upload : Except ApiError (Option StoredUpload)) (now : Datetime)
  | archive (context : UserContext) (caseId documentId : Nat) (now : Datetime)

/-- One call; an upload that raises has written nothing. -/
def CrmDatabase.serveDocument (db : CrmDatabase) : DocumentCall → CrmDatabase
  | .create context caseId request upload now =>
      match createCustomerCaseDocumentMetadata context caseId request upload now db with
      | .ok (_, after) => after
      | .error _ => db
  | .archive context caseId documentId now =>
      (archiveCustomerCaseDocument context caseId documentId now db).2

end SkillCentric.Crm
