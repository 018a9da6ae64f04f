import SkillCentric.Crm.CaratParser
import SkillCentric.Crm.CaseDocuments
import SkillCentric.Crm.SupplierOrders
import SkillCentric.Library.Commits

/-!
# CARAT operations, statement by statement

`select_carat_import_positions` sends three statements and `create_customer_case_document_metadata`
two, with the parser of an untrusted archive between them.  Every call of `psql_json` is a
transaction of its own, so that what a statement wrote stays when a later one fails.
-/

namespace SkillCentric.Crm

open SkillCentric Stateful CaratParser

/-- What becomes of the statements of a selection. -/
structure SelectDeliveries where
  selection : Delivery
  orders : Delivery
  transfer : Delivery

/-- What the selection's statement answers. -/
structure SelectAnswer where
  importId : Option Nat
  selectedCount : Nat
  resetCount : Nat
  deriving DecidableEq

namespace CaratRequest

variable (request : CaratRequest)

/-- The requested positions of the import that an action applies to. -/
def changed (db : CrmDatabase) (action : CaratAction) (status : SelectionStatus → Bool) : Nat :=
  if request.action = action then
    (db.caratPositions.rows.filter fun position =>
      decide (position.importId = request.importId) &&
        decide (position.id ∈ request.positionIds) && status position.selectionStatus).length
  else 0

/-- The statement of the selection: without a visible import it updates nothing. -/
def selectStatement (now : Datetime) (db : CrmDatabase) :
    Except ApiError (SelectAnswer × CrmDatabase) :=
  match request.visibleImport db with
  | none => .ok (⟨none, 0, 0⟩, db)
  | some carat =>
      .ok (⟨some carat.id, request.changed db .transfer fun status => decide (status = .candidate),
        request.changed db .reset SelectionStatus.taken⟩, request.selection now db)

/-- What follows the selection of a visible import. -/
def syncSelection (locale : Locale) (deliveries : SelectDeliveries) (now : Datetime)
    (answer : SelectAnswer) (importId : Nat) :
    ExceptT ApiError (StateM CrmDatabase) SelectResult := do
  let orders ← commit .database deliveries.orders
    (syncSupplierOrders locale importId request.context.primaryUserId now)
  if request.action = .transfer then
    commit .database deliveries.transfer fun db => .ok ((), request.transferred db)
  return ⟨request.action, answer.selectedCount, answer.resetCount, importId, orders⟩

/-- `select_carat_import_positions`; the request is what came of checking
the user and the action. -/
def selectCaratImportPositions (locale : Locale) (deliveries : SelectDeliveries) (now : Datetime)
    (checked : Except ApiError CaratRequest) : ExceptT ApiError (StateM CrmDatabase) SelectResult :=
  match checked with
  | .error error => throw error
  | .ok request => do
      let answer ← commit .database deliveries.selection (request.selectStatement now)
      match answer.importId with
      | none => throw (.notFound "carat_import_not_found")
      | some importId => request.syncSelection locale deliveries now answer importId

end CaratRequest

/-- Why `zipfile` raises. -/
inductive ArchiveError where
  | badZipFile
  | valueError (message : Text)
  /-- Encrypted or damaged members, and methods of compression that it does not know. -/
  | other
  deriving DecidableEq

/-- An open archive. -/
structure Archive where
  names : List Text
  read : Text → Except ArchiveError (List UInt8)

/-- What an upload uses of its host and of the store. -/
structure CaratPlatform (ν : Type) extends CaratHost ν where
  /-- `zipfile.ZipFile(BytesIO(content))`. -/
  openArchive : List UInt8 → Except ArchiveError Archive
  /-- The number has a JSON form. -/
  isFinite : ν → Bool
  /-- The number as `NUMERIC(12, 3)`, if it fits. -/
  thousandths : ν → Option Int
  /-- The position as `jsonb`. -/
  rawJson : PrjPosition ν → Text

/-- The code points of `cp1252` from 0x80 on; the undefined ones are replaced. -/
def cp1252High : List Nat :=
  [0x20AC, 0xFFFD, 0x201A, 0x0192, 0x201E, 0x2026, 0x2020, 0x2021, 0x02C6, 0x2030, 0x0160, 0x2039,
    0x0152, 0xFFFD, 0x017D, 0xFFFD, 0xFFFD, 0x2018, 0x2019, 0x201C, 0x201D, 0x2022, 0x2013, 0x2014,
    0x02DC, 0x2122, 0x0161, 0x203A, 0x0153, 0xFFFD, 0x017E, 0x0178]

/-- `content.decode("cp1252", errors="replace")`. -/
def decodeCp1252 (content : List UInt8) : Text :=
  content.map fun byte =>
    Char.ofNat (if byte.toNat < 128 then byte.toNat
      else cp1252High.getD (byte.toNat - 128) byte.toNat)

/-- `Path(filename).name`. -/
def fileName (path : Text) : Text :=
  (((path.splitOn '/').filter fun part => decide (part ≠ [] ∧ part ≠ ("." : Text))).getLast?).getD
    []

/-- `Path(filename).suffix`. -/
def fileSuffix (path : Text) : Text :=
  let name := fileName path
  let extension := (name.reverse.takeWhile fun c => c != '.').reverse
  if extension ≠ [] ∧ extension.length + 1 < name.length then '.' :: extension else []

/-- An uploaded file. -/
structure FileUpload where
  filename : Text
  content : List UInt8

/-- Why an upload raises. -/
inductive UploadError where
  | api (error : ApiError)
  /-- An exception that nothing catches. -/
  | other
  deriving DecidableEq

/-- What is stored of a file: its project, or why it has none. -/
structure CaratAnalysis (ν : Type) where
  innerFilename : Option Text
  error : Option Text
  summary : PrjSummary ν

section Platform

variable {ν : Type} (platform : CaratPlatform ν)

/-- The name belongs to a project. -/
def isPrjName (name : Text) : Bool :=
  decide ((".prj" : Text) <:+ platform.lower name) && !decide (("/" : Text) <:+ name)

/-- The name of the file ends in `.prjz`. -/
def hasPrjzSuffix (upload : FileUpload) : Bool :=
  decide (platform.lower (fileSuffix upload.filename) = ".prjz")

/-- `is_carat_prjz_upload`. -/
def isCaratPrjzUpload (upload : FileUpload) : Bool :=
  hasPrjzSuffix platform upload && decide ([0x50, 0x4B] <+: upload.content)

/-- `parse_prjz_content`, before the bytes are decoded. -/
def readPrj (content : List UInt8) : Except ArchiveError (Text × List UInt8) := do
  let archive ← platform.openArchive content
  match archive.names.find? (isPrjName platform) with
  | none => throw (.valueError "prj_file_missing")
  | some name => return (name, ← archive.read name)

/-- `parse_prjz_content`, with the answer to the errors it is prepared for. -/
def analysisOf (content : List UInt8) : Except UploadError (CaratAnalysis ν) :=
  let failed (message : Text) : CaratAnalysis ν :=
    ⟨none, some message, ⟨0, none, none, none, none, none, [], []⟩⟩
  match readPrj platform content with
  | .ok (name, bytes) =>
      .ok ⟨some name, none, parsePrjText platform.toCaratHost (decodeCp1252 bytes)⟩
  | .error .badZipFile => .ok (failed "invalid_prjz_zip")
  | .error (.valueError message) => .ok (failed message)
  | .error .other => .error .other

namespace CaratAnalysis

variable (analysis : CaratAnalysis ν)

def status : CaratImportStatus := if analysis.error.isSome then .failed else .analysisReady

/-- The texts of the payload that come from the file. -/
def texts : List Text :=
  let summary := analysis.summary
  analysis.innerFilename.toList ++ analysis.error.toList ++ summary.caratVersion.toList ++
    summary.projectNumber.toList ++ summary.projectName.toList ++ summary.customerName.toList ++
    summary.currency.toList ++
    summary.suppliers.flatMap (fun supplier =>
      [supplier.code, supplier.name, supplier.catalog, supplier.catalogDate, supplier.kind]) ++
    summary.positions.flatMap fun position =>
      [position.positionNumber, position.supplierCode, position.supplierName, position.articleCode,
        position.title, position.description, position.markerLine]

/-- The numbers of the payload. -/
def numbers : List ν :=
  analysis.summary.positions.flatMap fun position =>
    position.quantity.toList ++ position.dimensions.map (·.2)

/-- The payload is JSON that the store can take: no text holds a zero character, every number is
finite, and the quantities fit their column. -/
def storable : Bool :=
  (analysis.texts.all fun text => !text.contains '\x00') &&
    analysis.numbers.all platform.isFinite &&
    analysis.summary.positions.all fun position =>
      position.quantity.all fun quantity => (platform.thousandths quantity).isSome

end CaratAnalysis

/-- A row of `inserted_positions`. -/
def positionRow (importId : Nat) (id : Nat) (position : PrjPosition ν) : CaratPosition where
  id := id
  importId := importId
  positionNumber := nullIfEmpty position.positionNumber
  supplierName := nullIfEmpty position.supplierName
  articleCode := nullIfEmpty position.articleCode
  title := (nullIfEmpty position.title).getD "CARAT Position"
  description := nullIfEmpty position.description
  quantity := position.quantity.bind platform.thousandths
  rawJson := platform.rawJson position
  selectionStatus := .candidate
  selectedByUserId := none
  selectedAt := none

/-- The condition of `removed_old_positions`. -/
def isOldPosition (documentId : Nat) (db : CrmDatabase) (positionId : Nat) : Bool :=
  db.caratPositions.rows.any fun position =>
    decide (position.id = positionId) && db.caratImports.rows.any fun carat =>
      decide (carat.id = position.importId) && decide (carat.documentId = documentId)

/-- `ON CONFLICT (document_id) DO UPDATE`. -/
def updatedImports (documentId : Nat) (status : CaratImportStatus) (now : Datetime)
    (imports : Table CaratImport) : Table CaratImport :=
  imports.update
    (fun carat =>
      if carat.documentId = documentId then { carat with status := status, updatedAt := now }
      else carat)
    fun carat => by split <;> rfl

/-- The tables after an analysis is stored, and the id of `upserted_import`. -/
def storedAnalysis (caseId documentId : Nat) (analysis : CaratAnalysis ν) (now : Datetime)
    (db : CrmDatabase) : Nat × CrmDatabase :=
  let existing := db.caratImports.rows.find? fun carat => carat.documentId = documentId
  let imports := updatedImports documentId analysis.status now db.caratImports
  let importId := (existing.map (·.id)).getD imports.nextKey
  (importId, { db with
    caratImports := imports.insertAll (if existing.isSome then [] else [()])
      (fun id _ => ⟨id, caseId, documentId, analysis.status, now⟩) fun _ _ => rfl
    caratPositions := (db.caratPositions.delete fun position =>
        isOldPosition documentId db position.id).insertAll analysis.summary.positions
      (fun id position => positionRow platform importId id position) fun _ _ => rfl
    supplierOrderPositions := db.supplierOrderPositions.update
      (fun line =>
        { line with
          sourceCaratPositionId := line.sourceCaratPositionId.filter fun positionId =>
            !isOldPosition documentId db positionId })
      fun _ => rfl })

/-- `store_carat_prjz_analysis`. -/
def storeCaratPrjzAnalysis (delivery : Delivery) (caseId documentId : Nat) (content : List UInt8)
    (now : Datetime) : ExceptT UploadError (StateM CrmDatabase) Nat :=
  match analysisOf platform content with
  | .error error => throw error
  | .ok analysis =>
      commit (.api .database) delivery fun db =>
        if analysis.storable platform then
          .ok (storedAnalysis platform caseId documentId analysis now db)
        else .error (.api .database)

/-- What becomes of the statements of an upload. -/
structure UploadDeliveries where
  document : Delivery
  analysis : Delivery

/-- The arguments of `create_customer_case_document_metadata` for a request with a file; `stored` is
what came of checking its type and putting it into the object storage. -/
structure CaratUpload where
  context : UserContext
  caseId : Nat
  request : DocumentRequest
  file : FileUpload
  stored : Except ApiError StoredUpload

namespace CaratUpload

variable (upload : CaratUpload)

/-- The stored file, marked if it is a CARAT file. -/
def document : Except ApiError (Option StoredUpload) :=
  upload.stored.map fun stored =>
    some { stored with isCarat := isCaratPrjzUpload platform upload.file }

/-- `create_customer_case_document_metadata`. -/
def create (deliveries : UploadDeliveries) (now : Datetime) :
    ExceptT UploadError (StateM CrmDatabase) CreatedDocument := do
  let created ← commit (.api .database) deliveries.document fun db =>
    (createCustomerCaseDocumentMetadata upload.context upload.caseId upload.request
      (upload.document platform) now db).mapError .api
  if isCaratPrjzUpload platform upload.file then
    let _ ← storeCaratPrjzAnalysis platform deliveries.analysis upload.caseId created.documentId
      upload.file.content now
  return created

end CaratUpload

end Platform

end SkillCentric.Crm
