import SkillCentric.Crm.Tables

/-!
# Transfer of CARAT positions into supplier orders

`select_carat_import_positions` runs three statements: the selection of positions, the
synchronisation of the supplier orders, and the change from selected to transferred.  The
sub-statements of one statement all read the tables as they were when it began; a row that one of
them inserts is seen by another only through `RETURNING`.
-/

namespace SkillCentric.Crm

open SkillCentric

inductive CaratAction where
  | transfer
  | reset
  deriving DecidableEq, Repr

/-- The arguments of `select_carat_import_positions`. -/
structure CaratRequest where
  context : UserContext
  caseId : Nat
  importId : Nat
  positionIds : List Nat
  action : CaratAction

/-- Selected or transferred. -/
def SelectionStatus.taken : SelectionStatus → Bool
  | .selected | .transferred => true
  | _ => false

namespace CaratRequest

variable (request : CaratRequest)

/-- `visible_import`. -/
def visibleImport (db : CrmDatabase) : Option CaratImport :=
  (db.visibleCase request.context request.caseId).bind fun case =>
    (db.caratImports.find? request.importId).filter fun carat =>
      decide (carat.customerCaseId = case.id)

/-- What the three updates of the selection make of a position of the import: their conditions
exclude each other. -/
def select (now : Datetime) (position : CaratPosition) : CaratPosition :=
  let requested := decide (position.id ∈ request.positionIds)
  let released : CaratPosition :=
    { position with selectionStatus := .candidate, selectedByUserId := none, selectedAt := none }
  match request.action, position.selectionStatus with
  | .transfer, .selected => released
  | .transfer, .candidate =>
      if requested then
        { position with
          selectionStatus := .selected
          selectedByUserId := some request.context.primaryUserId
          selectedAt := some now }
      else position
  | .reset, .selected | .reset, .transferred => if requested then released else position
  | _, _ => position

/-- A position of the import is selected or transferred. -/
def anyTaken (db : CrmDatabase) : Bool :=
  db.caratPositions.rows.any fun position =>
    decide (position.importId = request.importId) && position.selectionStatus.taken

/-- The selection; the import's status looks at the positions from before. -/
def selection (now : Datetime) (db : CrmDatabase) : CrmDatabase :=
  { db with
    caratPositions := db.caratPositions.update
      (fun position =>
        if position.importId = request.importId then request.select now position else position)
      fun position => by
        split
        · simp only [select]
          split <;> (try split) <;> rfl
        · rfl
    caratImports := db.caratImports.update
      (fun carat =>
        if carat.id = request.importId then
          { carat with
            status := if request.anyTaken db then .partiallyTransferred else .analysisReady
            updatedAt := now }
        else carat)
      fun carat => by split <;> rfl }

/-- The last statement of a transfer. -/
def transferred (db : CrmDatabase) : CrmDatabase :=
  { db with
    caratPositions := db.caratPositions.update
      (fun position =>
        if position.importId = request.importId ∧ position.selectionStatus = .selected then
          { position with selectionStatus := .transferred }
        else position)
      fun position => by split <;> rfl }

end CaratRequest

/-- `regexp_replace(text, '[^[:alnum:]]+', ' ', 'g')`; `inRun` tells that the run at hand has its
blank already. -/
def blankRuns (locale : Locale) : Bool → Text → Text
  | _, [] => []
  | inRun, c :: rest =>
      if locale.isAlnum c then c :: blankRuns locale false rest
      else if inRun then blankRuns locale true rest
      else ' ' :: blankRuns locale true rest

/-- `lower(regexp_replace(…))`. -/
def normalizeName (locale : Locale) (text : Text) : Text :=
  locale.sqlLower (blankRuns locale false text)

/-- The pattern `^(decke|wand [0-9]+)$`. -/
def isSurface (title : Text) : Bool :=
  decide (title = "decke") ||
    (("wand " : Text).isPrefixOf title && !(title.drop 5).isEmpty &&
      (title.drop 5).all fun c => decide ('0' ≤ c ∧ c ≤ '9'))

namespace CaratPosition

variable (locale : Locale) (position : CaratPosition)

/-- `COALESCE(NULLIF(supplier_name, ''), 'Ohne Lieferant')`. -/
def supplier : Text := (position.supplierName.bind nullIfEmpty).getD "Ohne Lieferant"

def normalizedSupplier : Text := normalizeName locale position.supplier

/-- Picture data, which is never ordered. -/
def isPicture : Bool :=
  decide (btrim (position.normalizedSupplier locale) = "bilddaten") ||
    (decide (position.articleCode.getD [] = "46000000000") &&
      isSurface (btrim (normalizeName locale position.title)))

end CaratPosition

section Sync

variable (locale : Locale) (importId : Nat)

/-- `selected_positions`. -/
def selectedPositions (db : CrmDatabase) : List CaratPosition :=
  db.caratPositions.rows.filter fun position =>
    decide (position.importId = importId) && position.selectionStatus.taken &&
      !position.isPicture locale

/-- `SELECT DISTINCT supplier_name, normalized_supplier_name`. -/
def supplierNames (positions : List CaratPosition) : List (Text × Text) :=
  (positions.map fun position => (position.supplier, position.normalizedSupplier locale)).dedup

/-- The names pass the checks of the table, and no row would be upserted twice. -/
def upsertable (names : List (Text × Text)) : Bool :=
  names.all (fun name => !(btrim name.1).isEmpty && !(btrim name.2).isEmpty) &&
    decide (names.map (·.2)).Nodup

/-- The suppliers after `upserted_suppliers`. -/
def upsertedSuppliers (names : List (Text × Text)) (now : Datetime) (suppliers : Table Supplier) :
    Table Supplier :=
  (suppliers.update
    (fun supplier =>
      match names.find? fun name => name.2 = supplier.normalizedName with
      | some name => { supplier with name := name.1, updatedAt := now }
      | none => supplier)
    fun supplier => by split <;> rfl).insertAll
      (names.filter fun name =>
        !suppliers.rows.any fun supplier => decide (supplier.normalizedName = name.2))
      (fun id name => ⟨id, name.1, name.2, now⟩) fun _ _ => rfl

/-- The ids of the suppliers with a name, from `all_suppliers`. -/
def supplierIds (suppliers : Table Supplier) (normalized : Text) : List Nat :=
  (suppliers.rows.filter fun supplier => decide (supplier.normalizedName = normalized)).map (·.id)

/-- The orders that a position of the import goes into: those of the case, the supplier and the
import. -/
def ordersOf (db : CrmDatabase) (caseId : Nat) (supplierIds : List Nat) : List SupplierOrder :=
  db.supplierOrders.rows.filter fun order =>
    decide (order.customerCaseId = caseId) && supplierIds.contains order.supplierId &&
      decide (order.sourceCaratImportId = some importId)

/-- `affected_orders`. -/
def isAffected (order : SupplierOrder) : Bool := decide (order.sourceCaratImportId = some importId)

/-- The condition of `removed_positions`. -/
def isRemoved (db : CrmDatabase) (line : SupplierOrderPosition) : Bool :=
  line.sourceCaratPositionId.isSome &&
    db.supplierOrders.rows.any fun order =>
      decide (order.id = line.supplierOrderId) && isAffected importId order

/-- The row of `inserted_positions`. -/
def orderLine (orderId : Nat) (position : CaratPosition) (id : Nat) : SupplierOrderPosition where
  id := id
  supplierOrderId := orderId
  sourceCaratPositionId := some position.id
  positionNumber := position.positionNumber
  articleCode := position.articleCode
  title := position.title
  description := position.description
  quantity := position.quantity
  orderedNetPrice := none
  orderedDeliveryWeek := none
  orderedDeliveryDate := none
  rawJson := position.rawJson

/-- The orders and positions of `inserted_positions`. -/
def newLines (db : CrmDatabase) (caseId : Nat) (suppliers : Table Supplier) :
    List (Nat × CaratPosition) :=
  (selectedPositions locale importId db).flatMap fun position =>
    (ordersOf importId db caseId (supplierIds suppliers (position.normalizedSupplier locale))).map
      fun order => (order.id, position)

/-- The supplier and title of each row of `upserted_orders`. -/
def newOrders (db : CrmDatabase) (caseId : Nat) (suppliers : Table Supplier) : List (Nat × Text) :=
  ((selectedPositions locale importId db).flatMap fun position =>
    ((supplierIds suppliers (position.normalizedSupplier locale)).filter fun supplierId =>
      (ordersOf importId db caseId [supplierId]).isEmpty).map fun supplierId =>
        (supplierId, position.supplier ++ (" Bestellung" : Text))).dedup

/-- `count(*)` of an order's positions. -/
def lineCount (lines : Table SupplierOrderPosition) (orderId : Nat) : Nat :=
  (lines.rows.filter fun line => decide (line.supplierOrderId = orderId)).length

/-- The order positions without the removed ones. -/
def keptLines (db : CrmDatabase) : Table SupplierOrderPosition :=
  db.supplierOrderPositions.delete (isRemoved importId db)

/-- A reference to a removed position becomes null. -/
def keptReference (db : CrmDatabase) (reference : Option Nat) : Option Nat :=
  reference.filter fun lineId => !db.supplierOrderPositions.rows.any fun line =>
    decide (line.id = lineId) && isRemoved importId db line

/-- The result of the synchronisation. -/
structure SyncResult where
  supplierOrderCount : Nat
  supplierOrderPositionCount : Nat
  deriving DecidableEq

/-- The tables after the synchronisation of an import of a case. -/
def synchronised (carat : CaratImport) (actorUserId : Nat) (now : Datetime) (db : CrmDatabase) :
    CrmDatabase :=
  let names := supplierNames locale (selectedPositions locale importId db)
  let suppliers := upsertedSuppliers names now db.suppliers
  { db with
    suppliers := suppliers
    supplierOrders := (db.supplierOrders.update
        (fun order =>
          if isAffected importId order then
            { order with
              orderedPositionCount := lineCount db.supplierOrderPositions order.id
              updatedAt := now }
          else order)
        fun order => by split <;> rfl).insertAll
      (newOrders locale importId db carat.customerCaseId suppliers)
      (fun id (supplierId, title) =>
        ⟨id, carat.customerCaseId, supplierId, some importId,
          (db.cases.find? carat.customerCaseId).bind (·.caratOrderNumber), title, .ordered, 0,
          some actorUserId, now⟩)
      fun _ _ => rfl
    supplierOrderPositions := (keptLines importId db).insertAll
      (newLines locale importId db carat.customerCaseId suppliers)
      (fun id (orderId, position) => orderLine orderId position id) fun _ _ => rfl
    confirmationPositions := db.confirmationPositions.update
      (fun position =>
        { position with
          matchedOrderPositionId := keptReference importId db position.matchedOrderPositionId })
      fun _ => rfl
    exceptions := db.exceptions.update
      (fun exception =>
        { exception with
          orderPositionId := keptReference importId db exception.orderPositionId })
      fun _ => rfl }

/-- `sync_supplier_orders_from_carat_selection`. -/
def syncSupplierOrders (actorUserId : Nat) (now : Datetime) (db : CrmDatabase) :
    Except ApiError (SyncResult × CrmDatabase) :=
  match db.caratImports.find? importId with
  | none => .ok (⟨0, 0⟩, db)
  | some carat =>
      let names := supplierNames locale (selectedPositions locale importId db)
      let suppliers := upsertedSuppliers names now db.suppliers
      let lines := newLines locale importId db carat.customerCaseId suppliers
      if !upsertable names then .error .database
      else if lines.any fun line => (btrim line.2.title).isEmpty then .error .database
      else .ok (⟨(db.supplierOrders.rows.filter (isAffected importId)).length, lines.length⟩,
        synchronised locale importId carat actorUserId now db)

end Sync

/-- What `select_carat_import_positions` returns. -/
structure SelectResult where
  action : CaratAction
  selectedCount : Nat
  resetCount : Nat
  importId : Nat
  supplierOrders : SyncResult
  deriving DecidableEq

/-- `select_carat_import_positions`; a failure of the synchronisation leaves the selection
written. -/
def selectCaratImportPositions (locale : Locale) (request : CaratRequest) (now : Datetime)
    (db : CrmDatabase) : Except ApiError SelectResult × CrmDatabase :=
  match request.visibleImport db with
  | none => (.error (.notFound "carat_import_not_found"), db)
  | some carat =>
      let changed (status : SelectionStatus → Bool) (action : CaratAction) : Nat :=
        if request.action = action then
          (db.caratPositions.rows.filter fun position =>
            decide (position.importId = carat.id) && decide (position.id ∈ request.positionIds) &&
              status position.selectionStatus).length
        else 0
      match syncSupplierOrders locale carat.id request.context.primaryUserId now
        (request.selection now db) with
      | .error error => (.error error, request.selection now db)
      | .ok (orders, synced) =>
          (.ok ⟨request.action, changed (fun status => decide (status = .candidate)) .transfer,
              changed SelectionStatus.taken .reset, carat.id, orders⟩,
            if request.action = .transfer then request.transferred synced else synced)

end SkillCentric.Crm
