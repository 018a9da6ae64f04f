import SkillCentric.Crm.CaratOperations
import SkillCentric.Properties.ArchivedDocuments
import SkillCentric.Properties.CaratSuppliers
import SkillCentric.Properties.CaratTransfer

/-!
# What CARAT operations leave behind when they raise

A selection that raises should leave the positions and the orders as they were, and an upload that
raises the documents, the imports and the orders.  Each statement is committed on its own, so this
holds exactly when no statement before the failure has changed what should be kept.
-/

namespace SkillCentric.Crm

open SkillCentric Stateful CaratParser CaratTransfer

namespace CaratAtomicity

def statuses (db : CrmDatabase) : List (Nat × SelectionStatus) :=
  db.caratPositions.rows.map fun position => (position.id, position.selectionStatus)

/-- The positions are selected as before, and the orders are the same. -/
def SelectionKept (before after : CrmDatabase) : Prop :=
  statuses after = statuses before ∧ after.supplierOrders = before.supplierOrders

section Selection

variable (locale : Locale) (request : CaratRequest) (now : Datetime) (db : CrmDatabase)

/-- The selection has nothing to change: a transfer finds no selected position and no requested
candidate, a reset no requested position that is selected or transferred. -/
def Idle : Prop :=
  ∀ position ∈ db.caratPositions, position.importId = request.importId →
    match request.action with
    | .transfer =>
        position.selectionStatus ≠ .selected ∧
          (position.selectionStatus = .candidate → position.id ∉ request.positionIds)
    | .reset => position.selectionStatus.taken = true → position.id ∉ request.positionIds

def dueSuppliers : Table Supplier :=
  upsertedSuppliers (supplierNames locale (request.due locale db)) now db.suppliers

def dueOrders (caseId : Nat) (position : CaratPosition) : List SupplierOrder :=
  ordersOf request.importId db caseId
    (supplierIds (dueSuppliers locale request now db) (position.normalizedSupplier locale))

/-- The synchronisation succeeds: the suppliers of the due positions are not blank, no two spellings
are normalised alike, and no position without a title goes into an order. -/
structure Accepts (caseId : Nat) : Prop where
  names : upsertable (supplierNames locale (request.due locale db)) = true
  titles : ∀ position ∈ request.due locale db,
    dueOrders locale request now db caseId position ≠ [] → (btrim position.title).isEmpty = false

/-- The synchronisation has nothing to change: each supplier of a due position has an order, and the
orders of the import have their count and time already. -/
structure Settled (caseId : Nat) : Prop where
  created : ∀ position ∈ request.due locale db,
    ∀ supplierId ∈ supplierIds (dueSuppliers locale request now db)
        (position.normalizedSupplier locale),
      ordersOf request.importId db caseId [supplierId] ≠ []
  counted : ∀ order ∈ db.supplierOrders, order.sourceCaratImportId = some request.importId →
    order.orderedPositionCount = lineCount db.supplierOrderPositions order.id ∧
      order.updatedAt = now

/-- The selection was written and the orders were not. -/
def SelectionOnly (deliveries : SelectDeliveries) (accepts : Prop) : Prop :=
  deliveries.selection = .unanswered ∨
    (deliveries.selection = .answered ∧ (¬accepts ∨ deliveries.orders = .refused))

/-- The selection and the orders were written, and the call raises all the same. -/
def AfterOrders (deliveries : SelectDeliveries) (accepts : Prop) : Prop :=
  deliveries.selection = .answered ∧ accepts ∧
    (deliveries.orders = .unanswered ∨
      (deliveries.orders = .answered ∧ request.action = .transfer ∧
        deliveries.transfer ≠ .answered))

/-- What has run when the call raises had nothing to change. -/
def SelectHarmless (deliveries : SelectDeliveries)
    (checked : Except ApiError CaratRequest) : Prop :=
  ∀ request, checked = .ok request → ∀ carat, request.visibleImport db = some carat →
    let accepts := Accepts locale request now db carat.customerCaseId
    (SelectionOnly deliveries accepts → Idle request db) ∧
      (AfterOrders request deliveries accepts →
        Idle request db ∧ Settled locale request now db carat.customerCaseId)

end Selection

section Views

variable {locale : Locale} {request : CaratRequest} {now : Datetime} {db : CrmDatabase}

theorem status_selected_iff (now : Datetime) {position : CaratPosition}
    (own : position.importId = request.importId) :
    (request.selected now position).selectionStatus = position.selectionStatus ↔
      match request.action with
      | .transfer =>
          position.selectionStatus ≠ .selected ∧
            (position.selectionStatus = .candidate → position.id ∉ request.positionIds)
      | .reset => position.selectionStatus.taken = true → position.id ∉ request.positionIds := by
  unfold CaratRequest.selected CaratRequest.select
  rw [if_pos own]
  by_cases requested : position.id ∈ request.positionIds <;>
    cases action : request.action <;> cases status : position.selectionStatus <;>
      simp [requested, status, SelectionStatus.taken]

theorem statuses_eq_iff {after : CrmDatabase} {change : CaratPosition → CaratPosition}
    (written : after.caratPositions.rows = db.caratPositions.rows.map change)
    (same : ∀ position, (change position).id = position.id) :
    statuses after = statuses db ↔
      ∀ position ∈ db.caratPositions,
        (change position).selectionStatus = position.selectionStatus := by
  unfold statuses
  rw [written, List.map_map, List.map_inj_left]
  refine forall₂_congr fun position _ => ?_
  rw [Function.comp_apply, Prod.mk.injEq, same]
  exact and_iff_right rfl

theorem statuses_selection (now : Datetime) :
    statuses (request.selection now db) = statuses db ↔ Idle request db := by
  have written : (request.selection now db).caratPositions.rows =
      db.caratPositions.rows.map (request.selected now) := rfl
  rw [statuses_eq_iff written fun position => (sameGoods_selected request now position).id]
  refine forall₂_congr fun position _ => ?_
  by_cases own : position.importId = request.importId
  · rw [← status_selected_iff now own]
    exact ⟨fun same _ => same, fun same => same own⟩
  · refine iff_of_true ?_ fun isOwn => absurd isOwn own
    rw [CaratRequest.selected, if_neg own]

theorem status_final_iff {position : CaratPosition} :
    (request.final now position).selectionStatus = position.selectionStatus ↔
      (request.selected now position).selectionStatus = position.selectionStatus := by
  unfold CaratRequest.final
  split
  · rename_i moved
    obtain ⟨transfers, own, selected⟩ := moved
    rw [status_selected_iff now own, transfers]
    unfold CaratRequest.selected CaratRequest.select at selected
    rw [if_pos own] at selected
    by_cases requested : position.id ∈ request.positionIds <;>
      cases status : position.selectionStatus <;> simp_all
  · exact Iff.rfl

theorem selectedPositions_selection (locale : Locale) (now : Datetime) :
    selectedPositions locale request.importId (request.selection now db) =
      (request.due locale db).map (request.selected now) :=
  selectedPositions_of_map rfl (sameGoods_selected request now) fun _ own => taken_selected now own

theorem supplierNames_selection (locale : Locale) (now : Datetime) :
    supplierNames locale (selectedPositions locale request.importId (request.selection now db)) =
      supplierNames locale (request.due locale db) := by
  unfold supplierNames
  rw [selectedPositions_selection, List.map_map]
  refine congrArg List.dedup (List.map_congr_left fun position _ => ?_)
  have same := sameGoods_selected request now position
  rw [Function.comp_apply, same.normalizedSupplier, CaratPosition.supplier, same.supplierName]
  rfl

theorem newLines_titled (caseId : Nat) :
    ((newLines locale request.importId (request.selection now db) caseId
        (dueSuppliers locale request now db)).any fun line =>
          (btrim line.2.title).isEmpty) = false ↔
      ∀ position ∈ request.due locale db,
        dueOrders locale request now db caseId position ≠ [] →
          (btrim position.title).isEmpty = false := by
  unfold newLines
  rw [selectedPositions_selection, List.flatMap_map, List.any_flatMap, List.any_eq_false]
  refine forall₂_congr fun position _ => ?_
  have same := sameGoods_selected request now position
  rw [List.any_map, same.normalizedSupplier]
  change ¬((dueOrders locale request now db caseId position).any fun _ =>
    (btrim (request.selected now position).title).isEmpty) = true ↔ _
  rw [same.title]
  cases orders : dueOrders locale request now db caseId position with
  | nil => simp
  | cons first rest => simpa using fun titled _ _ => titled

theorem newOrders_eq_nil (caseId : Nat) :
    newOrders locale request.importId (request.selection now db) caseId
        (dueSuppliers locale request now db) = [] ↔
      ∀ position ∈ request.due locale db,
        ∀ supplierId ∈ supplierIds (dueSuppliers locale request now db)
            (position.normalizedSupplier locale),
          ordersOf request.importId db caseId [supplierId] ≠ [] := by
  unfold newOrders
  rw [List.dedup_eq_nil, selectedPositions_selection, List.flatMap_map, List.flatMap_eq_nil_iff]
  refine forall₂_congr fun position _ => ?_
  rw [(sameGoods_selected request now position).normalizedSupplier, List.map_eq_nil_iff,
    List.filter_eq_nil_iff]
  refine forall₂_congr fun supplierId _ => ?_
  rw [List.isEmpty_iff]
  rfl

theorem orders_synchronised (locale : Locale) (stored : CaratImport) (actorUserId : Nat) :
    (synchronised locale request.importId stored actorUserId now
        (request.selection now db)).supplierOrders = db.supplierOrders ↔
      Settled locale request now db stored.customerCaseId := by
  change _ = (request.selection now db).supplierOrders ↔ _
  unfold synchronised
  rw [supplierNames_selection]
  dsimp only
  rw [Table.insertAll_update_eq_iff]
  change newOrders locale request.importId (request.selection now db) stored.customerCaseId
    (dueSuppliers locale request now db) = [] ∧ _ ↔ _
  rw [newOrders_eq_nil]
  constructor
  · rintro ⟨created, unchanged⟩
    refine ⟨created, fun order member source => ?_⟩
    have same := unchanged order member
    rw [isAffected, if_pos (decide_eq_true source)] at same
    exact ⟨congrArg SupplierOrder.orderedPositionCount same.symm,
      congrArg SupplierOrder.updatedAt same.symm⟩
  · rintro ⟨created, counted⟩
    refine ⟨created, fun order member => ?_⟩
    split
    · rename_i affected
      obtain ⟨count, time⟩ := counted order member (of_decide_eq_true affected)
      change { order with
        orderedPositionCount := lineCount db.supplierOrderPositions order.id
        updatedAt := now } = order
      rw [← count, ← time]
    · rfl

variable {carat : CaratImport}

theorem find_selected_import (now : Datetime) (visible : request.visibleImport db = some carat) :
    ∃ stored, (request.selection now db).caratImports.find? request.importId = some stored ∧
      stored.customerCaseId = carat.customerCaseId := by
  obtain ⟨case, -, found⟩ := Option.bind_eq_some_iff.mp visible
  rw [Option.filter_eq_some_iff] at found
  obtain ⟨carat_mem, carat_id⟩ := Table.find?_eq_some.mp found.1
  have present : ∃ stored ∈ (request.selection now db).caratImports,
      Keyed.key stored = request.importId :=
    Table.exists_key_of_written rfl (fun carat => by split <;> rfl) ⟨carat, carat_mem, carat_id⟩
  obtain ⟨stored, stored_mem, stored_id⟩ := present
  obtain ⟨old, old_mem, old_id, same_case, -⟩ := mem_selection_imports stored_mem stored_id
  have old_eq := Table.eq_of_key old_mem carat_mem (old_id.trans carat_id.symm)
  exact ⟨stored, Table.find?_eq_some.mpr ⟨stored_mem, stored_id⟩, old_eq ▸ same_case⟩

theorem id_of_visible (visible : request.visibleImport db = some carat) :
    carat.id = request.importId := by
  obtain ⟨case, -, found⟩ := Option.bind_eq_some_iff.mp visible
  rw [Option.filter_eq_some_iff] at found
  exact (Table.find?_eq_some.mp found.1).2

theorem sync_selection (locale : Locale) (now : Datetime)
    (visible : request.visibleImport db = some carat) (actorUserId : Nat) :
    (¬Accepts locale request now db carat.customerCaseId ∧
        syncSupplierOrders locale request.importId actorUserId now (request.selection now db) =
          .error .database) ∨
      (Accepts locale request now db carat.customerCaseId ∧ ∃ orders stored,
        stored.customerCaseId = carat.customerCaseId ∧
        syncSupplierOrders locale request.importId actorUserId now (request.selection now db) =
          .ok (orders, synchronised locale request.importId stored actorUserId now
            (request.selection now db))) := by
  obtain ⟨stored, found, same_case⟩ := find_selected_import now visible
  rw [← same_case]
  unfold syncSupplierOrders
  rw [found]
  dsimp only
  rw [supplierNames_selection]
  have suppliers : upsertedSuppliers (supplierNames locale (request.due locale db)) now
      (request.selection now db).suppliers = dueSuppliers locale request now db := rfl
  rw [suppliers]
  cases names : upsertable (supplierNames locale (request.due locale db)) with
  | false =>
      refine .inl ⟨fun accepts => ?_, rfl⟩
      rw [accepts.names] at names
      cases names
  | true =>
      rw [if_neg (by decide)]
      cases blank : (newLines locale request.importId (request.selection now db)
          stored.customerCaseId (dueSuppliers locale request now db)).any
            fun line => (btrim line.2.title).isEmpty with
      | true =>
          refine .inl ⟨fun accepts => ?_, rfl⟩
          rw [(newLines_titled stored.customerCaseId).mpr accepts.titles] at blank
          cases blank
      | false =>
          rw [if_neg Bool.false_ne_true]
          exact .inr
            ⟨⟨names, (newLines_titled stored.customerCaseId).mp blank⟩, _, stored, rfl, rfl⟩

theorem selectStatement_of_visible (now : Datetime)
    (visible : request.visibleImport db = some carat) :
    ∃ answer, answer.importId = some request.importId ∧
      request.selectStatement now db = .ok (answer, request.selection now db) := by
  refine ⟨⟨some carat.id, _, _⟩, ?_, by rw [CaratRequest.selectStatement, visible]⟩
  rw [id_of_visible visible]

theorem selectionKept_refl (db : CrmDatabase) : SelectionKept db db := ⟨rfl, rfl⟩

theorem kept_selection : SelectionKept db (request.selection now db) ↔ Idle request db :=
  (and_iff_left rfl).trans (statuses_selection now)

theorem kept_synchronised {stored : CaratImport} (actorUserId : Nat) :
    SelectionKept db (synchronised locale request.importId stored actorUserId now
        (request.selection now db)) ↔
      Idle request db ∧ Settled locale request now db stored.customerCaseId := by
  unfold SelectionKept
  rw [orders_synchronised]
  exact and_congr_left fun _ => statuses_selection now

theorem kept_transferred {stored : CaratImport} (actorUserId : Nat)
    (transfers : request.action = .transfer) :
    SelectionKept db (request.transferred (synchronised locale request.importId stored actorUserId
        now (request.selection now db))) ↔
      Idle request db ∧ Settled locale request now db stored.customerCaseId := by
  have written : (request.transferred (synchronised locale request.importId stored actorUserId now
      (request.selection now db))).caratPositions.rows =
        db.caratPositions.rows.map (request.final now) := by
    change (db.caratPositions.rows.map (request.selected now)).map _ = _
    rw [List.map_map]
    exact List.map_congr_left fun position _ => final_of_transfer transfers
  have selection : (request.selection now db).caratPositions.rows =
      db.caratPositions.rows.map (request.selected now) := rfl
  rw [← statuses_selection now, ← orders_synchronised locale stored actorUserId,
    statuses_eq_iff selection fun position => (sameGoods_selected request now position).id]
  refine and_congr_left fun _ => ?_
  rw [statuses_eq_iff written fun position => (sameGoods_final request now position).id]
  exact forall₂_congr fun position _ => status_final_iff

end Views

section Runs

variable {locale : Locale} {deliveries : SelectDeliveries} {request : CaratRequest} {now : Datetime}
  {db : CrmDatabase}

theorem selectHarmless_of_visible {carat : CaratImport}
    (visible : request.visibleImport db = some carat) :
    SelectHarmless locale now db deliveries (.ok request) ↔
      (SelectionOnly deliveries (Accepts locale request now db carat.customerCaseId) →
        Idle request db) ∧
      (AfterOrders request deliveries (Accepts locale request now db carat.customerCaseId) →
        Idle request db ∧ Settled locale request now db carat.customerCaseId) := by
  constructor
  · exact fun harmless => harmless request rfl carat visible
  · intro harmless other isOther found isFound
    cases isOther
    rw [visible] at isFound
    cases isFound
    exact harmless

theorem raisesIn_transfer {stored : CaratImport} {actorUserId : Nat} {result : SelectResult} :
    RaisesIn (SelectionKept db)
        (do
          if request.action = .transfer then
            commit ApiError.database deliveries.transfer fun db => .ok ((), request.transferred db)
          return result)
        (synchronised locale request.importId stored actorUserId now (request.selection now db)) ↔
      (request.action = .transfer ∧ deliveries.transfer ≠ .answered →
        Idle request db ∧ Settled locale request now db stored.customerCaseId) := by
  by_cases transfers : request.action = .transfer
  · rw [if_pos transfers, raisesIn_bind_commit rfl, kept_synchronised,
      kept_transferred actorUserId transfers]
    cases deliveries.transfer <;> simp [transfers, raisesIn_pure]
  · rw [if_neg transfers]
    exact iff_of_true (raisesIn_pure result) fun raised => absurd raised.1 transfers

theorem raisesIn_syncSelection {carat : CaratImport}
    (visible : request.visibleImport db = some carat) (answer : SelectAnswer) :
    RaisesIn (SelectionKept db)
        (request.syncSelection locale deliveries now answer request.importId)
        (request.selection now db) ↔
      (¬Accepts locale request now db carat.customerCaseId ∨ deliveries.orders = .refused →
        Idle request db) ∧
      (Accepts locale request now db carat.customerCaseId ∧
          (deliveries.orders = .unanswered ∨ (deliveries.orders = .answered ∧
            request.action = .transfer ∧ deliveries.transfer ≠ .answered)) →
        Idle request db ∧ Settled locale request now db carat.customerCaseId) := by
  unfold CaratRequest.syncSelection
  rcases sync_selection locale now visible request.context.primaryUserId with
    ⟨refuses, failed⟩ | ⟨accepts, orders, stored, same_case, ran⟩
  · rw [raisesIn_bind_commit_of_error failed, kept_selection]
    simp [refuses]
  · rw [raisesIn_bind_commit ran, raisesIn_transfer, kept_selection, kept_synchronised, ← same_case]
    rw [← same_case] at accepts
    cases deliveries.orders <;> simp [accepts]

theorem raisesIn_select (locale : Locale) (deliveries : SelectDeliveries) (now : Datetime)
    (checked : Except ApiError CaratRequest) (db : CrmDatabase) :
    RaisesIn (SelectionKept db)
        (CaratRequest.selectCaratImportPositions locale deliveries now checked) db ↔
      SelectHarmless locale now db deliveries checked := by
  unfold CaratRequest.selectCaratImportPositions
  cases checked with
  | error error =>
      refine iff_of_true ((raisesIn_throw error).mpr (selectionKept_refl db)) ?_
      intro request isRequest
      cases isRequest
  | ok request =>
      cases visible : request.visibleImport db with
      | none =>
          have ran : request.selectStatement now db = .ok (⟨none, 0, 0⟩, db) := by
            rw [CaratRequest.selectStatement, visible]
          dsimp only
          rw [raisesIn_bind_commit ran]
          refine iff_of_true ⟨fun _ => selectionKept_refl db, fun _ => selectionKept_refl db,
            fun _ => (raisesIn_throw _).mpr (selectionKept_refl db)⟩ ?_
          intro other isOther carat isCarat
          cases isOther
          rw [visible] at isCarat
          cases isCarat
      | some carat =>
          obtain ⟨answer, imported, ran⟩ := selectStatement_of_visible now visible
          dsimp only
          rw [raisesIn_bind_commit ran, imported]
          dsimp only
          rw [raisesIn_syncSelection visible, kept_selection, selectHarmless_of_visible visible]
          unfold SelectionOnly AfterOrders
          cases deliveries.selection <;> simp [selectionKept_refl]

/-- A selection whose statements are all answered is the one that runs as a whole. -/
theorem select_answered (locale : Locale) (request : CaratRequest) (now : Datetime)
    (db : CrmDatabase) :
    perform (CaratRequest.selectCaratImportPositions locale ⟨.answered, .answered, .answered⟩ now
      (.ok request)) db = selectCaratImportPositions locale request now db := by
  unfold CaratRequest.selectCaratImportPositions selectCaratImportPositions
  dsimp only
  rw [perform_bind, perform_commit, CaratRequest.selectStatement]
  cases visible : request.visibleImport db with
  | none => rfl
  | some carat =>
      simp only [CaratRequest.syncSelection]
      rw [perform_bind, perform_commit]
      cases syncSupplierOrders locale carat.id request.context.primaryUserId now
          (request.selection now db) with
      | error error => rfl
      | ok synced =>
          obtain ⟨orders, stored⟩ := synced
          have same := id_of_visible visible
          by_cases transfer : request.action = .transfer
          · simp only [transfer, if_true, CaratRequest.changed, same]
            rfl
          · simp only [transfer, if_false, CaratRequest.changed, same]
            rfl

end Runs

/-- The documents, the imports and the orders are the same. -/
def UploadKept (before after : CrmDatabase) : Prop :=
  after.documents = before.documents ∧ after.caratImports = before.caratImports ∧
    after.supplierOrders = before.supplierOrders

/-- The new document has an import, which is ready or has failed. -/
def Imported (created : CreatedDocument) (after : CrmDatabase) : Prop :=
  ∃ carat ∈ after.caratImports, carat.documentId = created.documentId ∧
    (carat.status = .analysisReady ∨ carat.status = .failed)

/-- The foreign key of the imports. -/
def ImportsRefer (db : CrmDatabase) : Prop :=
  ∀ carat ∈ db.caratImports, ∃ document ∈ db.documents, document.id = carat.documentId

section Conditions

variable {ν : Type} (platform : CaratPlatform ν) (upload : CaratUpload) (now : Datetime)
  (db : CrmDatabase)

/-- The statement that records the document accepts it. -/
def Recorded : Prop :=
  ∃ stored, ArchivedDocuments.Accepted db upload.context upload.caseId upload.request
    (upload.document platform) now stored

/-- Nothing in the archive raises more than a `BadZipFile` or a `ValueError`. -/
def Legible (content : List UInt8) : Prop :=
  platform.openArchive content ≠ .error .other ∧
    ∀ archive, platform.openArchive content = .ok archive →
      ∀ name, archive.names.find? (isPrjName platform) = some name →
        archive.read name ≠ .error .other

/-- What the parser finds in the content can be stored. -/
def Storable (content : List UInt8) : Prop :=
  ∀ analysis, analysisOf platform content = .ok analysis → analysis.storable platform = true

/-- Once the document has a row, its import gets one too. -/
def UploadHarmless (deliveries : UploadDeliveries) : Prop :=
  Recorded platform upload now db ∧ deliveries.document ≠ .refused →
    deliveries.document = .answered ∧ [0x50, 0x4B] <+: upload.file.content ∧
      Legible platform upload.file.content ∧ Storable platform upload.file.content ∧
      deliveries.analysis = .answered

end Conditions

section Uploads

variable {ν : Type} {platform : CaratPlatform ν} {upload : CaratUpload} {now : Datetime}
  {db : CrmDatabase}

theorem document_cases (platform : CaratPlatform ν) (upload : CaratUpload) (now : Datetime)
    (db : CrmDatabase) :
    (¬Recorded platform upload now db ∧ ∃ error,
        createCustomerCaseDocumentMetadata upload.context upload.caseId upload.request
          (upload.document platform) now db = .error error) ∨
      (Recorded platform upload now db ∧ ∃ created, ∃ payload : DocumentPayload,
        createCustomerCaseDocumentMetadata upload.context upload.caseId upload.request
          (upload.document platform) now db = .ok (created, payload.written db now) ∧
        created.documentId = (payload.marked db.documents now).nextKey) := by
  by_cases recorded : Recorded platform upload now db
  · obtain ⟨stored, accepted⟩ := recorded
    exact .inr ⟨⟨stored, accepted⟩, _, upload.request.payload upload.context upload.caseId stored,
      ArchivedDocuments.create_of_accepted accepted, rfl⟩
  · refine .inl ⟨recorded, ?_⟩
    cases ran : createCustomerCaseDocumentMetadata upload.context upload.caseId upload.request
        (upload.document platform) now db with
    | error error => exact ⟨error, rfl⟩
    | ok result =>
        obtain ⟨stored, accepted, -⟩ := ArchivedDocuments.create_eq_ok ran
        exact absurd ⟨stored, accepted⟩ recorded

theorem documents_written_ne (payload : DocumentPayload) :
    (payload.written db now).documents ≠ db.documents := by
  intro same
  have length := congrArg (fun table => table.rows.length) same
  change ((db.documents.rows.map _) ++ [_]).length = _ at length
  rw [List.length_append, List.length_map] at length
  simp at length

variable {created : CreatedDocument} {content : List UInt8}

theorem not_imported_written (refer : ImportsRefer db) {payload : DocumentPayload}
    (fresh : created.documentId = (payload.marked db.documents now).nextKey) :
    ¬Imported created (payload.written db now) := by
  rintro ⟨carat, carat_mem, same, -⟩
  obtain ⟨document, document_mem, named⟩ := refer carat carat_mem
  have present : ∃ row ∈ payload.marked db.documents now, Keyed.key row = document.id :=
    Table.exists_key_of_written rfl (fun row => by split <;> rfl) ⟨document, document_mem, rfl⟩
  obtain ⟨row, row_mem, row_id⟩ := present
  have below := Table.key_lt_nextKey row_mem
  rw [row_id] at below
  omega

variable {caseId : Nat}

theorem imported_storedAnalysis {analysis : CaratAnalysis ν} :
    Imported created
      (storedAnalysis platform caseId created.documentId analysis now db).2 := by
  have status : analysis.status = .analysisReady ∨ analysis.status = .failed := by
    unfold CaratAnalysis.status
    split
    · exact .inr rfl
    · exact .inl rfl
  cases existing : db.caratImports.rows.find? fun carat =>
    carat.documentId = created.documentId with
  | some carat =>
      have named : carat.documentId = created.documentId := by
        simpa using List.find?_some existing
      refine ⟨{ carat with status := analysis.status, updatedAt := now }, ?_, named, status⟩
      refine Table.mem_insertAll.mpr (.inl (Table.mem_update.mpr ⟨carat, ?_, ?_⟩))
      · exact List.mem_of_find?_eq_some existing
      · rw [if_pos named]
  | none =>
      refine ⟨⟨(updatedImports created.documentId analysis.status now db.caratImports).nextKey,
        caseId,
        created.documentId, analysis.status, now⟩, ?_, rfl, status⟩
      unfold storedAnalysis
      rw [existing]
      exact Table.mem_insertAll_singleton.mpr (.inr rfl)

theorem legible_iff :
    Legible platform content ↔ readPrj platform content ≠ .error .other := by
  unfold Legible readPrj
  cases opened : platform.openArchive content with
  | error error => simp [bind, Except.bind]
  | ok archive =>
      cases found : archive.names.find? (isPrjName platform) with
      | none => simp [found, bind, Except.bind, throw, throwThe, MonadExceptOf.throw]
      | some name =>
          cases read : archive.read name with
          | error error => simp [found, read, bind, Except.bind]
          | ok bytes => simp [found, read, bind, Except.bind, pure, Except.pure]

theorem analysisOf_cases (content : List UInt8) :
    (¬Legible platform content ∧ analysisOf platform content = .error .other) ∨
      (Legible platform content ∧ ∃ analysis, analysisOf platform content = .ok analysis) := by
  rw [legible_iff]
  unfold analysisOf
  cases readPrj platform content with
  | ok read => exact .inr ⟨nofun, _, rfl⟩
  | error error =>
      cases error with
      | badZipFile => exact .inr ⟨nofun, _, rfl⟩
      | valueError message => exact .inr ⟨nofun, _, rfl⟩
      | other => exact .inl ⟨fun legible => legible rfl, rfl⟩

theorem raisesIn_storeCaratPrjzAnalysis {delivery : Delivery} {before : CrmDatabase}
    (written : db.documents ≠ before.documents) :
    RaisesIn (UploadKept before)
        (do
          let _ ← storeCaratPrjzAnalysis platform delivery caseId created.documentId content now
          return created) db ↔
      Legible platform content ∧ Storable platform content ∧ delivery = .answered := by
  have lost : ¬UploadKept before db := fun kept => written kept.1
  unfold storeCaratPrjzAnalysis Storable
  rcases analysisOf_cases content with ⟨illegible, raised⟩ | ⟨legible, analysis, found⟩
  · rw [raised]
    change RaisesIn (UploadKept before) (throw UploadError.other) db ↔ _
    rw [raisesIn_throw]
    exact iff_of_false lost fun harmless => illegible harmless.1
  · simp only [found, Except.ok.injEq, forall_eq', legible, true_and]
    cases storable : analysis.storable platform with
    | false =>
        simp only [Bool.false_eq_true, if_false, false_and]
        have failed : (Except.error (.api .database) : Except UploadError (Nat × CrmDatabase)) =
            .error (.api .database) := rfl
        exact (raisesIn_bind_commit_of_error failed).trans (iff_of_false lost not_false)
    | true =>
        simp only [if_true, true_and]
        have ran : (Except.ok (storedAnalysis platform caseId created.documentId analysis now db) :
            Except UploadError (Nat × CrmDatabase)) =
              .ok ((storedAnalysis platform caseId created.documentId analysis now db).1,
                (storedAnalysis platform caseId created.documentId analysis now db).2) := rfl
        rw [raisesIn_bind_commit ran]
        have lost_stored : ¬UploadKept before
            (storedAnalysis platform caseId created.documentId analysis now db).2 :=
          fun kept => written kept.1
        cases delivery <;> simp [lost, lost_stored, raisesIn_pure]

theorem returnsIn_storeCaratPrjzAnalysis {delivery : Delivery} :
    ReturnsIn Imported
        (do
          let _ ← storeCaratPrjzAnalysis platform delivery caseId created.documentId content now
          return created) db := by
  unfold storeCaratPrjzAnalysis
  rcases analysisOf_cases content with ⟨-, raised⟩ | ⟨-, analysis, found⟩
  · rw [raised]
    change ReturnsIn Imported (throw UploadError.other) db
    exact returnsIn_throw _
  · rw [found]
    cases storable : analysis.storable platform with
    | false =>
        simp only [storable, Bool.false_eq_true, if_false]
        exact returnsIn_bind_commit_of_error rfl
    | true =>
        simp only [storable, if_true]
        refine (returnsIn_bind_commit rfl).mpr fun _ => ?_
        exact (returnsIn_pure created).mpr imported_storedAnalysis

theorem upload_iff (refer : ImportsRefer db) {deliveries : UploadDeliveries}
    (suffix : hasPrjzSuffix platform upload.file = true) :
    RaisesIn (UploadKept db) (upload.create platform deliveries now) db ∧
        ReturnsIn Imported (upload.create platform deliveries now) db ↔
      UploadHarmless platform upload now db deliveries := by
  unfold CaratUpload.create UploadHarmless
  rcases document_cases platform upload now db with
    ⟨unrecorded, error, failed⟩ | ⟨recorded, created, payload, ran, fresh⟩
  · have raised : (createCustomerCaseDocumentMetadata upload.context upload.caseId upload.request
        (upload.document platform) now db).mapError UploadError.api = .error (.api error) := by
      rw [failed]
      rfl
    rw [raisesIn_bind_commit_of_error raised]
    exact iff_of_true ⟨⟨rfl, rfl, rfl⟩, returnsIn_bind_commit_of_error raised⟩
      fun going => absurd going.1 unrecorded
  · have returned : (createCustomerCaseDocumentMetadata upload.context upload.caseId upload.request
        (upload.document platform) now db).mapError UploadError.api =
          .ok (created, payload.written db now) := by
      rw [ran]
      rfl
    have lost : ¬UploadKept db (payload.written db now) :=
      fun kept => documents_written_ne payload kept.1
    rw [raisesIn_bind_commit returned, returnsIn_bind_commit returned]
    have carat : isCaratPrjzUpload platform upload.file =
        decide ([0x50, 0x4B] <+: upload.file.content) := by
      rw [isCaratPrjzUpload, suffix, Bool.true_and]
    have kept : UploadKept db db := ⟨rfl, rfl, rfl⟩
    by_cases packed : [0x50, 0x4B] <+: upload.file.content
    · rw [carat, decide_eq_true packed, if_pos rfl,
        raisesIn_storeCaratPrjzAnalysis (documents_written_ne payload),
        iff_true_intro returnsIn_storeCaratPrjzAnalysis]
      cases deliveries.document <;> simp [recorded, packed, kept, lost]
    · rw [carat, decide_eq_false packed, if_neg Bool.false_ne_true, returnsIn_pure]
      have missing := not_imported_written refer fresh
      cases deliveries.document <;> simp [recorded, packed, kept, lost, missing, raisesIn_pure]

end Uploads

/-- A selection that raises keeps the selected positions and the orders if and only if the
statements that ran had nothing to change; an upload of a `.prjz` file keeps the documents, imports
and orders when it raises and leaves an import when it returns if and only if its document was not
recorded or its import was stored as well. -/
theorem carat_all_or_nothing {ν : Type} (platform : CaratPlatform ν) (locale : Locale)
    (select : SelectDeliveries) (send : UploadDeliveries) (checked : Except ApiError CaratRequest)
    (upload : CaratUpload) (now : Datetime) (db : CrmDatabase) (refer : ImportsRefer db)
    (suffix : hasPrjzSuffix platform upload.file = true) :
    (RaisesIn (SelectionKept db)
        (CaratRequest.selectCaratImportPositions locale select now checked) db ↔
      SelectHarmless locale now db select checked) ∧
    (RaisesIn (UploadKept db) (upload.create platform send now) db ∧
        ReturnsIn Imported (upload.create platform send now) db ↔
      UploadHarmless platform upload now db send) :=
  ⟨raisesIn_select locale select now checked db, upload_iff refer suffix⟩

def samplePlatform (openArchive : List UInt8 → Except ArchiveError Archive) :
    CaratPlatform Nat where
  toCaratHost := CaratSuppliers.sampleHost
  openArchive := openArchive
  isFinite _ := true
  thousandths number := some (1000 * number)
  rawJson position := position.markerLine

def sampleUpload (content : List UInt8) : CaratUpload where
  context := planner
  caseId := 1
  request := ⟨"Projekt", "", "", "", "", "", none, ""⟩
  file := ⟨"kueche.prjz", content⟩
  stored := .ok ⟨"kueche.prjz", "application/zip", content.length, "b", "k", "h", false⟩

def oneCase : CrmDatabase :=
  { CrmDatabase.empty with cases := .single ⟨1, none, some 1, none, none, true, 0⟩ }

/-- Bytes that begin like an archive and are none. -/
theorem carat_all_or_nothing_torn :
    RaisesIn (SelectionKept oneCase)
        (CaratRequest.selectCaratImportPositions .ascii ⟨.answered, .refused, .answered⟩ 10
          (.ok transferHinge)) oneCase ∧
      RaisesIn (UploadKept oneCase)
          ((sampleUpload [0x50, 0x4B]).create (samplePlatform fun _ => .error .badZipFile)
            ⟨.answered, .answered⟩ 10) oneCase ∧
        ReturnsIn Imported
          ((sampleUpload [0x50, 0x4B]).create (samplePlatform fun _ => .error .badZipFile)
            ⟨.answered, .answered⟩ 10) oneCase := by
  have exactly := carat_all_or_nothing (samplePlatform fun _ => .error .badZipFile) .ascii
    ⟨.answered, .refused, .answered⟩ ⟨.answered, .answered⟩ (.ok transferHinge)
    (sampleUpload [0x50, 0x4B]) 10 oneCase (fun carat member => nomatch member) (by decide)
  refine ⟨exactly.1.mpr fun request same carat visible => ?_,
    exactly.2.mpr fun _ => ⟨rfl, by decide, ⟨nofun, nofun⟩, fun analysis analysed => ?_, rfl⟩⟩
  · cases same
    cases visible
  · cases analysed
    rfl

/-- An import of two positions whose suppliers differ in their letters' case. -/
def twoSpellings : CrmDatabase :=
  { oneImport .candidate with
    caratPositions := ⟨[hinge .candidate,
      { hinge .candidate with id := 2, supplierName := some "BLUM" }], by simp [hinge, Keyed.key]⟩ }

def transferBoth : CaratRequest := ⟨planner, 1, 1, [1, 2], .transfer⟩

/-- An archive with an encrypted member `a.prj`. -/
def encryptedArchive : List UInt8 :=
  [80, 75, 3, 4, 20, 0, 1, 0, 0, 0, 0, 0, 33, 0, 0, 0, 0, 0, 0, 0, 0, 0, 0, 0, 0, 0, 5, 0, 0, 0, 97,
    46, 112, 114, 106, 80, 75, 1, 2, 20, 3, 20, 0, 1, 0, 0, 0, 0, 0, 33, 0,
    0, 0, 0, 0, 0, 0, 0, 0, 0,
    0, 0, 0, 5, 0, 0, 0, 0, 0, 0, 0, 0, 0, 0, 0, 128, 1, 0, 0, 0, 0, 97, 46,
    112, 114, 106, 80, 75, 5,
    6, 0, 0, 0, 0, 1, 0, 1, 0, 51, 0, 0, 0, 35, 0, 0, 0, 0, 0]

/-- Its member is listed, and reading it raises a `RuntimeError`. -/
def openEncrypted (content : List UInt8) : Except ArchiveError Archive :=
  if content = encryptedArchive then .ok ⟨["a.prj"], fun _ => .error .other⟩ else .error .badZipFile

/-- Spellings that are normalised alike fail the synchronisation after the positions are selected,
and an encrypted archive raises after its document is there. -/
theorem spellings_and_encryption_leave_traces :
    ¬RaisesIn (SelectionKept twoSpellings)
        (CaratRequest.selectCaratImportPositions .ascii ⟨.answered, .answered, .answered⟩ 10
          (.ok transferBoth)) twoSpellings ∧
    ¬RaisesIn (UploadKept oneCase)
        ((sampleUpload encryptedArchive).create (samplePlatform openEncrypted)
          ⟨.answered, .answered⟩ 10) oneCase := by
  constructor
  · intro kept
    have same := (kept .database (transferBoth.selection 10 twoSpellings) rfl).1
    revert same
    decide
  · intro kept
    have same := (kept .other _ rfl).1
    have length := congrArg (fun table => table.rows.length) same
    revert length
    decide

end CaratAtomicity

end SkillCentric.Crm
