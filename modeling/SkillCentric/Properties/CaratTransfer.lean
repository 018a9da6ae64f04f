import SkillCentric.Crm.SupplierOrders

/-!
# CARAT transfer

A transfer should leave one order line for each selected position.  The statements compute their
parts from the tables they began with: an order created for a supplier gets its lines only at the
next call, the position count of an order is the one from before its lines were replaced, and the
import's status looks at the selection from before.  `Prepared` says which tables and requests make
the parts fit together nevertheless.
-/

namespace SkillCentric.Crm

open SkillCentric

namespace CaratRequest

variable (request : CaratRequest)

def keeps (position : CaratPosition) : Bool :=
  match request.action with
  | .transfer =>
      decide (position.selectionStatus = .transferred) ||
        (decide (position.selectionStatus = .candidate) &&
          decide (position.id ∈ request.positionIds))
  | .reset => position.selectionStatus.taken && !decide (position.id ∈ request.positionIds)

def due (locale : Locale) (db : CrmDatabase) : List CaratPosition :=
  db.caratPositions.rows.filter fun position =>
    decide (position.importId = request.importId) && request.keeps position &&
      !position.isPicture locale

/-- A position after the first statement. -/
def selected (now : Datetime) (position : CaratPosition) : CaratPosition :=
  if position.importId = request.importId then request.select now position else position

/-- A position after the whole call. -/
def final (now : Datetime) (position : CaratPosition) : CaratPosition :=
  if request.action = .transfer ∧ position.importId = request.importId ∧
      (request.selected now position).selectionStatus = .selected then
    { request.selected now position with selectionStatus := .transferred }
  else request.selected now position

end CaratRequest

namespace CaratTransfer

variable {locale : Locale} {request : CaratRequest} {now : Datetime}

/-- The positions agree in all that identifies them and what they order. -/
structure SameGoods (position other : CaratPosition) : Prop where
  id : other.id = position.id
  importId : other.importId = position.importId
  supplierName : other.supplierName = position.supplierName
  articleCode : other.articleCode = position.articleCode
  title : other.title = position.title

namespace SameGoods

variable {position other : CaratPosition} (same : SameGoods position other)

include same

theorem normalizedSupplier :
    other.normalizedSupplier locale = position.normalizedSupplier locale := by
  unfold CaratPosition.normalizedSupplier CaratPosition.supplier
  rw [same.supplierName]

theorem isPicture : other.isPicture locale = position.isPicture locale := by
  unfold CaratPosition.isPicture
  rw [same.normalizedSupplier, same.articleCode, same.title]

end SameGoods

theorem sameGoods_selected (request : CaratRequest) (now : Datetime) (position : CaratPosition) :
    SameGoods position (request.selected now position) := by
  unfold CaratRequest.selected CaratRequest.select
  split
  · simp only
    split <;> (try split) <;> exact ⟨rfl, rfl, rfl, rfl, rfl⟩
  · exact ⟨rfl, rfl, rfl, rfl, rfl⟩

theorem sameGoods_final (request : CaratRequest) (now : Datetime) (position : CaratPosition) :
    SameGoods position (request.final now position) := by
  have same := sameGoods_selected request now position
  unfold CaratRequest.final
  split
  · exact ⟨same.id, same.importId, same.supplierName, same.articleCode, same.title⟩
  · exact same

variable {position : CaratPosition} {db after : CrmDatabase}

theorem taken_selected (now : Datetime) (own : position.importId = request.importId) :
    (request.selected now position).selectionStatus.taken = request.keeps position := by
  unfold CaratRequest.selected CaratRequest.select CaratRequest.keeps
  rw [if_pos own]
  by_cases requested : position.id ∈ request.positionIds <;>
    cases action : request.action <;> cases status : position.selectionStatus <;>
      simp [requested, status, SelectionStatus.taken]

theorem taken_final (now : Datetime) (own : position.importId = request.importId) :
    (request.final now position).selectionStatus.taken = request.keeps position := by
  rw [← taken_selected now own]
  unfold CaratRequest.final
  split
  · rename_i moved
    rw [moved.2.2]
    rfl
  · rfl

theorem selectedPositions_of_map {change : CaratPosition → CaratPosition}
    (written : after.caratPositions.rows = db.caratPositions.rows.map change)
    (same : ∀ position, SameGoods position (change position))
    (taken : ∀ position, position.importId = request.importId →
      (change position).selectionStatus.taken = request.keeps position) :
    selectedPositions locale request.importId after = (request.due locale db).map change := by
  unfold selectedPositions CaratRequest.due
  rw [written, List.filter_map]
  congr 1
  refine List.filter_congr fun position _ => ?_
  simp only [Function.comp_apply, (same position).importId, (same position).isPicture]
  by_cases own : position.importId = request.importId
  · rw [taken position own]
  · simp [own]

/-- The foreign keys that the schema keeps: an order's supplier and a line's order exist. -/
structure Valid (db : CrmDatabase) : Prop where
  suppliers : ∀ order ∈ db.supplierOrders, ∃ supplier ∈ db.suppliers, supplier.id = order.supplierId
  orders : ∀ line ∈ db.supplierOrderPositions, ∃ order ∈ db.supplierOrders,
    order.id = line.supplierOrderId

section Lines

variable (locale) (importId caseId : Nat) (db : CrmDatabase)

def ordersFor (position : CaratPosition) : List SupplierOrder :=
  ordersOf importId db caseId (supplierIds db.suppliers (position.normalizedSupplier locale))

def strays (position : CaratPosition) : List SupplierOrderPosition :=
  db.supplierOrderPositions.rows.filter fun line =>
    decide (line.sourceCaratPositionId = some position.id) && !isRemoved importId db line

def replacedCount (orderId : Nat) : Nat :=
  db.supplierOrderPositions.rows.countP fun line =>
    decide (line.supplierOrderId = orderId) && isRemoved importId db line

variable {locale importId caseId db}

theorem mem_upsertedSuppliers (names : List (Text × Text)) (now : Datetime)
    {suppliers : Table Supplier} {supplier : Supplier} (old : supplier ∈ suppliers) :
    ∃ kept ∈ upsertedSuppliers names now suppliers, kept.id = supplier.id ∧
      kept.normalizedName = supplier.normalizedName := by
  refine ⟨_, Table.mem_insertAll.mpr (.inl (Table.mem_update.mpr ⟨supplier, old, rfl⟩)), ?_⟩
  split <;> exact ⟨rfl, rfl⟩

theorem supplierIds_upserted (names : List (Text × Text)) (now : Datetime)
    {suppliers : Table Supplier} {supplier : Supplier} (old : supplier ∈ suppliers)
    (normalized : Text) :
    supplier.id ∈ supplierIds (upsertedSuppliers names now suppliers) normalized ↔
      supplier.id ∈ supplierIds suppliers normalized := by
  obtain ⟨kept, kept_mem, kept_id, kept_name⟩ := mem_upsertedSuppliers names now old
  simp only [supplierIds, List.mem_map, List.mem_filter, decide_eq_true_eq]
  constructor
  · rintro ⟨found, ⟨found_mem, named⟩, same⟩
    have found_eq : found = kept :=
      Table.eq_of_key (Table.mem_iff.mpr found_mem) kept_mem (same.trans kept_id.symm)
    exact ⟨supplier, ⟨old, by rw [← kept_name, ← found_eq, named]⟩, rfl⟩
  · rintro ⟨found, ⟨found_mem, named⟩, same⟩
    have found_eq := Table.eq_of_key found_mem old same
    exact ⟨kept, ⟨kept_mem, by rw [kept_name, ← found_eq, named]⟩, kept_id⟩

theorem ordersOf_upserted (importId caseId : Nat) (valid : Valid db) (names : List (Text × Text))
    (now : Datetime) (normalized : Text) :
    ordersOf importId db caseId
      (supplierIds (upsertedSuppliers names now db.suppliers) normalized) =
      ordersOf importId db caseId (supplierIds db.suppliers normalized) := by
  refine List.filter_congr fun order member => ?_
  obtain ⟨supplier, supplier_mem, same⟩ := valid.suppliers order member
  have contains := supplierIds_upserted names now supplier_mem normalized
  rw [same] at contains
  simp [contains]

theorem isAffected_of_mem_ordersFor {order : SupplierOrder}
    (member : order ∈ ordersFor locale importId caseId db position) :
    order ∈ db.supplierOrders ∧ order.sourceCaratImportId = some importId ∧
      ∃ supplier ∈ db.suppliers, supplier.id = order.supplierId ∧
        supplier.normalizedName = position.normalizedSupplier locale := by
  obtain ⟨listed, holds⟩ := List.mem_filter.mp member
  simp only [Bool.and_eq_true, decide_eq_true_eq, List.contains_iff_mem, supplierIds, List.mem_map,
    List.mem_filter] at holds
  obtain ⟨⟨-, supplier, ⟨supplier_mem, named⟩, same⟩, source⟩ := holds
  exact ⟨listed, source, supplier, supplier_mem, same, named⟩

theorem isRemoved_iff {line : SupplierOrderPosition} {order : SupplierOrder}
    (order_mem : order ∈ db.supplierOrders) (held : order.id = line.supplierOrderId) :
    isRemoved importId db line = true ↔
      line.sourceCaratPositionId.isSome = true ∧ order.sourceCaratImportId = some importId := by
  simp only [isRemoved, isAffected, Bool.and_eq_true, List.any_eq_true, decide_eq_true_eq]
  refine and_congr_right fun _ => ⟨?_, fun source => ⟨order, order_mem, held, source⟩⟩
  rintro ⟨other, other_mem, other_held, source⟩
  have same : other = order :=
    Table.eq_of_key (Table.mem_iff.mpr other_mem) order_mem (other_held.trans held.symm)
  exact same ▸ source

end Lines

def insertedLines (locale : Locale) (request : CaratRequest) (now : Datetime) (caseId : Nat)
    (db : CrmDatabase) : List (Nat × CaratPosition) :=
  (request.due locale db).flatMap fun position =>
    (ordersFor locale request.importId caseId db position).map fun order =>
      (order.id, request.selected now position)

def recounted (importId : Nat) (db : CrmDatabase) (now : Datetime) (order : SupplierOrder) :
    SupplierOrder :=
  if isAffected importId order then
    { order with
      orderedPositionCount := lineCount db.supplierOrderPositions order.id
      updatedAt := now }
  else order

/-- What a selection that returns has written. -/
structure Written (locale : Locale) (request : CaratRequest) (now : Datetime) (caseId : Nat)
    (db after : CrmDatabase) : Prop where
  positions : after.caratPositions.rows = db.caratPositions.rows.map (request.final now)
  present : ∃ carat ∈ after.caratImports, carat.id = request.importId
  status : ∀ carat ∈ after.caratImports, carat.id = request.importId →
    carat.status = if request.anyTaken db then .partiallyTransferred else .analysisReady
  suppliers : ∀ supplier ∈ db.suppliers, ∃ kept ∈ after.suppliers, kept.id = supplier.id ∧
    kept.normalizedName = supplier.normalizedName
  supplierOrders : ∃ created, after.supplierOrders.rows =
    db.supplierOrders.rows.map (recounted request.importId db now) ++ created
  lines : ∃ start, after.supplierOrderPositions.rows =
    (db.supplierOrderPositions.rows.filter fun line => !isRemoved request.importId db line) ++
      (insertedLines locale request now caseId db).mapIdx fun i line =>
        orderLine line.1 line.2 (start + i)

theorem newLines_selection {db : CrmDatabase} (valid : Valid db) (caseId : Nat)
    (names : List (Text × Text)) :
    newLines locale request.importId (request.selection now db) caseId
        (upsertedSuppliers names now db.suppliers) =
      insertedLines locale request now caseId db := by
  unfold newLines insertedLines
  have selected : selectedPositions locale request.importId (request.selection now db) =
      (request.due locale db).map (request.selected now) :=
    selectedPositions_of_map rfl (sameGoods_selected request now) fun _ own =>
      taken_selected now own
  rw [selected, List.flatMap_map]
  refine congrArg (List.flatMap · _) (funext fun position => ?_)
  have orders := ordersOf_upserted request.importId caseId valid names now
    (position.normalizedSupplier locale)
  rw [(sameGoods_selected request now position).normalizedSupplier]
  exact congrArg (List.map _) orders

theorem sync_eq_ok {importId actorUserId : Nat} {orders : SyncResult}
    (ran : syncSupplierOrders locale importId actorUserId now db = .ok (orders, after))
    (present : ∃ carat ∈ db.caratImports, carat.id = importId) :
    ∃ carat ∈ db.caratImports, carat.id = importId ∧
      after = synchronised locale importId carat actorUserId now db := by
  unfold syncSupplierOrders at ran
  cases located : db.caratImports.find? importId with
  | none =>
      obtain ⟨carat, member, same⟩ := present
      exact (Table.find?_eq_none.mp located carat member same).elim
  | some carat =>
      obtain ⟨member, same⟩ := Table.find?_eq_some.mp located
      rw [located] at ran
      simp only at ran
      split at ran
      · cases ran
      split at ran
      · cases ran
      · cases ran
        exact ⟨carat, member, same, rfl⟩

theorem mem_selection_imports {db : CrmDatabase} {stored : CaratImport}
    (member : stored ∈ (request.selection now db).caratImports)
    (same : stored.id = request.importId) :
    ∃ carat ∈ db.caratImports, carat.id = request.importId ∧
      stored.customerCaseId = carat.customerCaseId ∧
      stored.status = if request.anyTaken db then .partiallyTransferred else .analysisReady := by
  obtain ⟨carat, carat_mem, rfl⟩ := (Table.mem_of_written rfl).mp member
  have carat_id : carat.id = request.importId := by
    rw [← same]
    split <;> rfl
  refine ⟨carat, carat_mem, carat_id, ?_⟩
  rw [if_pos carat_id]
  exact ⟨rfl, rfl⟩

theorem synchronised_of_returned {result : SelectResult}
    (returned : selectCaratImportPositions locale request now db = (.ok result, after)) :
    ∃ carat stored, request.visibleImport db = some carat ∧ carat.id = request.importId ∧
      stored.customerCaseId = carat.customerCaseId ∧ result.importId = request.importId ∧
      after =
        if request.action = .transfer then
          request.transferred (synchronised locale request.importId stored
            request.context.primaryUserId now (request.selection now db))
        else synchronised locale request.importId stored request.context.primaryUserId now
          (request.selection now db) := by
  unfold selectCaratImportPositions at returned
  split at returned
  · cases returned
  · rename_i carat visible
    obtain ⟨case, -, found⟩ := Option.bind_eq_some_iff.mp visible
    rw [Option.filter_eq_some_iff] at found
    obtain ⟨carat_mem, carat_id⟩ := Table.find?_eq_some.mp found.1
    change carat.id = request.importId at carat_id
    simp only at returned
    split at returned
    · cases returned
    · rename_i orders synced ran
      obtain ⟨result_eq, rfl⟩ := Prod.mk.inj returned
      cases result_eq
      rw [carat_id] at ran ⊢
      have present : ∃ stored ∈ (request.selection now db).caratImports,
          Keyed.key stored = request.importId :=
        Table.exists_key_of_written rfl (fun carat => by split <;> rfl) ⟨carat, carat_mem, carat_id⟩
      obtain ⟨stored, stored_mem, stored_id, rfl⟩ := sync_eq_ok ran present
      obtain ⟨old, old_mem, old_id, same_case, -⟩ := mem_selection_imports stored_mem stored_id
      have old_eq := Table.eq_of_key old_mem carat_mem (old_id.trans carat_id.symm)
      exact ⟨carat, stored, visible, carat_id, old_eq ▸ same_case, rfl, rfl⟩

theorem final_of_transfer (transfers : request.action = .transfer) :
    (if (request.selected now position).importId = request.importId ∧
        (request.selected now position).selectionStatus = .selected then
      { request.selected now position with selectionStatus := .transferred }
    else request.selected now position) = request.final now position := by
  unfold CaratRequest.final
  rw [(sameGoods_selected request now position).importId]
  simp [transfers]

theorem final_of_reset (resets : request.action ≠ .transfer) :
    request.selected now position = request.final now position := by
  simp [CaratRequest.final, resets]

theorem written_of_returned {result : SelectResult} (valid : Valid db)
    (returned : selectCaratImportPositions locale request now db = (.ok result, after)) :
    ∃ carat, request.visibleImport db = some carat ∧ result.importId = request.importId ∧
      Written locale request now carat.customerCaseId db after := by
  obtain ⟨carat, stored, visible, carat_id, same_case, result_id, after_eq⟩ :=
    synchronised_of_returned returned
  refine ⟨carat, visible, result_id, ?_⟩
  have orders : ∃ created, (synchronised locale request.importId stored
      request.context.primaryUserId now (request.selection now db)).supplierOrders.rows =
        db.supplierOrders.rows.map (recounted request.importId db now) ++ created :=
    ⟨_, rfl⟩
  have suppliers : ∀ supplier ∈ db.suppliers, ∃ kept ∈ (synchronised locale request.importId stored
      request.context.primaryUserId now (request.selection now db)).suppliers,
        kept.id = supplier.id ∧ kept.normalizedName = supplier.normalizedName :=
    fun supplier member => mem_upsertedSuppliers _ now member
  have lines : ∃ start, (synchronised locale request.importId stored
      request.context.primaryUserId now (request.selection now db)).supplierOrderPositions.rows =
        (db.supplierOrderPositions.rows.filter fun line => !isRemoved request.importId db line) ++
          (insertedLines locale request now carat.customerCaseId db).mapIdx fun i line =>
            orderLine line.1 line.2 (start + i) := by
    refine ⟨(keptLines request.importId db).nextKey, ?_⟩
    rw [← newLines_selection valid carat.customerCaseId
      (supplierNames locale (selectedPositions locale request.importId (request.selection now db))),
      ← same_case]
    rfl
  have present : ∃ stored ∈ (request.selection now db).caratImports,
      stored.id = request.importId := by
    obtain ⟨case, -, found⟩ := Option.bind_eq_some_iff.mp visible
    rw [Option.filter_eq_some_iff] at found
    exact Table.exists_key_of_written rfl (fun carat => by split <;> rfl)
      ⟨carat, (Table.find?_eq_some.mp found.1).1, carat_id⟩
  have status : ∀ stored ∈ (request.selection now db).caratImports,
      stored.id = request.importId →
        stored.status = if request.anyTaken db then .partiallyTransferred else .analysisReady := by
    intro stored member same
    obtain ⟨-, -, -, -, status⟩ := mem_selection_imports member same
    exact status
  by_cases transfers : request.action = .transfer
  · rw [if_pos transfers] at after_eq
    subst after_eq
    refine ⟨?_, present, status, suppliers, orders, lines⟩
    change ((db.caratPositions.rows.map (request.selected now)).map _) = _
    rw [List.map_map]
    exact List.map_congr_left fun position _ => final_of_transfer transfers
  · rw [if_neg transfers] at after_eq
    subst after_eq
    refine ⟨?_, present, status, suppliers, orders, lines⟩
    exact List.map_congr_left fun position _ => final_of_reset transfers

/-- One item of a list without repetitions contributes to a `flatMap`. -/
theorem flatMap_ite_eq {α β : Type} [DecidableEq α] {items : List α} (distinct : items.Nodup)
    (parts : α → List β) (wanted : α) :
    items.flatMap (fun item => if item = wanted then parts item else []) =
      if wanted ∈ items then parts wanted else [] := by
  induction items with
  | nil => simp
  | cons first rest ih =>
      obtain ⟨absent, distinct⟩ := List.nodup_cons.mp distinct
      rw [List.flatMap_cons, ih distinct]
      by_cases here : first = wanted
      · subst here
        simp [absent]
      · simp [here, Ne.symm here]

theorem countP_flatMap_of_one {α β : Type} {items : List α} {parts : α → List β}
    {counted : β → Bool} {wanted : α → Bool}
    (each : ∀ item ∈ items, (parts item).countP counted = if wanted item then 1 else 0) :
    (items.flatMap parts).countP counted = items.countP wanted := by
  induction items with
  | nil => rfl
  | cons first rest ih =>
      rw [List.flatMap_cons, List.countP_append, List.countP_cons,
        ih fun item member => each item (List.mem_cons_of_mem first member),
        each first List.mem_cons_self, Nat.add_comm]

theorem existsUnique_iff_countP {α : Type} {items : List α} (distinct : items.Nodup)
    {counted : α → Bool} :
    (∃! item, item ∈ items ∧ counted item = true) ↔ items.countP counted = 1 := by
  have members : ∀ item, item ∈ items ∧ counted item = true ↔ item ∈ items.filter counted :=
    fun item => List.mem_filter.symm
  rw [List.countP_eq_length_filter, List.length_eq_one_iff]
  constructor
  · rintro ⟨item, holds, unique⟩
    refine ⟨item, List.perm_singleton.mp ?_⟩
    refine (List.perm_ext_iff_of_nodup (distinct.filter counted) (List.nodup_singleton item)).mpr ?_
    intro other
    rw [← members, List.mem_singleton]
    exact ⟨unique other, fun same => same ▸ holds⟩
  · rintro ⟨item, only⟩
    refine ⟨item, (members item).mpr (by simp [only]), fun other holds => ?_⟩
    have listed := (members other).mp holds
    rw [only] at listed
    exact List.mem_singleton.mp listed

section Counts

variable {db after : CrmDatabase} {caseId : Nat}
  (written : Written locale request now caseId db after)

theorem nodup_due : (request.due locale db).Nodup :=
  db.caratPositions.rows_nodup.filter _

include written in
theorem selectedPositions_after :
    selectedPositions locale request.importId after =
      (request.due locale db).map (request.final now) :=
  selectedPositions_of_map written.positions (sameGoods_final request now) fun _ own =>
    taken_final now own

include written in
theorem countP_source (member : position ∈ db.caratPositions) :
    after.supplierOrderPositions.rows.countP
        (fun line => decide (line.sourceCaratPositionId = some position.id)) =
      (strays request.importId db position).length +
        if position ∈ request.due locale db then
          (ordersFor locale request.importId caseId db position).length
        else 0 := by
  obtain ⟨start, lines⟩ := written.lines
  rw [lines, List.countP_append]
  congr 1
  · rw [List.countP_filter, strays, List.countP_eq_length_filter]
  · have inherits : ∀ (i : Nat) (line : Nat × CaratPosition),
        decide ((orderLine line.1 line.2 (start + i)).sourceCaratPositionId = some position.id) =
          decide (line.2.id = position.id) := by
      intro i line
      simp [orderLine]
    rw [Table.countP_mapIdx inherits, List.countP_eq_length_filter, insertedLines,
      List.filter_flatMap]
    have parts : ∀ other ∈ request.due locale db,
        ((ordersFor locale request.importId caseId db other).map fun order =>
          (order.id, request.selected now other)).filter
            (fun line => decide (line.2.id = position.id)) =
          if other = position then
            (ordersFor locale request.importId caseId db other).map fun order =>
              (order.id, request.selected now other)
          else [] := by
      intro other other_mem
      have same_id := (sameGoods_selected request now other).id
      split
      · rename_i here
        subst here
        exact List.filter_eq_self.mpr fun line line_mem => by
          obtain ⟨order, -, rfl⟩ := List.mem_map.mp line_mem
          simpa using same_id
      · rename_i differs
        refine List.filter_eq_nil_iff.mpr fun line line_mem => ?_
        obtain ⟨order, -, rfl⟩ := List.mem_map.mp line_mem
        have apart : other.id ≠ position.id := fun same =>
          differs (Table.eq_of_key (Table.mem_iff.mpr (List.mem_filter.mp other_mem).1)
            member same)
        simpa [same_id] using apart
    rw [List.flatMap_congr parts, flatMap_ite_eq nodup_due]
    split <;> simp

include written in
theorem lineCount_after (order : SupplierOrder) (order_mem : order ∈ db.supplierOrders) :
    lineCount after.supplierOrderPositions order.id + replacedCount request.importId db order.id =
      lineCount db.supplierOrderPositions order.id +
        (request.due locale db).countP fun position =>
          decide (order ∈ ordersFor locale request.importId caseId db position) := by
  obtain ⟨start, lines⟩ := written.lines
  have inherits : ∀ (i : Nat) (line : Nat × CaratPosition),
      decide ((orderLine line.1 line.2 (start + i)).supplierOrderId = order.id) =
        decide (line.1 = order.id) := by
    intro i line
    rfl
  have each : ∀ position ∈ request.due locale db,
      ((ordersFor locale request.importId caseId db position).map fun taking =>
        (taking.id, request.selected now position)).countP
          (fun line => decide (line.1 = order.id)) =
        if decide (order ∈ ordersFor locale request.importId caseId db position) then 1 else 0 := by
    intro position _
    have one : (ordersFor locale request.importId caseId db position).countP
        (fun taking => decide (taking.id = order.id)) =
          (ordersFor locale request.importId caseId db position).count order := by
      refine List.countP_congr fun taking member => ?_
      have listed := (isAffected_of_mem_ordersFor member).1
      simp only [decide_eq_true_eq, beq_iff_eq]
      exact ⟨fun same => Table.eq_of_key listed order_mem same, fun same => same ▸ rfl⟩
    have distinct : (ordersFor locale request.importId caseId db position).Nodup :=
      db.supplierOrders.rows_nodup.filter _
    rw [List.countP_map]
    simp only [Function.comp_def]
    rw [one, distinct.count]
    simp
  have new : (insertedLines locale request now caseId db).countP
      (fun line => decide (line.1 = order.id)) =
        (request.due locale db).countP fun position =>
          decide (order ∈ ordersFor locale request.importId caseId db position) :=
    countP_flatMap_of_one each
  have split : db.supplierOrderPositions.rows.countP
      (fun line => decide (line.supplierOrderId = order.id)) =
        (db.supplierOrderPositions.rows.filter fun line =>
          !isRemoved request.importId db line).countP
            (fun line => decide (line.supplierOrderId = order.id)) +
          replacedCount request.importId db order.id := by
    have replaced : replacedCount request.importId db order.id =
        (db.supplierOrderPositions.rows.filter (isRemoved request.importId db)).countP
          (fun line => decide (line.supplierOrderId = order.id)) := List.countP_filter.symm
    rw [replaced, Nat.add_comm]
    exact List.countP_eq_countP_filter_add _ _ _
  simp only [lineCount, ← List.countP_eq_length_filter]
  rw [lines, List.countP_append, Table.countP_mapIdx inherits, new, split]
  omega

end Counts

/-- The line was made from the position of the import. -/
def ComesFrom (db : CrmDatabase) (importId : Nat) (line : SupplierOrderPosition)
    (position : CaratPosition) : Prop :=
  position ∈ db.caratPositions ∧ position.importId = importId ∧
    line.sourceCaratPositionId = some position.id

/-- The order's supplier has the name of the position's. -/
def NamedOn (locale : Locale) (db : CrmDatabase) (order : SupplierOrder)
    (position : CaratPosition) : Prop :=
  ∃ supplier ∈ db.suppliers, supplier.id = order.supplierId ∧
    supplier.normalizedName = position.normalizedSupplier locale

/-- The order lines of an import are those of its selected positions. -/
structure Corresponds (locale : Locale) (db : CrmDatabase) (importId : Nat) : Prop where
  each : ∀ position ∈ selectedPositions locale importId db, ∃! line,
    line ∈ db.supplierOrderPositions.rows ∧
      decide (line.sourceCaratPositionId = some position.id) = true
  only : ∀ line ∈ db.supplierOrderPositions, ∀ position, ComesFrom db importId line position →
    position ∈ selectedPositions locale importId db
  supplier : ∀ line ∈ db.supplierOrderPositions, ∀ position, ComesFrom db importId line position →
    ∃ order ∈ db.supplierOrders, order.id = line.supplierOrderId ∧ NamedOn locale db order position
  counts : ∀ order ∈ db.supplierOrders, ∀ line ∈ db.supplierOrderPositions, ∀ position,
    ComesFrom db importId line position → line.supplierOrderId = order.id →
      order.orderedPositionCount = lineCount db.supplierOrderPositions order.id
  status : ∀ carat ∈ db.caratImports, carat.id = importId →
    (carat.status = .partiallyTransferred ↔ ∃ position ∈ db.caratPositions,
      position.importId = importId ∧ position.selectionStatus.taken = true)

/-- The tables and the request for which the parts of a call fit together.  Apart from lines that
sit in foreign orders: every due position's supplier has exactly one order for the import, that
order already had as many lines from positions as it gets now, and a position was taken before the
call exactly when one is taken afterwards. -/
structure Prepared (locale : Locale) (request : CaratRequest) (caseId : Nat) (db : CrmDatabase) :
    Prop where
  one : ∀ position ∈ request.due locale db,
    (strays request.importId db position).length +
      (ordersFor locale request.importId caseId db position).length = 1
  none : ∀ position ∈ db.caratPositions, position.importId = request.importId →
    position ∉ request.due locale db → strays request.importId db position = []
  named : ∀ position ∈ request.due locale db, ∀ line ∈ strays request.importId db position,
    ∀ order ∈ db.supplierOrders, order.id = line.supplierOrderId → NamedOn locale db order position
  refilled : ∀ position ∈ request.due locale db,
    ∀ order ∈ ordersFor locale request.importId caseId db position,
      replacedCount request.importId db order.id =
        (request.due locale db).countP fun other =>
          decide (order ∈ ordersFor locale request.importId caseId db other)
  counted : ∀ position ∈ request.due locale db, ∀ line ∈ strays request.importId db position,
    ∀ order ∈ db.supplierOrders, order.id = line.supplierOrderId →
      order.orderedPositionCount = lineCount db.supplierOrderPositions order.id
  status : request.anyTaken db = true ↔ ∃ position ∈ db.caratPositions,
    position.importId = request.importId ∧ request.keeps position = true

section Correspondence

variable {db after : CrmDatabase} {caseId : Nat} (valid : Valid db)
  (written : Written locale request now caseId db after)

variable {line : SupplierOrderPosition} {order : SupplierOrder}

include written in
theorem kept_line (member : line ∈ db.supplierOrderPositions)
    (kept : isRemoved request.importId db line = false) : line ∈ after.supplierOrderPositions := by
  obtain ⟨start, lines⟩ := written.lines
  rw [Table.mem_iff, lines]
  exact List.mem_append_left _ (List.mem_filter.mpr ⟨member, by simp [kept]⟩)

include written in
theorem line_of_due (due : position ∈ request.due locale db)
    (takes : order ∈ ordersFor locale request.importId caseId db position) :
    ∃ line ∈ after.supplierOrderPositions, line.supplierOrderId = order.id ∧
      line.sourceCaratPositionId = some position.id := by
  obtain ⟨start, lines⟩ := written.lines
  have listed : (order.id, request.selected now position) ∈
      insertedLines locale request now caseId db :=
    List.mem_flatMap.mpr ⟨position, due, List.mem_map_of_mem takes⟩
  obtain ⟨i, bound, entry⟩ := List.mem_iff_getElem.mp listed
  refine ⟨orderLine order.id (request.selected now position) (start + i), ?_, rfl, ?_⟩
  · rw [Table.mem_iff, lines]
    refine List.mem_append_right _ (List.mem_mapIdx.mpr ⟨i, bound, ?_⟩)
    rw [entry]
  · simp [orderLine, (sameGoods_selected request now position).id]

include written in
theorem line_cases (member : line ∈ after.supplierOrderPositions) :
    (line ∈ db.supplierOrderPositions ∧ isRemoved request.importId db line = false) ∨
      ∃ position ∈ request.due locale db,
        ∃ order ∈ ordersFor locale request.importId caseId db position,
          line.supplierOrderId = order.id ∧ line.sourceCaratPositionId = some position.id := by
  obtain ⟨start, lines⟩ := written.lines
  rw [Table.mem_iff, lines] at member
  rcases List.mem_append.mp member with old | new
  · obtain ⟨listed, kept⟩ := List.mem_filter.mp old
    exact .inl ⟨listed, by simpa using kept⟩
  · obtain ⟨i, bound, rfl⟩ := List.mem_mapIdx.mp new
    obtain ⟨position, due, entry⟩ := List.mem_flatMap.mp (List.getElem_mem bound)
    obtain ⟨order, takes, pair⟩ := List.mem_map.mp entry
    refine .inr ⟨position, due, order, takes, ?_, ?_⟩
    · rw [← pair]
      rfl
    · rw [← pair]
      simp [orderLine, (sameGoods_selected request now position).id]

include valid written in
theorem order_of_line (member : line ∈ after.supplierOrderPositions) :
    ∃ order ∈ db.supplierOrders, order.id = line.supplierOrderId := by
  rcases line_cases written member with ⟨old, -⟩ | ⟨position, -, order, takes, held, -⟩
  · exact valid.orders line old
  · exact ⟨order, (isAffected_of_mem_ordersFor takes).1, held.symm⟩

include written in
theorem recounted_mem (member : order ∈ db.supplierOrders) :
    recounted request.importId db now order ∈ after.supplierOrders := by
  obtain ⟨created, orders⟩ := written.supplierOrders
  rw [Table.mem_iff, orders]
  exact List.mem_append_left _ (List.mem_map_of_mem member)

theorem recounted_id (importId : Nat) (order : SupplierOrder) :
    (recounted importId db now order).id = order.id := by
  unfold recounted
  split <;> rfl

private theorem recounted_supplierId (importId : Nat) (order : SupplierOrder) :
    (recounted importId db now order).supplierId = order.supplierId := by
  unfold recounted
  split <;> rfl

include valid written in
theorem namedOn_after (member : order ∈ db.supplierOrders) (position : CaratPosition) :
    NamedOn locale after (recounted request.importId db now order) (request.final now position) ↔
      NamedOn locale db order position := by
  obtain ⟨supplier, supplier_mem, same⟩ := valid.suppliers order member
  obtain ⟨kept, kept_mem, kept_id, kept_name⟩ := written.suppliers supplier supplier_mem
  unfold NamedOn
  rw [recounted_supplierId,
    (sameGoods_final request now position).normalizedSupplier]
  constructor
  · rintro ⟨found, found_mem, found_id, found_name⟩
    have found_eq := Table.eq_of_key found_mem kept_mem
      (found_id.trans (same.symm.trans kept_id.symm))
    exact ⟨supplier, supplier_mem, same, by rw [← kept_name, ← found_eq, found_name]⟩
  · rintro ⟨found, found_mem, found_id, found_name⟩
    have found_eq := Table.eq_of_key found_mem supplier_mem (found_id.trans same.symm)
    exact ⟨kept, kept_mem, kept_id.trans same, by rw [kept_name, ← found_eq, found_name]⟩

include written in
theorem comesFrom_final
    (member : position ∈ db.caratPositions) (own : position.importId = request.importId)
    (source : line.sourceCaratPositionId = some position.id) :
    ComesFrom after request.importId line (request.final now position) := by
  have same := sameGoods_final request now position
  refine ⟨?_, same.importId.trans own, by rw [source, same.id]⟩
  rw [Table.mem_iff, written.positions]
  exact List.mem_map_of_mem member

include written in
theorem comesFrom_cases (comes : ComesFrom after request.importId line position) :
    ∃ old ∈ db.caratPositions, position = request.final now old ∧
      old.importId = request.importId ∧ line.sourceCaratPositionId = some old.id := by
  obtain ⟨member, own, source⟩ := comes
  rw [Table.mem_iff, written.positions] at member
  obtain ⟨old, old_mem, rfl⟩ := List.mem_map.mp member
  have same := sameGoods_final request now old
  exact ⟨old, old_mem, rfl, same.importId.symm.trans own, by rw [source, same.id]⟩

include written in
theorem final_mem_selected (member : position ∈ db.caratPositions) :
    request.final now position ∈ selectedPositions locale request.importId after ↔
      position ∈ request.due locale db := by
  rw [selectedPositions_after written, List.mem_map]
  constructor
  · rintro ⟨other, due, same⟩
    have same_id : other.id = position.id := by
      rw [← (sameGoods_final request now other).id, same,
        (sameGoods_final request now position).id]
    have other_eq := Table.eq_of_key (Table.mem_iff.mpr (List.mem_filter.mp due).1)
      member same_id
    exact other_eq ▸ due
  · exact fun due => ⟨position, due, rfl⟩

theorem unaffected_of_stray (stray : line ∈ strays request.importId db position)
    (order_mem : order ∈ db.supplierOrders) (held : order.id = line.supplierOrderId) :
    order.sourceCaratImportId ≠ some request.importId := by
  intro source
  obtain ⟨-, holds⟩ := List.mem_filter.mp stray
  simp only [Bool.and_eq_true, decide_eq_true_eq, Bool.not_eq_true'] at holds
  have removed := (isRemoved_iff order_mem held).mpr ⟨by rw [holds.1]; rfl, source⟩
  rw [removed] at holds
  cases holds.2

include written in
theorem lineCount_of_unaffected (order_mem : order ∈ db.supplierOrders)
    (foreign : order.sourceCaratImportId ≠ some request.importId) :
    lineCount after.supplierOrderPositions order.id =
      lineCount db.supplierOrderPositions order.id := by
  have count := lineCount_after written order order_mem
  have replaced : replacedCount request.importId db order.id = 0 := by
    refine List.countP_eq_zero.mpr fun line _ holds => ?_
    simp only [Bool.and_eq_true, decide_eq_true_eq] at holds
    exact foreign ((isRemoved_iff order_mem holds.1.symm).mp holds.2).2
  have taken : (request.due locale db).countP (fun position =>
      decide (order ∈ ordersFor locale request.importId caseId db position)) = 0 := by
    refine List.countP_eq_zero.mpr fun position _ takes => ?_
    exact foreign (isAffected_of_mem_ordersFor (of_decide_eq_true takes)).2.1
  omega

include written in
theorem taken_after :
    (∃ position ∈ after.caratPositions, position.importId = request.importId ∧
      position.selectionStatus.taken = true) ↔
      ∃ position ∈ db.caratPositions, position.importId = request.importId ∧
        request.keeps position = true := by
  constructor
  · rintro ⟨position, member, own, taken⟩
    rw [Table.mem_iff, written.positions] at member
    obtain ⟨old, old_mem, rfl⟩ := List.mem_map.mp member
    rw [(sameGoods_final request now old).importId] at own
    exact ⟨old, old_mem, own, by rw [← taken_final now own, taken]⟩
  · rintro ⟨old, old_mem, own, keeps⟩
    refine ⟨request.final now old, ?_,
      (sameGoods_final request now old).importId.trans own, ?_⟩
    · rw [Table.mem_iff, written.positions]
      exact List.mem_map_of_mem old_mem
    · rw [taken_final now own, keeps]

theorem recounted_count {importId : Nat} (source : order.sourceCaratImportId = some importId) :
    (recounted importId db now order).orderedPositionCount =
      lineCount db.supplierOrderPositions order.id := by
  simp [recounted, isAffected, source]

theorem recounted_of_foreign {importId : Nat}
    (foreign : order.sourceCaratImportId ≠ some importId) :
    recounted importId db now order = order := by
  simp [recounted, isAffected, foreign]

theorem mem_strays :
    line ∈ strays request.importId db position ↔
      line ∈ db.supplierOrderPositions ∧ line.sourceCaratPositionId = some position.id ∧
        isRemoved request.importId db line = false := by
  simp [strays, Table.mem_iff]

include valid written in
theorem prepared_of_corresponds (holds : Corresponds locale after request.importId) :
    Prepared locale request caseId db := by
  have due_own : ∀ position ∈ request.due locale db,
      position ∈ db.caratPositions ∧ position.importId = request.importId := by
    intro position due
    obtain ⟨member, keeps⟩ := List.mem_filter.mp due
    simp only [Bool.and_eq_true, decide_eq_true_eq] at keeps
    exact ⟨member, keeps.1.1⟩
  -- an order that holds a line from the import has its lines counted
  have counts : ∀ position ∈ db.caratPositions, position.importId = request.importId →
      ∀ line ∈ after.supplierOrderPositions, line.sourceCaratPositionId = some position.id →
        ∀ order ∈ db.supplierOrders, order.id = line.supplierOrderId →
          (recounted request.importId db now order).orderedPositionCount =
            lineCount after.supplierOrderPositions order.id := by
    intro position member own line line_mem source order order_mem held
    have count := holds.counts _ (recounted_mem written order_mem) line line_mem _
      (comesFrom_final written member own source) (by rw [recounted_id, held])
    rwa [recounted_id] at count
  refine ⟨?_, ?_, ?_, ?_, ?_, ?_⟩
  · intro position due
    have unique := holds.each _ ((final_mem_selected written (due_own position due).1).mpr due)
    rw [existsUnique_iff_countP after.supplierOrderPositions.rows_nodup,
      (sameGoods_final request now position).id,
      countP_source written (due_own position due).1, if_pos due] at unique
    exact unique
  · intro position member own not_due
    rw [List.eq_nil_iff_forall_not_mem]
    intro line stray
    obtain ⟨line_mem, source, kept⟩ := mem_strays.mp stray
    exact not_due ((final_mem_selected written member).mp
      (holds.only line (kept_line written line_mem kept) _
        (comesFrom_final written member own source)))
  · intro position due line stray order order_mem held
    obtain ⟨line_mem, source, kept⟩ := mem_strays.mp stray
    obtain ⟨member, own⟩ := due_own position due
    obtain ⟨found, found_mem, found_held, named⟩ := holds.supplier line
      (kept_line written line_mem kept) _ (comesFrom_final written member own source)
    have found_eq : found = recounted request.importId db now order :=
      Table.eq_of_key found_mem (recounted_mem written order_mem)
        (found_held.trans (held.symm.trans (recounted_id _ order).symm))
    rw [found_eq] at named
    exact (namedOn_after valid written order_mem position).mp named
  · intro position due order takes
    obtain ⟨order_mem, source, -⟩ := isAffected_of_mem_ordersFor takes
    obtain ⟨member, own⟩ := due_own position due
    obtain ⟨line, line_mem, held, line_source⟩ := line_of_due written due takes
    have count := counts position member own line line_mem line_source order order_mem held.symm
    rw [recounted_count source] at count
    have after_count := lineCount_after written order order_mem
    omega
  · intro position due line stray order order_mem held
    obtain ⟨line_mem, source, kept⟩ := mem_strays.mp stray
    obtain ⟨member, own⟩ := due_own position due
    have foreign := unaffected_of_stray stray order_mem held
    have count := counts position member own line (kept_line written line_mem kept) source order
      order_mem held
    rw [recounted_of_foreign foreign, lineCount_of_unaffected written order_mem foreign] at count
    exact count
  · obtain ⟨carat, carat_mem, carat_id⟩ := written.present
    have status := holds.status carat carat_mem carat_id
    rw [written.status carat carat_mem carat_id, taken_after written] at status
    rw [← status]
    cases request.anyTaken db <;> simp

include valid written in
theorem corresponds_of_prepared (prepared : Prepared locale request caseId db) :
    Corresponds locale after request.importId := by
  -- a line from the import belongs to a due position
  have due_of : ∀ line ∈ after.supplierOrderPositions, ∀ position ∈ db.caratPositions,
      position.importId = request.importId → line.sourceCaratPositionId = some position.id →
        position ∈ request.due locale db ∧
          (line ∈ strays request.importId db position ∨
            ∃ order ∈ ordersFor locale request.importId caseId db position,
              line.supplierOrderId = order.id) := by
    intro line line_mem position member own source
    rcases line_cases written line_mem with ⟨old, kept⟩
      | ⟨other, due, order, takes, held, other_source⟩
    · have stray := mem_strays.mpr ⟨old, source, kept⟩
      refine ⟨?_, .inl stray⟩
      by_contra not_due
      rw [prepared.none position member own not_due] at stray
      cases stray
    · rw [source] at other_source
      have other_eq := Table.eq_of_key (Table.mem_iff.mpr (List.mem_filter.mp due).1)
        member (Option.some.inj other_source).symm
      subst other_eq
      exact ⟨due, .inr ⟨order, takes, held⟩⟩
  refine ⟨?_, ?_, ?_, ?_, ?_⟩
  · intro selected selected_mem
    rw [selectedPositions_after written] at selected_mem
    obtain ⟨position, due, rfl⟩ := List.mem_map.mp selected_mem
    rw [existsUnique_iff_countP after.supplierOrderPositions.rows_nodup,
      (sameGoods_final request now position).id,
      countP_source written (List.mem_filter.mp due).1, if_pos due]
    exact prepared.one position due
  · intro line line_mem final comes
    obtain ⟨position, member, rfl, own, source⟩ := comesFrom_cases written comes
    exact (final_mem_selected written member).mpr
      (due_of line line_mem position member own source).1
  · intro line line_mem final comes
    obtain ⟨position, member, rfl, own, source⟩ := comesFrom_cases written comes
    obtain ⟨due, place⟩ := due_of line line_mem position member own source
    obtain ⟨order, order_mem, held⟩ := order_of_line valid written line_mem
    refine ⟨_, recounted_mem written order_mem, (recounted_id _ order).trans held, ?_⟩
    rw [namedOn_after valid written order_mem position]
    rcases place with stray | ⟨other, takes, other_held⟩
    · exact prepared.named position due line stray order order_mem held
    · obtain ⟨other_mem, -, supplier, supplier_mem, same, named⟩ :=
        isAffected_of_mem_ordersFor takes
      have other_eq := Table.eq_of_key other_mem order_mem (other_held.symm.trans held.symm)
      exact ⟨supplier, supplier_mem, other_eq ▸ same, named⟩
  · intro order order_mem line line_mem final comes held
    obtain ⟨position, member, rfl, own, source⟩ := comesFrom_cases written comes
    obtain ⟨due, place⟩ := due_of line line_mem position member own source
    obtain ⟨old, old_mem, old_held⟩ := order_of_line valid written line_mem
    have order_eq : order = recounted request.importId db now old :=
      Table.eq_of_key order_mem (recounted_mem written old_mem)
        (held.symm.trans (old_held.symm.trans (recounted_id _ old).symm))
    rw [order_eq, recounted_id]
    rcases place with stray | ⟨other, takes, other_held⟩
    · have foreign := unaffected_of_stray stray old_mem old_held
      rw [recounted_of_foreign foreign, lineCount_of_unaffected written old_mem foreign]
      exact prepared.counted position due line stray old old_mem old_held
    · obtain ⟨other_mem, other_source, -⟩ := isAffected_of_mem_ordersFor takes
      have other_eq := Table.eq_of_key other_mem old_mem (other_held.symm.trans old_held.symm)
      rw [other_eq] at takes other_source
      rw [recounted_count other_source]
      have after_count := lineCount_after written old old_mem
      have refilled := prepared.refilled position due old takes
      omega
  · intro carat carat_mem carat_id
    rw [written.status carat carat_mem carat_id, taken_after written, ← prepared.status]
    cases request.anyTaken db <;> simp

end Correspondence

/-- A call that returns leaves the order lines of the import in correspondence with its selected
positions if and only if the tables were prepared for the request. -/
theorem carat_transfer (locale : Locale) (request : CaratRequest) (now : Datetime)
    (db after : CrmDatabase) (result : SelectResult) (valid : Valid db)
    (returned : selectCaratImportPositions locale request now db = (.ok result, after)) :
    ∃ carat, request.visibleImport db = some carat ∧
      (Corresponds locale after result.importId ↔
        Prepared locale request carat.customerCaseId db) := by
  obtain ⟨carat, visible, same, written⟩ := written_of_returned valid returned
  rw [same]
  exact ⟨carat, visible, prepared_of_corresponds valid written,
    corresponds_of_prepared valid written⟩

def planner : UserContext := ⟨1, false, [1]⟩

def hinge (status : SelectionStatus) : CaratPosition :=
  ⟨1, 1, some "1", some "Blum", some "A1", "Scharnier", none, some 2000, [], status, none, none⟩

/-- One case with an import of one position. -/
def oneImport (status : SelectionStatus) : CrmDatabase :=
  { CrmDatabase.empty with
    cases := ⟨[⟨1, none, some 1, none, none, true, 0⟩], by simp⟩
    caratImports := ⟨[⟨1, 1, 1, .analysisReady, 0⟩], by simp⟩
    caratPositions := ⟨[hinge status], by simp⟩ }

def transferHinge : CaratRequest := ⟨planner, 1, 1, [1], .transfer⟩

/-- The first transfer returns, but the position it transfers has no order line and the import is
not marked as partially transferred. -/
theorem first_transfer_orders_nothing :
    (selectCaratImportPositions .ascii transferHinge 10 (oneImport .candidate)).1.toOption =
        some ⟨.transfer, 1, 0, 1, ⟨0, 0⟩⟩ ∧
      (selectedPositions .ascii 1 (selectCaratImportPositions .ascii transferHinge 10
        (oneImport .candidate)).2).map (·.id) = [1] ∧
      (selectCaratImportPositions .ascii transferHinge 10
        (oneImport .candidate)).2.supplierOrderPositions.rows = [] ∧
      (selectCaratImportPositions .ascii transferHinge 10
        (oneImport .candidate)).2.caratImports.rows.map (·.status) = [.analysisReady] := by
  refine ⟨?_, ?_, ?_, ?_⟩ <;> decide

/-- The position has been transferred and its line is there. -/
def transferredHinge : CrmDatabase :=
  { oneImport .transferred with
    suppliers := ⟨[⟨1, "Blum", "blum", 0⟩], by simp⟩
    supplierOrders := ⟨[⟨1, 1, 1, some 1, none, "Blum Bestellung", .ordered, 1, none, 0⟩], by simp⟩
    supplierOrderPositions :=
      ⟨[⟨1, 1, some 1, some "1", some "A1", "Scharnier", none, some 2000, none, none, none, []⟩],
        by simp⟩ }

/-- Transferring again what has been transferred keeps the correspondence. -/
theorem repeated_transfer_corresponds :
    Corresponds .ascii
      (selectCaratImportPositions .ascii transferHinge 10 transferredHinge).2 1 := by
  have returned : selectCaratImportPositions .ascii transferHinge 10 transferredHinge =
      (.ok ⟨.transfer, 0, 0, 1, ⟨1, 1⟩⟩,
        (selectCaratImportPositions .ascii transferHinge 10 transferredHinge).2) := rfl
  have valid : Valid transferredHinge :=
    ⟨(by decide : ∀ order ∈ transferredHinge.supplierOrders.rows,
        ∃ supplier ∈ transferredHinge.suppliers.rows, supplier.id = order.supplierId),
      (by decide : ∀ line ∈ transferredHinge.supplierOrderPositions.rows,
        ∃ order ∈ transferredHinge.supplierOrders.rows, order.id = line.supplierOrderId)⟩
  obtain ⟨carat, visible, iff⟩ := carat_transfer .ascii transferHinge 10 transferredHinge _ _ valid
    returned
  cases visible
  refine iff.mpr ⟨?_, ?_, ?_, ?_, ?_, ?_⟩
  · decide
  · exact (by decide : ∀ position ∈ transferredHinge.caratPositions.rows,
      position.importId = transferHinge.importId →
        position ∉ transferHinge.due .ascii transferredHinge →
          strays transferHinge.importId transferredHinge position = [])
  · exact (by decide : ∀ position ∈ transferHinge.due .ascii transferredHinge,
      ∀ line ∈ strays transferHinge.importId transferredHinge position,
        ∀ order ∈ transferredHinge.supplierOrders.rows, order.id = line.supplierOrderId →
          ∃ supplier ∈ transferredHinge.suppliers.rows, supplier.id = order.supplierId ∧
            supplier.normalizedName = position.normalizedSupplier .ascii)
  · decide
  · exact (by decide : ∀ position ∈ transferHinge.due .ascii transferredHinge,
      ∀ line ∈ strays transferHinge.importId transferredHinge position,
        ∀ order ∈ transferredHinge.supplierOrders.rows, order.id = line.supplierOrderId →
          order.orderedPositionCount = lineCount transferredHinge.supplierOrderPositions order.id)
  · exact (by decide : transferHinge.anyTaken transferredHinge = true ↔
      ∃ position ∈ transferredHinge.caratPositions.rows,
        position.importId = transferHinge.importId ∧ transferHinge.keeps position = true)

end CaratTransfer

end SkillCentric.Crm
