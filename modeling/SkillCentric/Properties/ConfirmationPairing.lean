import SkillCentric.Properties.ConfirmationVerdicts

/-!
# Pairs of ordered and confirmed positions

A position is looked up by its article code, and the position found is not used up.  The matching
hides nothing exactly when no article code that is ordered occurs twice in the confirmation: a
second confirmed position of an article is counted on neither side and reported by no exception.
-/

namespace SkillCentric

open Crm

namespace ConfirmationPairing

open ConfirmationVerdicts

variable {locale : Crm.Locale} {orders : List SupplierOrderPosition}
variable {positions : List ConfirmationPosition}

abbrev Pairs := List (SupplierOrderPosition × ConfirmationPosition)

def orderCode (locale : Crm.Locale) (order : SupplierOrderPosition) : Text :=
  normalizeArticleCode locale order.articleCode

def positionCode (locale : Crm.Locale) (position : ConfirmationPosition) : Text :=
  normalizeArticleCode locale position.articleCode

/-- A pairing by article codes that leaves no two positions of one code alone. -/
structure Pairing (locale : Crm.Locale) (orders : List SupplierOrderPosition)
    (positions : List ConfirmationPosition) (pairs : Pairs) : Prop where
  ordersOnce : (pairs.map (·.1.id)).Nodup
  positionsOnce : (pairs.map (·.2.id)).Nodup
  ordered : ∀ pair ∈ pairs, pair.1 ∈ orders
  confirmed : ∀ pair ∈ pairs, pair.2 ∈ positions
  sameCode : ∀ pair ∈ pairs, orderCode locale pair.1 = positionCode locale pair.2 ∧
    orderCode locale pair.1 ≠ []
  maximal : ∀ order ∈ orders, ∀ position ∈ positions,
    orderCode locale order = positionCode locale position → orderCode locale order ≠ [] →
      order.id ∈ pairs.map (·.1.id) ∨ position.id ∈ pairs.map (·.2.id)

/-- Two paired positions agree: in what the order states, and in a delivery that is not late. -/
structure PairAgrees (order : SupplierOrderPosition) (position : ConfirmationPosition) : Prop where
  quantity : ∀ quantity, order.quantity = some quantity → position.quantity = some quantity
  price : ∀ price, order.orderedNetPrice = some price → position.confirmedNetPrice = some price
  delivery : ∀ ordered confirmed, order.orderedDeliveryDate = some ordered →
    position.confirmedDeliveryDate = some confirmed → confirmed ≤ ordered

/-- What the status `matched` has to mean. -/
structure FullyMatched (locale : Crm.Locale) (orders : List SupplierOrderPosition)
    (positions : List ConfirmationPosition) (pairs : Pairs) : Prop where
  counts : ∀ code, code ≠ [] → orders.countP (fun order => decide (orderCode locale order = code)) =
    positions.countP fun position => decide (positionCode locale position = code)
  allOrders : ∀ order ∈ orders, order ∈ pairs.map Prod.fst
  allPositions : ∀ position ∈ positions, position ∈ pairs.map Prod.snd
  agree : ∀ pair ∈ pairs, PairAgrees pair.1 pair.2
  orderCodes : ∀ order ∈ orders, orderCode locale order ≠ []
  positionCodes : ∀ position ∈ positions, positionCode locale position ≠ []

def leftOrders (orders : List SupplierOrderPosition) (pairs : Pairs) : List SupplierOrderPosition :=
  orders.filter fun order => !(pairs.map (·.1.id)).contains order.id

def leftPositions (positions : List ConfirmationPosition) (pairs : Pairs) :
    List ConfirmationPosition :=
  positions.filter fun position => !(pairs.map (·.2.id)).contains position.id

def ofType (locale : Crm.Locale) (orders : List SupplierOrderPosition)
    (positions : List ConfirmationPosition) (type : DifferenceType) : List Difference :=
  (differences locale orders positions).filter fun difference =>
    decide (difference.differenceType = type)

/-- What the recomputation writes into a confirmation hides nothing. -/
structure HidesNothing (locale : Crm.Locale) (orders : List SupplierOrderPosition)
    (positions : List ConfirmationPosition) (reported : Confirmation) (pairs : Pairs) : Prop where
  pairing : Pairing locale orders positions pairs
  status : reported.status = .matched → FullyMatched locale orders positions pairs
  missing : (ofType locale orders positions .missingPosition).map (·.orderPositionId) =
    (leftOrders orders pairs).map fun order => some order.id
  extra : (ofType locale orders positions .extraPosition).map (·.confirmationPositionId) =
    (leftPositions positions pairs).map fun position => some position.id
  orderCount : reported.matchedPositionCount + reported.unmatchedOrderPositionCount = orders.length
  positionCount :
    reported.matchedPositionCount + reported.unmatchedConfirmationPositionCount = positions.length

/-- No article that is ordered is confirmed twice. -/
def ConfirmedOnce (locale : Crm.Locale) (orders : List SupplierOrderPosition)
    (positions : List ConfirmationPosition) : Prop :=
  ∀ order ∈ orders, orderCode locale order ≠ [] → ∀ left ∈ positions, ∀ right ∈ positions,
    positionCode locale left = orderCode locale order →
      positionCode locale right = orderCode locale order → left = right

def pairsOf (locale : Crm.Locale) (orders : List SupplierOrderPosition)
    (positions : List ConfirmationPosition) : Pairs :=
  positions.filterMap fun position =>
    (matchedOrder locale orders position).map fun order => (order, position)

theorem mem_pairsOf {pair : SupplierOrderPosition × ConfirmationPosition} :
    pair ∈ pairsOf locale orders positions ↔
      pair.2 ∈ positions ∧ matchedOrder locale orders pair.2 = some pair.1 := by
  unfold pairsOf
  rw [List.mem_filterMap]
  constructor
  · rintro ⟨position, member, found⟩
    obtain ⟨order, matched, rfl⟩ := Option.map_eq_some_iff.mp found
    exact ⟨member, matched⟩
  · rintro ⟨member, matched⟩
    exact ⟨pair.2, member, by rw [matched]; rfl⟩

variable {position : ConfirmationPosition} {order : SupplierOrderPosition}

theorem matchedOrder_spec (matched : matchedOrder locale orders position = some order) :
    order ∈ orders ∧ orderCode locale order = positionCode locale position ∧
      orderCode locale order ≠ [] := by
  obtain ⟨given, before, after, rfl, same, -⟩ := matchedOrder_eq_some.mp matched
  refine ⟨by simp, same, ?_⟩
  rw [orderCode, same]
  exact given

theorem matchedOrder_of_code
    (member : order ∈ orders) (same : orderCode locale order = positionCode locale position)
    (given : orderCode locale order ≠ []) :
    ∃ found, matchedOrder locale orders position = some found := by
  unfold matchedOrder orderByArticle
  have nonempty : (normalizeArticleCode locale position.articleCode).isEmpty = false := by
    rw [List.isEmpty_eq_false_iff]
    exact fun empty => given (same.trans empty)
  rw [nonempty, if_neg Bool.false_ne_true, ← Option.isSome_iff_exists, List.find?_isSome]
  exact ⟨order, List.mem_reverse.mpr member, decide_eq_true same⟩

theorem matchedOrder_congr {left right : ConfirmationPosition}
    (same : positionCode locale left = positionCode locale right) :
    matchedOrder locale orders left = matchedOrder locale orders right :=
  congrArg (orderByArticle locale orders) same

def foundIds (locale : Crm.Locale) (orders : List SupplierOrderPosition)
    (positions : List ConfirmationPosition) : List Nat :=
  positions.filterMap fun position => (matchedOrder locale orders position).map (·.id)

theorem map_pairsOf : (pairsOf locale orders positions).map (·.1.id) =
    foundIds locale orders positions := by
  rw [pairsOf, foundIds, List.map_filterMap]
  refine List.filterMap_congr fun position _ => ?_
  cases matchedOrder locale orders position <;> rfl

theorem length_foundIds : (foundIds locale orders positions).length +
    (positions.filter fun position => (matchedOrder locale orders position).isNone).length =
      positions.length := by
  induction positions with
  | nil => rfl
  | cons first rest ih =>
      unfold foundIds at ih ⊢
      cases found : matchedOrder locale orders first with
      | none =>
          rw [List.filterMap_cons_none (by rw [found]; rfl),
            List.filter_cons_of_pos (by rw [found]; rfl),
            List.length_cons, List.length_cons]
          omega
      | some order =>
          rw [List.filterMap_cons_some (b := order.id) (by rw [found]; rfl),
            List.filter_cons_of_neg (by rw [found]; exact Bool.false_ne_true), List.length_cons,
            List.length_cons]
          omega

theorem foundIds_nodup_iff (ordersDistinct : (orders.map (·.id)).Nodup)
    (positionsDistinct : (positions.map (·.id)).Nodup) :
    (foundIds locale orders positions).Nodup ↔ ConfirmedOnce locale orders positions := by
  rw [foundIds, List.Nodup, List.pairwise_filterMap]
  constructor
  · intro apart order order_mem given left left_mem right right_mem leftCode rightCode
    by_contra differ
    obtain ⟨found, matched⟩ := matchedOrder_of_code order_mem leftCode.symm given
    have alike : matchedOrder locale orders left = matchedOrder locale orders right :=
      matchedOrder_congr (leftCode.trans rightCode.symm)
    have again := alike.symm.trans matched
    have symmetric : Std.Symm fun left right : ConfirmationPosition =>
        ∀ first, (matchedOrder locale orders left).map (·.id) = some first →
          ∀ second, (matchedOrder locale orders right).map (·.id) = some second → first ≠ second :=
      ⟨fun _ _ unlike first here second there => (unlike second there first here).symm⟩
    exact apart.forall left_mem right_mem differ found.id (congrArg _ matched) found.id
      (congrArg _ again) rfl
  · intro once
    refine (List.pairwise_map.mp positionsDistinct).imp_of_mem ?_
    intro left right left_mem right_mem differ first first_mem second second_mem same
    obtain ⟨leftOrder, leftFound, rfl⟩ := Option.map_eq_some_iff.mp first_mem
    obtain ⟨rightOrder, rightFound, rfl⟩ := Option.map_eq_some_iff.mp second_mem
    obtain ⟨leftIn, leftCode, given⟩ := matchedOrder_spec leftFound
    obtain ⟨rightIn, rightCode, -⟩ := matchedOrder_spec rightFound
    cases List.inj_on_of_nodup_map ordersDistinct leftIn rightIn same
    exact differ (congrArg (·.id)
      (once leftOrder leftIn given left left_mem right right_mem leftCode.symm rightCode.symm))

theorem positionCount_iff (ordersDistinct : (orders.map (·.id)).Nodup)
    (positionsDistinct : (positions.map (·.id)).Nodup) :
    (matchedOrderIds locale orders positions).length +
        (positions.filter fun position => (matchedOrder locale orders position).isNone).length =
          positions.length ↔
      ConfirmedOnce locale orders positions := by
  have sizes : (foundIds locale orders positions).length +
      (positions.filter fun position => (matchedOrder locale orders position).isNone).length =
        positions.length := length_foundIds
  rw [← foundIds_nodup_iff ordersDistinct positionsDistinct, ← sizes, Nat.add_right_cancel_iff]
  constructor
  · intro same
    rw [← (List.dedup_sublist (foundIds locale orders positions)).eq_of_length same]
    exact List.nodup_dedup _
  · intro distinct
    exact congrArg List.length distinct.dedup

theorem pairing_pairsOf (ordersDistinct : (orders.map (·.id)).Nodup)
    (positionsDistinct : (positions.map (·.id)).Nodup)
    (once : ConfirmedOnce locale orders positions) :
    Pairing locale orders positions (pairsOf locale orders positions) where
  ordersOnce := by
    rw [map_pairsOf]
    exact (foundIds_nodup_iff ordersDistinct positionsDistinct).mpr once
  positionsOnce := by
    have listed :
        ((pairsOf locale orders positions).map (·.2.id)).Sublist (positions.map (·.id)) := by
      have kept : (pairsOf locale orders positions).map Prod.snd =
          positions.filter fun position => (matchedOrder locale orders position).isSome := by
        rw [pairsOf, List.map_filterMap, ← List.filterMap_eq_filter]
        refine List.filterMap_congr fun position _ => ?_
        cases found : matchedOrder locale orders position <;> simp [Option.guard, found]
      have split : (pairsOf locale orders positions).map (·.2.id) =
          ((pairsOf locale orders positions).map Prod.snd).map (·.id) := by
        rw [List.map_map]
        rfl
      rw [split, kept]
      exact List.filter_sublist.map _
    exact listed.nodup positionsDistinct
  ordered := fun _ member => (matchedOrder_spec (mem_pairsOf.mp member).2).1
  confirmed := fun _ member => (mem_pairsOf.mp member).1
  sameCode := fun _ member => (matchedOrder_spec (mem_pairsOf.mp member).2).2
  maximal := by
    intro order order_mem position position_mem same given
    obtain ⟨found, matched⟩ := matchedOrder_of_code order_mem same given
    exact .inr (List.mem_map.mpr ⟨(found, position), mem_pairsOf.mpr ⟨position_mem, matched⟩, rfl⟩)

theorem foundId_of_pairs
    (positionsDistinct : (positions.map (·.id)).Nodup) (member : position ∈ positions) :
    position.id ∈ (pairsOf locale orders positions).map (·.2.id) ↔
      (matchedOrder locale orders position).isSome = true := by
  rw [List.mem_map, Option.isSome_iff_exists]
  constructor
  · rintro ⟨pair, paired, same⟩
    obtain ⟨found, matched⟩ := mem_pairsOf.mp paired
    rw [List.inj_on_of_nodup_map positionsDistinct found member same] at matched
    exact ⟨pair.1, matched⟩
  · rintro ⟨order, matched⟩
    exact ⟨(order, position), mem_pairsOf.mpr ⟨member, matched⟩, rfl⟩

theorem findings_ofType (type : DifferenceType) (position : ConfirmationPosition)
    (kind : type = .extraPosition ∨ type = .missingPosition) :
    ((findingOf locale orders position).differences.filter fun difference =>
        decide (difference.differenceType = type)).map (·.confirmationPositionId) =
      if type = .extraPosition ∧ (matchedOrder locale orders position).isNone = true then
        [some position.id] else [] := by
  cases matched : matchedOrder locale orders position with
  | none =>
      unfold findingOf
      rw [matched]
      rcases kind with rfl | rfl <;> rfl
  | some order =>
      have none : (findingOf locale orders position).differences.filter (fun difference =>
          decide (difference.differenceType = type)) = [] := by
        rw [List.filter_eq_nil_iff]
        intro difference member
        have other := all_findingOf (fun _ _ between => between.kind) matched difference member
        rcases kind with rfl | rfl
        · exact fun same => other.1 (of_decide_eq_true same)
        · exact fun same => other.2 (of_decide_eq_true same)
      rw [none, if_neg (by simp)]
      rfl

theorem missing_exceptions :
    (ofType locale orders positions .missingPosition).map (·.orderPositionId) =
    (leftOrders orders (pairsOf locale orders positions)).map fun order => some order.id := by
  have findings :
      (positions.flatMap fun position => (findingOf locale orders position).differences).filter
      (fun difference => decide (difference.differenceType = .missingPosition)) = [] := by
    rw [List.filter_flatMap, List.flatMap_eq_nil_iff]
    intro position _
    rw [← List.map_eq_nil_iff
      (f := fun difference : Difference => difference.confirmationPositionId),
      findings_ofType .missingPosition position (.inr rfl)]
    rfl
  have missing (left : List SupplierOrderPosition) :
      ((left.map fun order : SupplierOrderPosition =>
        (⟨none, some order.id, .missingPosition, .red,
          "Bestellte Position fehlt in der AB.", none⟩ :
          Difference)).filter fun difference =>
            decide (difference.differenceType = .missingPosition)).map (·.orderPositionId) =
        left.map fun order => some order.id := by
    rw [List.filter_eq_self.mpr, List.map_map]
    · rfl
    · intro difference member
      obtain ⟨order, -, rfl⟩ := List.mem_map.mp member
      rfl
  rw [ofType, differences, List.filter_append, findings, List.nil_append, missing, leftOrders,
    map_pairsOf]
  congr 1
  refine List.filter_congr fun order _ => ?_
  rw [Bool.not_inj_iff, Bool.eq_iff_iff, List.contains_iff_mem, List.contains_iff_mem]
  exact List.mem_dedup

theorem extra_exceptions (positionsDistinct : (positions.map (·.id)).Nodup) :
    (ofType locale orders positions .extraPosition).map (·.confirmationPositionId) =
      (leftPositions positions (pairsOf locale orders positions)).map fun position =>
        some position.id := by
  have left : leftPositions positions (pairsOf locale orders positions) =
      positions.filter fun position => (matchedOrder locale orders position).isNone := by
    refine List.filter_congr fun position member => ?_
    rw [Bool.eq_iff_iff, Bool.not_eq_true', ← Bool.not_eq_true, List.contains_iff_mem,
      foundId_of_pairs positionsDistinct member]
    cases matchedOrder locale orders position <;> simp
  rw [ofType, differences, List.filter_append,
    filter_missing (fun difference => decide (difference.differenceType = .extraPosition))
      fun _ => rfl, List.append_nil, left, List.filter_flatMap, List.map_flatMap]
  clear left positionsDistinct
  induction positions with
  | nil => rfl
  | cons first rest ih =>
      rw [List.flatMap_cons, findings_ofType .extraPosition first (.inl rfl), ih,
        List.filter_cons]
      cases (matchedOrder locale orders first).isNone <;> rfl

theorem Graded.clean {finding after : Finding} {grade : Severity}
    (graded : Graded position finding grade after) (none : after.differences = []) :
    grade = .green ∧ finding.differences = [] := by
  cases graded with
  | green => exact ⟨rfl, none⟩
  | yellow _ => exact absurd none (List.append_ne_nil_of_right_ne_nil _ (List.cons_ne_nil _ _))
  | red _ => exact absurd none (List.append_ne_nil_of_right_ne_nil _ (List.cons_ne_nil _ _))

theorem eq_of_valueGrade {ordered confirmed : Option Int}
    (green : valueGrade ordered confirmed = .green) :
    ∀ value, ordered = some value → confirmed = some value := by
  rintro value rfl
  cases confirmed with
  | none => cases green
  | some other =>
      rw [valueGrade] at green
      split_ifs at green with same
      exact congrArg some same.symm

theorem le_of_deliveryGrade (green : deliveryGrade order position = .green) : ∀ ordered confirmed,
      order.orderedDeliveryDate = some ordered → position.confirmedDeliveryDate = some confirmed →
        confirmed ≤ ordered := by
  intro ordered confirmed orderedDate confirmedDate
  unfold deliveryGrade at green
  rw [orderedDate, confirmedDate] at green
  dsimp only at green
  split_ifs at green with week late
  omega

theorem pairAgrees_of_clean (matched : matchedOrder locale orders position = some order)
    (none : (findingOf locale orders position).differences = []) : PairAgrees order position := by
  unfold findingOf at none
  rw [matched] at none
  obtain ⟨delivery, none⟩ := Graded.clean (graded_compareDelivery _) none
  obtain ⟨price, none⟩ := Graded.clean (graded_comparePrice _) none
  obtain ⟨quantity, -⟩ := Graded.clean graded_compareQuantity none
  exact ⟨eq_of_valueGrade quantity, eq_of_valueGrade price, le_of_deliveryGrade delivery⟩

theorem fullyMatched_of_clean (ordersDistinct : (orders.map (·.id)).Nodup)
    (positionsDistinct : (positions.map (·.id)).Nodup)
    (once : ConfirmedOnce locale orders positions)
    (none : differences locale orders positions = []) :
    FullyMatched locale orders positions (pairsOf locale orders positions) := by
  have pairing := pairing_pairsOf ordersDistinct positionsDistinct once
  have clean := List.append_eq_nil_iff.mp none
  have allPositions (position : ConfirmationPosition) (member : position ∈ positions) :
      position ∈ (pairsOf locale orders positions).map Prod.snd := by
    have clear := List.flatMap_eq_nil_iff.mp clean.1 position member
    cases matched : matchedOrder locale orders position with
    | none =>
        unfold findingOf at clear
        rw [matched] at clear
        cases clear
    | some order =>
      exact List.mem_map.mpr ⟨(order, position), mem_pairsOf.mpr ⟨member, matched⟩, rfl⟩
  have allOrders (order : SupplierOrderPosition) (member : order ∈ orders) :
      order ∈ (pairsOf locale orders positions).map Prod.fst := by
    have found := List.filter_eq_nil_iff.mp (List.map_eq_nil_iff.mp clean.2) order member
    rw [Bool.not_eq_true', Bool.not_eq_false, List.contains_iff_mem, matchedOrderIds,
      List.mem_dedup,
      ← foundIds, ← map_pairsOf, List.mem_map] at found
    obtain ⟨pair, paired, same⟩ := found
    have here := List.inj_on_of_nodup_map ordersDistinct (pairing.ordered pair paired) member same
    exact List.mem_map.mpr ⟨pair, paired, here⟩
  have ordersPerm : orders.Perm ((pairsOf locale orders positions).map Prod.fst) := by
    have once : ((pairsOf locale orders positions).map Prod.fst).Nodup := by
      refine List.Nodup.of_map (fun order => order.id) ?_
      rw [List.map_map]
      exact pairing.ordersOnce
    refine (List.perm_ext_iff_of_nodup ordersDistinct.of_map once).mpr fun order =>
      ⟨allOrders order, ?_⟩
    intro paired
    obtain ⟨pair, member, rfl⟩ := List.mem_map.mp paired
    exact pairing.ordered pair member
  have positionsPerm : positions.Perm ((pairsOf locale orders positions).map Prod.snd) := by
    have once : ((pairsOf locale orders positions).map Prod.snd).Nodup := by
      refine List.Nodup.of_map (fun position => position.id) ?_
      rw [List.map_map]
      exact pairing.positionsOnce
    refine (List.perm_ext_iff_of_nodup positionsDistinct.of_map once).mpr
      fun position => ⟨allPositions position, ?_⟩
    intro paired
    obtain ⟨pair, member, rfl⟩ := List.mem_map.mp paired
    exact pairing.confirmed pair member
  refine ⟨fun code _ => ?_, allOrders, allPositions, fun pair member => ?_, fun order member => ?_,
    fun position member => ?_⟩
  · rw [ordersPerm.countP_eq, positionsPerm.countP_eq, List.countP_map, List.countP_map]
    refine List.countP_congr fun pair member => ?_
    simp [(pairing.sameCode pair member).1]
  · obtain ⟨found, matched⟩ := mem_pairsOf.mp member
    exact pairAgrees_of_clean matched (List.flatMap_eq_nil_iff.mp clean.1 pair.2 found)
  · obtain ⟨pair, paired, rfl⟩ := List.mem_map.mp (allOrders order member)
    exact (pairing.sameCode pair paired).2
  · obtain ⟨pair, paired, rfl⟩ := List.mem_map.mp (allPositions position member)
    rw [← (pairing.sameCode pair paired).1]
    exact (pairing.sameCode pair paired).2

theorem differences_of_matched (matched : matchingStatus locale orders positions = .matched) :
    differences locale orders positions = [] := by
  unfold matchingStatus at matched
  split_ifs at matched with unmatched some
  exact not_not.mp some

theorem orderCount :
    (matchedOrderIds locale orders positions).length +
      (orders.length - (matchedOrderIds locale orders positions).length) = orders.length := by
  have known : matchedOrderIds locale orders positions ⊆ orders.map (·.id) := by
    intro id member
    rw [matchedOrderIds, List.mem_dedup, List.mem_filterMap] at member
    obtain ⟨position, -, found⟩ := member
    obtain ⟨order, matched, rfl⟩ := Option.map_eq_some_iff.mp found
    exact List.mem_map_of_mem (matchedOrder_spec matched).1
  have bound := ((List.nodup_dedup _).subperm known).length_le
  rw [List.length_map] at bound
  change (matchedOrderIds locale orders positions).length ≤ orders.length at bound
  omega

/-- A recomputation hides nothing exactly when no ordered article is confirmed twice. -/
theorem matching_exact (locale : Crm.Locale) (orders : List SupplierOrderPosition)
    (positions : List ConfirmationPosition) (ordersDistinct : (orders.map (·.id)).Nodup)
    (positionsDistinct : (positions.map (·.id)).Nodup) (now : Datetime)
    (confirmation : Confirmation) :
    (∃ pairs, HidesNothing locale orders positions
        (setMatching locale orders positions now confirmation) pairs) ↔
      ConfirmedOnce locale orders positions := by
  constructor
  · rintro ⟨pairs, hides⟩
    exact (positionCount_iff ordersDistinct positionsDistinct).mp hides.positionCount
  · intro once
    exact ⟨pairsOf locale orders positions, pairing_pairsOf ordersDistinct positionsDistinct once,
      fun matched => fullyMatched_of_clean ordersDistinct positionsDistinct once
        (differences_of_matched matched),
      missing_exceptions, extra_exceptions positionsDistinct, orderCount,
      (positionCount_iff ordersDistinct positionsDistinct).mpr once⟩

def openConfirmation : Confirmation where
  id := 2
  inboxItemId := 1
  customerCaseId := 1
  supplierOrderId := 1
  supplierId := 1
  documentId := none
  confirmationNumber := none
  status := .matchingInProgress
  orderedPositionCount := 0
  confirmationPositionCount := 0
  matchedPositionCount := 0
  unmatchedOrderPositionCount := 0
  unmatchedConfirmationPositionCount := 0
  matchRate := 0
  createdByUserId := none
  approvedByUserId := none
  approvedAt := none
  updatedAt := 0

def sink : ConfirmationPosition := confirmedSink (some 1000) (some 20000)

theorem sink_hides_nothing : ∃ pairs, HidesNothing .ascii [orderedSink] [sink]
    (setMatching .ascii [orderedSink] [sink] 0 openConfirmation) pairs := by
  refine (matching_exact .ascii [orderedSink] [sink] (List.nodup_singleton _)
    (List.nodup_singleton _) 0
    openConfirmation).mpr ?_
  intro order _ _ left left_mem right right_mem _ _
  rw [List.mem_singleton.mp left_mem, List.mem_singleton.mp right_mem]

/-- One ordered sink that is confirmed twice is reported as matched, without an exception. -/
theorem two_sinks_matched :
    (setMatching .ascii [orderedSink] [sink, { sink with id := 6 }] 0 openConfirmation).status =
        .matched ∧
      differences .ascii [orderedSink] [sink, { sink with id := 6 }] = [] ∧
      ¬ ∃ pairs, FullyMatched .ascii [orderedSink] [sink, { sink with id := 6 }] pairs := by
  refine ⟨rfl, rfl, ?_⟩
  rintro ⟨pairs, full⟩
  have counted := full.counts "S1" (by decide)
  revert counted
  decide

end ConfirmationPairing

end SkillCentric
