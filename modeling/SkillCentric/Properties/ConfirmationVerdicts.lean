import SkillCentric.Crm.Confirmations

/-!
# Verdicts on confirmed positions

The matching keeps two variables for a position, a severity and a match status.  The severity is
always that of the strongest difference.  The match status is that of the last difference, which is
a milder one exactly when a warning follows a severe difference.
-/

namespace SkillCentric

open Crm

namespace ConfirmationVerdicts

variable (order : SupplierOrderPosition) (position : ConfirmationPosition)

def stronger : Severity → Severity → Severity
  | .red, _ | _, .red => .red
  | .yellow, _ | _, .yellow => .yellow
  | .green, .green => .green

def strongest (differences : List Difference) : Severity :=
  differences.foldr (fun difference later => stronger difference.severity later) .green

private theorem stronger_assoc (first second third : Severity) :
    stronger (stronger first second) third = stronger first (stronger second third) := by
  cases first <;> cases second <;> cases third <;> rfl

theorem strongest_append (differences : List Difference) (last : Difference) :
    strongest (differences ++ [last]) = stronger (strongest differences) last.severity := by
  induction differences with
  | nil =>
      change stronger last.severity .green = stronger .green last.severity
      cases last.severity <;> rfl
  | cons first rest ih =>
      rw [strongest, List.cons_append, List.foldr_cons, ← strongest, ih, ← stronger_assoc]
      rfl

/-- The match status agrees with the severity, and the severity with the differences. -/
structure Agrees (severity : Severity) (matchStatus : MatchStatus) (differences : List Difference) :
    Prop where
  strength : severity = strongest differences
  manual : matchStatus = .manualReviewRequired ↔ severity = .red
  warning : matchStatus = .matchedWithWarning ↔ severity = .yellow
  matched : matchStatus = .matched ↔ severity = .green

def valueGrade : Option Int → Option Int → Severity
  | some ordered, some confirmed => if ordered = confirmed then .green else .yellow
  | some _, none => .red
  | none, _ => .green

def weekGrade : Option Text → Option Text → Severity
  | some ordered, some confirmed => if ordered = confirmed then .green else .yellow
  | _, _ => .green

def deliveryGrade : Severity :=
  match order.orderedDeliveryDate, position.confirmedDeliveryDate with
  | some ordered, some confirmed =>
      if 7 ≤ confirmed - ordered then .red else if 0 < confirmed - ordered then .yellow else .green
  | _, _ => weekGrade (order.orderedDeliveryWeek.bind nullIfEmpty)
      (position.confirmedDeliveryWeek.bind nullIfEmpty)

/-- A difference of a confirmed position from its order, with a grade. -/
structure Between (difference : Difference) (grade : Severity) : Prop where
  severity : difference.severity = grade
  position : difference.confirmationPositionId = some position.id
  kind : difference.differenceType ≠ .extraPosition ∧ difference.differenceType ≠ .missingPosition

/-- A comparison adds a difference of its grade. -/
inductive Graded (finding : Finding) : Severity → Finding → Prop where
  | green : Graded finding .green finding
  | yellow {difference : Difference} (between : Between position difference .yellow) :
      Graded finding .yellow (finding.yellow difference)
  | red {difference : Difference} (between : Between position difference .red) :
      Graded finding .red (finding.red difference)

variable {order position}

theorem between_differenceOf (type : DifferenceType)
    (kind : type ≠ .extraPosition ∧ type ≠ .missingPosition) (grade : Severity) (message : Text)
    (value : Option Int) :
    Between position (differenceOf order position type grade message value) grade :=
  ⟨rfl, rfl, kind⟩

theorem graded_compareQuantity : Graded position ⟨.green, .matched, []⟩
    (valueGrade order.quantity position.quantity)
    (compareQuantity order position ⟨.green, .matched, []⟩) := by
  unfold compareQuantity valueGrade
  cases order.quantity with
  | none => exact .green
  | some ordered =>
      cases position.quantity with
      | none => exact .red (between_differenceOf _ (by decide) _ _ _)
      | some confirmed =>
          dsimp only
          by_cases same : ordered = confirmed
          · rw [if_pos same, if_neg (by omega)]
            exact .green
          · rw [if_neg same, if_pos (by omega)]
            exact .yellow (between_differenceOf _ (by decide) _ _ _)

theorem graded_comparePrice (finding : Finding) : Graded position finding
    (valueGrade order.orderedNetPrice position.confirmedNetPrice)
    (comparePrice order position finding) := by
  unfold comparePrice valueGrade
  cases order.orderedNetPrice with
  | none => exact .green
  | some ordered =>
      cases position.confirmedNetPrice with
      | none => exact .red (between_differenceOf _ (by decide) _ _ _)
      | some confirmed =>
          dsimp only
          by_cases same : ordered = confirmed
          · rw [if_pos same, if_neg (by omega)]
            exact .green
          · rw [if_neg same, if_pos (by omega)]
            exact .yellow (between_differenceOf _ (by decide) _ _ _)

theorem graded_compareDelivery (finding : Finding) :
    Graded position finding (deliveryGrade order position)
    (compareDelivery order position finding) := by
  have weeks (left right : Option Text) : Graded position finding (weekGrade left right)
      (match left, right with
        | some ordered, some confirmed =>
            if ordered ≠ confirmed then
              finding.yellow (differenceOf order position .deliveryDate .yellow
                "Liefer-KW weicht von der Bestellung ab." none)
            else finding
        | _, _ => finding) := by
    cases left with
    | none => exact .green
    | some ordered =>
        cases right with
        | none => exact .green
        | some confirmed =>
            dsimp only [weekGrade]
            by_cases same : ordered = confirmed
            · rw [if_pos same, if_neg (not_not.mpr same)]
              exact .green
            · rw [if_neg same, if_pos same]
              exact .yellow (between_differenceOf _ (by decide) _ _ _)
  unfold compareDelivery deliveryGrade
  cases order.orderedDeliveryDate with
  | none => exact weeks _ _
  | some ordered =>
      cases position.confirmedDeliveryDate with
      | none => exact weeks _ _
      | some confirmed =>
          dsimp only
          split
          next => exact .red (between_differenceOf .deliveryDate (by decide) _ _ _)
          next =>
            split
            next => exact .yellow (between_differenceOf .deliveryDate (by decide) _ _ _)
            next => exact .green

def statusAfter (matchStatus : MatchStatus) : Severity → MatchStatus
  | .green => matchStatus
  | .yellow => .matchedWithWarning
  | .red => .manualReviewRequired

theorem Graded.step {finding after : Finding} {grade : Severity}
    (graded : Graded position finding grade after) :
    after.severity = stronger finding.severity grade ∧
      after.matchStatus = statusAfter finding.matchStatus grade ∧
      strongest after.differences = stronger (strongest finding.differences) grade := by
  cases graded with
  | green =>
      have neutral (severity : Severity) : severity = stronger severity .green := by
        cases severity <;> rfl
      exact ⟨neutral _, rfl, neutral _⟩
  | yellow between =>
      refine ⟨?_, rfl, ?_⟩
      · simp only [Finding.yellow]
        cases finding.severity <;> rfl
      · rw [Finding.yellow, strongest_append, between.severity]
  | red between =>
      refine ⟨?_, rfl, ?_⟩
      · simp only [Finding.red]
        cases finding.severity <;> rfl
      · rw [Finding.red, strongest_append, between.severity]

/-- A warning follows a severe difference. -/
def Overwritten (quantity price delivery : Severity) : Prop :=
  (delivery = .yellow ∧ (quantity = .red ∨ price = .red)) ∨
    (delivery = .green ∧ price = .yellow ∧ quantity = .red)

theorem agrees_iff {first second third : Finding} {quantity price delivery : Severity}
    (one : Graded position ⟨.green, .matched, []⟩ quantity first)
    (two : Graded position first price second) (three : Graded position second delivery third) :
    Agrees third.severity third.matchStatus third.differences ↔
      ¬ Overwritten quantity price delivery := by
  have severity :
      third.severity = stronger (stronger (stronger .green quantity) price) delivery := by
    rw [three.step.1, two.step.1, one.step.1]
  have status : third.matchStatus =
      statusAfter (statusAfter (statusAfter .matched quantity) price) delivery := by
    rw [three.step.2.1, two.step.2.1, one.step.2.1]
  have strength : strongest third.differences =
      stronger (stronger (stronger .green quantity) price) delivery := by
    rw [three.step.2.2, two.step.2.2, one.step.2.2]
    rfl
  have verdict : Agrees third.severity third.matchStatus third.differences ↔
      (third.matchStatus = .manualReviewRequired ↔ third.severity = .red) ∧
        (third.matchStatus = .matchedWithWarning ↔ third.severity = .yellow) ∧
        (third.matchStatus = .matched ↔ third.severity = .green) :=
    ⟨fun agrees => ⟨agrees.manual, agrees.warning, agrees.matched⟩,
      fun ⟨manual, warning, matched⟩ => ⟨severity.trans strength.symm, manual, warning, matched⟩⟩
  rw [verdict, severity, status]
  cases quantity <;> cases price <;> cases delivery <;>
    simp [Overwritten, stronger, statusAfter]

variable {locale : Crm.Locale} {orders : List SupplierOrderPosition}
variable {positions : List ConfirmationPosition}

/-- The order is the last one of the article that the position confirms. -/
def Answers (locale : Crm.Locale) (orders : List SupplierOrderPosition)
    (position : ConfirmationPosition)
    (order : SupplierOrderPosition) : Prop :=
  let code := normalizeArticleCode locale position.articleCode
  code ≠ [] ∧ ∃ before after, orders = before ++ order :: after ∧
    normalizeArticleCode locale order.articleCode = code ∧
    ∀ later ∈ after, normalizeArticleCode locale later.articleCode ≠ code

theorem matchedOrder_eq_some {found : SupplierOrderPosition} :
    matchedOrder locale orders position = some found ↔ Answers locale orders position found := by
  unfold matchedOrder orderByArticle Answers
  cases code : normalizeArticleCode locale position.articleCode with
  | nil => simp
  | cons first rest =>
      rw [List.isEmpty_cons, if_neg Bool.false_ne_true, List.find?_eq_some_iff_append]
      simp only [decide_eq_true_eq, Bool.not_eq_true', decide_eq_false_iff_not]
      constructor
      · rintro ⟨same, before, after, split, unlike⟩
        refine ⟨List.cons_ne_nil _ _, after.reverse, before.reverse, ?_, same, ?_⟩
        · have turned := congrArg List.reverse split
          simpa using turned
        · exact fun later member => unlike later (List.mem_reverse.mp member)
      · rintro ⟨-, before, after, rfl, same, unlike⟩
        refine ⟨same, after.reverse, before.reverse, by simp, ?_⟩
        exact fun later member => unlike later (List.mem_reverse.mp member)

/-- The verdict on a position is that of an earlier, milder difference. -/
def Downgraded (locale : Crm.Locale) (orders : List SupplierOrderPosition)
    (position : ConfirmationPosition) : Prop :=
  ∃ order, Answers locale orders position order ∧
    Overwritten (valueGrade order.quantity position.quantity)
      (valueGrade order.orderedNetPrice position.confirmedNetPrice) (deliveryGrade order position)

theorem findingOf_agrees_iff (locale : Crm.Locale) (orders : List SupplierOrderPosition)
    (position : ConfirmationPosition) :
    Agrees (findingOf locale orders position).severity
      (findingOf locale orders position).matchStatus
        (findingOf locale orders position).differences ↔
      ¬ Downgraded locale orders position := by
  unfold findingOf
  cases found : matchedOrder locale orders position with
  | none =>
      refine iff_of_true ⟨rfl, iff_of_true rfl rfl, by simp, by simp⟩ ?_
      rintro ⟨order, answers, -⟩
      rw [matchedOrder_eq_some.mpr answers] at found
      cases found
  | some order =>
      have answers := matchedOrder_eq_some.mp found
      refine (agrees_iff graded_compareQuantity (graded_comparePrice _)
        (graded_compareDelivery _)).trans (not_congr ⟨fun bad => ⟨order, answers, bad⟩, ?_⟩)
      rintro ⟨other, others, bad⟩
      cases found.symm.trans (matchedOrder_eq_some.mpr others)
      exact bad

theorem Graded.all {holds : Difference → Prop}
    (each : ∀ difference grade, Between position difference grade → holds difference)
    {finding after : Finding} {grade : Severity} (graded : Graded position finding grade after)
    (before : ∀ difference ∈ finding.differences, holds difference) :
    ∀ difference ∈ after.differences, holds difference := by
  cases graded with
  | green => exact before
  | yellow between =>
      exact List.forall_mem_append.mpr ⟨before, List.forall_mem_singleton.mpr (each _ _ between)⟩
  | red between =>
      exact List.forall_mem_append.mpr ⟨before, List.forall_mem_singleton.mpr (each _ _ between)⟩

theorem all_findingOf {holds : Difference → Prop}
    (each : ∀ difference grade, Between position difference grade → holds difference)
    {order : SupplierOrderPosition} (matched : matchedOrder locale orders position = some order) :
    ∀ difference ∈ (findingOf locale orders position).differences, holds difference := by
  unfold findingOf
  rw [matched]
  exact (graded_compareDelivery _).all each ((graded_comparePrice _).all each
    (graded_compareQuantity.all each (List.forall_mem_nil _)))

theorem findingOf_positions (locale : Crm.Locale) (orders : List SupplierOrderPosition)
    (position : ConfirmationPosition) :
    ∀ difference ∈ (findingOf locale orders position).differences,
      difference.confirmationPositionId = some position.id := by
  cases matched : matchedOrder locale orders position with
  | none =>
      unfold findingOf
      rw [matched]
      exact List.forall_mem_singleton.mpr rfl
  | some order => exact all_findingOf (fun _ _ between => between.position) matched

theorem filter_missing {left : List SupplierOrderPosition} (asked : Difference → Bool)
    (unasked : ∀ order : SupplierOrderPosition, asked ⟨none, some order.id, .missingPosition, .red,
      "Bestellte Position fehlt in der AB.", none⟩ = false) :
    (left.map fun order : SupplierOrderPosition => (⟨none, some order.id, .missingPosition, .red,
      "Bestellte Position fehlt in der AB.", none⟩ : Difference)).filter asked = [] := by
  rw [List.filter_eq_nil_iff]
  intro difference member
  obtain ⟨order, -, rfl⟩ := List.mem_map.mp member
  rw [unasked]
  exact Bool.false_ne_true

theorem differences_of_position (distinct : (positions.map (·.id)).Nodup)
    (member : position ∈ positions) :
    ((differences locale orders positions).filter fun difference =>
      decide (difference.confirmationPositionId = some position.id)) =
        (findingOf locale orders position).differences := by
  rw [differences, List.filter_append,
    filter_missing (fun difference => decide (difference.confirmationPositionId = some position.id))
      fun _ => rfl, List.append_nil, List.filter_flatMap]
  induction positions with
  | nil => cases member
  | cons first rest ih =>
      rw [List.map_cons, List.nodup_cons] at distinct
      have other {row : ConfirmationPosition} (differ : row.id ≠ position.id) :
          ((findingOf locale orders row).differences.filter fun difference =>
            decide (difference.confirmationPositionId = some position.id)) = [] := by
        rw [List.filter_eq_nil_iff]
        intro difference found
        rw [findingOf_positions locale orders row difference found]
        simpa using differ
      rw [List.flatMap_cons]
      rcases List.mem_cons.mp member with rfl | later
      · have none : (rest.flatMap fun row => (findingOf locale orders row).differences.filter
            fun difference => decide (difference.confirmationPositionId = some position.id)) =
              [] := by
          rw [List.flatMap_eq_nil_iff]
          intro row row_mem
          exact other fun same => distinct.1 (same ▸ List.mem_map_of_mem row_mem)
        rw [none, List.append_nil, List.filter_eq_self]
        intro difference found
        exact decide_eq_true (findingOf_positions locale orders position difference found)
      · rw [other fun same => distinct.1 (same ▸ List.mem_map_of_mem later), List.nil_append]
        exact ih distinct.2 later

/-- A stored verdict agrees with the differences of its position exactly when no warning follows a
severe difference without a severe one after it. -/
theorem verdict_exact (locale : Crm.Locale) (orders : List SupplierOrderPosition)
    (positions : List ConfirmationPosition) (distinct : (positions.map (·.id)).Nodup)
    (confirmationId : Nat) (now : Datetime) (db : CrmDatabase) {row position : ConfirmationPosition}
    (stored :
      row ∈ (storeMatching locale confirmationId orders positions now db).confirmationPositions)
    (read : position ∈ positions) (same : position.id = row.id) :
    Agrees row.severity row.matchStatus
      ((differences locale orders positions).filter fun difference =>
        decide (difference.confirmationPositionId = some row.id)) ↔
      ¬ Downgraded locale orders position := by
  obtain ⟨old, -, rfl⟩ := List.mem_map.mp (Table.mem_iff.mp stored)
  cases found : positions.find? fun read => decide (read.id = old.id) with
  | none =>
      simp only [found] at same
      exact absurd same (by simpa using List.find?_eq_none.mp found position read)
  | some other =>
      simp only [found] at same ⊢
      have alike : other.id = old.id := by simpa using List.find?_some found
      cases List.inj_on_of_nodup_map distinct (List.mem_of_find?_eq_some found) read
        (alike.trans same.symm)
      rw [← same, differences_of_position distinct read]
      exact findingOf_agrees_iff locale orders position

def orderedSink : SupplierOrderPosition where
  id := 1
  supplierOrderId := 1
  sourceCaratPositionId := none
  positionNumber := none
  articleCode := some "S1"
  title := "Sink"
  description := none
  quantity := some 1000
  orderedNetPrice := some 20000
  orderedDeliveryWeek := none
  orderedDeliveryDate := none
  rawJson := []

/-- The sink as a supplier confirms it. -/
def confirmedSink (quantity price : Option Int) : ConfirmationPosition where
  id := 5
  confirmationId := 2
  matchedOrderPositionId := none
  positionNumber := none
  articleCode := some "S1"
  title := "Sink"
  description := none
  quantity := quantity
  confirmedNetPrice := price
  confirmedDeliveryWeek := none
  confirmedDeliveryDate := none
  matchStatus := .manualReviewRequired
  severity := .yellow

def sinkTables (quantity price : Option Int) : CrmDatabase :=
  { CrmDatabase.empty with
    confirmationPositions := ⟨[confirmedSink quantity price], List.nodup_singleton _⟩ }

theorem dearer_sink_agrees : ∃ row ∈ (storeMatching .ascii 2 [orderedSink]
      [confirmedSink (some 1000) (some 25000)] 0
      (sinkTables (some 1000) (some 25000))).confirmationPositions,
    Agrees row.severity row.matchStatus ((differences .ascii [orderedSink]
      [confirmedSink (some 1000) (some 25000)]).filter fun difference =>
        decide (difference.confirmationPositionId = some row.id)) := by
  refine ⟨_, List.mem_singleton_self _, ?_⟩
  refine (verdict_exact .ascii [orderedSink] [confirmedSink (some 1000) (some 25000)]
    (List.nodup_singleton _) 2 0 (sinkTables (some 1000) (some 25000)) (List.mem_singleton_self _)
    (List.mem_singleton_self _) rfl).mpr ?_
  rintro ⟨order, answers, bad⟩
  cases (matchedOrder_eq_some.mpr answers).symm.trans
    (rfl : matchedOrder .ascii [orderedSink] (confirmedSink (some 1000) (some 25000)) =
      some orderedSink)
  rcases bad with ⟨late, -⟩ | ⟨-, -, missing⟩
  · cases late
  · cases missing

/-- A missing quantity makes the position red; the price that differs as well makes it one that only
warns. -/
theorem unreadable_sink_warns : ∃ row ∈ (storeMatching .ascii 2 [orderedSink]
      [confirmedSink none (some 25000)] 0 (sinkTables none (some 25000))).confirmationPositions,
    row.severity = .red ∧ row.matchStatus = .matchedWithWarning :=
  ⟨_, List.mem_singleton_self _, rfl, rfl⟩

end ConfirmationVerdicts

end SkillCentric
