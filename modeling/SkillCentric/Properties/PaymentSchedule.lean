import SkillCentric.Crm.PurchaseContract

/-!
# The payment schedule

Each percentage and each instalment is rounded on its own.  The percentages stay between 0 and 100;
whether they add up to 100, and the instalments to the invoice, depends on the fractions of the
shares that are rounded.
-/

namespace SkillCentric.Crm.PurchaseContract

open SkillCentric Datetime

theorem commaToDot_append {front : Text} (none : ',' ∉ front) (back : Text) :
    commaToDot (front ++ back) = front ++ commaToDot back := by
  induction front with
  | nil => rfl
  | cons c front ih =>
      have head : c ≠ ',' := fun same => none (List.mem_cons.mpr (.inl same.symm))
      have tail : ',' ∉ front := fun member => none (List.mem_cons_of_mem _ member)
      rw [List.cons_append, commaToDot, if_neg head, ih tail, List.cons_append]

theorem ne_of_isDigit {c other : Char} (digit : isDigit c = true) (no : isDigit other = false) :
    c ≠ other := by
  rintro rfl
  rw [no] at digit
  cases digit

section Digits

variable {whole : Text} (digits : whole.all isDigit = true)

include digits

theorem comma_not_mem : ',' ∉ whole := by
  intro member
  exact ne_of_isDigit (List.all_eq_true.mp digits _ member) (by decide) rfl

theorem keepNumeric_digits : keepNumeric whole = whole := by
  rw [keepNumeric, List.filter_eq_self]
  intro c member
  rw [List.all_eq_true.mp digits c member]
  rfl

theorem takeWhile_digits (back : Text) (stops : back.takeWhile isDigit = []) :
    (whole ++ back).takeWhile isDigit = whole := by
  rw [List.takeWhile_append_of_pos (List.all_eq_true.mp digits), stops, List.append_nil]

variable (nonempty : whole ≠ [])

include nonempty

theorem unsigned (back : Text) : ((whole ++ back).head? == some '-') = false := by
  cases whole with
  | nil => exact absurd rfl nonempty
  | cons c rest =>
      have digit := List.all_eq_true.mp digits c List.mem_cons_self
      have apart : c ≠ '-' := ne_of_isDigit digit (by decide)
      simpa using apart

theorem parseFloat_whole : parseFloat whole = some (numberOf whole : ℚ) := by
  have sign := unsigned digits nonempty []
  have run := takeWhile_digits digits [] rfl
  rw [List.append_nil] at sign run
  unfold parseFloat
  simp only [sign, Bool.false_eq_true, if_false, run, List.drop_length]
  rw [if_neg fun empty => nonempty empty.1, List.append_nil, List.length_nil, pow_zero, div_one]

theorem parseFloat_fraction {fraction : Text} (fractionDigits : fraction.all isDigit = true) :
    parseFloat (whole ++ '.' :: fraction) =
      some ((numberOf (whole ++ fraction) : ℚ) / (10 : ℚ) ^ fraction.length) := by
  have sign := unsigned digits nonempty ('.' :: fraction)
  have run := takeWhile_digits digits ('.' :: fraction) rfl
  have fractionRun := takeWhile_digits fractionDigits [] rfl
  rw [List.append_nil] at fractionRun
  unfold parseFloat
  simp only [sign, Bool.false_eq_true, if_false, run, List.drop_left, fractionRun]
  rw [if_neg fun empty => nonempty empty.1]

end Digits

theorem numberOf_append (front back : Text) :
    numberOf (front ++ back) = 10 ^ back.length * numberOf front + numberOf back := by
  unfold numberOf
  rw [Nat.ofDigitChars_append, Nat.ofDigitChars_eq_ofDigitChars_zero]

theorem numberOf_decimal (n : Nat) : numberOf (decimal n) = n := Nat.ofDigitChars_ten_toDigits

theorem all_isDigit_decimal (n : Nat) : (decimal n).all isDigit = true := by
  rw [List.all_eq_true]
  exact fun c member => isDigit_of_mem_decimal member

theorem decimal_ne_nil (n : Nat) : decimal n ≠ [] := Nat.toDigits_ne_nil

theorem parsePercent_decimal (n : Nat) : parsePercent (decimal n) = n := by
  have digits := all_isDigit_decimal n
  have noComma := commaToDot_append (comma_not_mem digits) []
  rw [List.append_nil, commaToDot, List.append_nil] at noComma
  rw [parsePercent, keepNumeric_digits digits, noComma,
    parseFloat_whole digits (decimal_ne_nil n), numberOf_decimal, Option.getD_some]

theorem parsePercent_comma (n : Nat) {fraction : Text}
    (fractionDigits : fraction.all isDigit = true) :
    parsePercent (decimal n ++ ',' :: fraction) =
      n + (numberOf fraction : ℚ) / (10 : ℚ) ^ fraction.length := by
  have digits := all_isDigit_decimal n
  have kept : keepNumeric (decimal n ++ ',' :: fraction) = decimal n ++ ',' :: fraction := by
    have front := keepNumeric_digits digits
    have back := keepNumeric_digits fractionDigits
    unfold keepNumeric at front back ⊢
    rw [List.filter_append, front, List.filter_cons_of_pos (by decide), back]
  have dot : commaToDot (',' :: fraction) = '.' :: fraction := by
    rw [commaToDot, if_pos rfl]
  rw [parsePercent, kept, commaToDot_append (comma_not_mem digits), dot,
    parseFloat_fraction digits (decimal_ne_nil n) fractionDigits, Option.getD_some, numberOf_append,
    numberOf_decimal]
  have positive : (10 : ℚ) ^ fraction.length ≠ 0 := by positivity
  push_cast
  field_simp

theorem parsePercent_hundredthsText (n : Nat) : parsePercent (hundredthsText n) = n / 100 := by
  have split : ((n / 100 : Nat) : ℚ) * 100 + (n % 100 : Nat) = n := by
    exact_mod_cast Nat.div_add_mod' n 100
  unfold hundredthsText
  simp only [Int.natAbs_natCast, if_neg (not_lt.mpr (Int.natCast_nonneg n)), List.nil_append]
  by_cases none : n % 100 = 0
  · rw [if_pos none, List.append_nil, parsePercent_decimal]
    rw [none, Nat.cast_zero, add_zero] at split
    rw [← split, mul_div_cancel_right₀ _ (by norm_num)]
  · rw [if_neg none]
    by_cases tenths : n % 100 % 10 = 0
    · have single : decimal (n % 100 / 10) = [Nat.digitChar (n % 100 / 10)] :=
        Nat.toDigits_of_lt_base (by omega)
      have value : ((n % 100 / 10 : Nat) : ℚ) * 10 = (n % 100 : Nat) := by
        exact_mod_cast (by omega : n % 100 / 10 * 10 = n % 100)
      rw [if_pos tenths, parsePercent_comma _ (all_isDigit_decimal _), numberOf_decimal, single,
        List.length_singleton, pow_one]
      linarith
    · rw [if_neg tenths, parsePercent_comma _ (all_isDigit_padded 2 _), numberOf_padded,
        length_padded (by decide) (show n % 100 < 10 ^ 2 by omega)]
      norm_num
      linarith

theorem hundredths_roundPercent (value : ℚ) :
    hundredths (roundPercent value) = hundredths value := by
  have exact : roundPercent value * 100 = hundredths value := by
    rw [roundPercent, div_mul_cancel₀ _ (by norm_num)]
  rw [hundredths, exact, roundHalfUp_intCast]

variable {value : ℚ}

theorem parsePercent_formatPercentValue (nonneg : 0 ≤ hundredths value) :
    parsePercent (formatPercentValue value) = roundPercent value := by
  obtain ⟨n, number⟩ := Int.eq_ofNat_of_zero_le nonneg
  rw [formatPercentValue, number, parsePercent_hundredthsText, roundPercent,
    number, Int.cast_natCast]

theorem clampPercent_bounds (value : ℚ) : 0 ≤ clampPercent value ∧ clampPercent value ≤ 100 :=
  ⟨le_min (by norm_num) (le_max_left _ _), min_le_left _ _⟩

theorem clampPercent_of_bounds (bounds : 0 ≤ value ∧ value ≤ 100) :
    clampPercent value = value := by
  rw [clampPercent, max_eq_right bounds.1, min_eq_right bounds.2]

theorem roundPercent_bounds (atLeast : -(1 / 200) ≤ value) (atMost : value ≤ 100) :
    0 ≤ roundPercent value ∧ roundPercent value ≤ 100 := by
  have lower : (0 : ℤ) ≤ hundredths value := le_roundHalfUp_iff.mpr (by push_cast; linarith)
  have upper : hundredths value ≤ 10000 := by
    have top := roundHalfUp_mono (show value * 100 ≤ ((10000 : ℤ) : ℚ) by push_cast; linarith)
    rwa [roundHalfUp_intCast] at top
  have lowerCast : (0 : ℚ) ≤ hundredths value := by exact_mod_cast lower
  have upperCast : (hundredths value : ℚ) ≤ 10000 := by exact_mod_cast upper
  unfold roundPercent
  constructor
  · positivity
  · linarith

theorem hundredths_nonneg (atLeast : -(1 / 200) ≤ value) : 0 ≤ hundredths value :=
  le_roundHalfUp_iff.mpr (by push_cast; linarith)

theorem roundPercent_le (value : ℚ) : roundPercent value ≤ value + 1 / 200 := by
  have bound := roundHalfUp_le (value * 100)
  unfold roundPercent hundredths
  linarith

def share (typed other : ℚ) : ℚ := min typed (roundPercent (100 - other))

section Share

variable {typed other : ℚ} (typedBounds : 0 ≤ typed ∧ typed ≤ 100)
  (otherBounds : 0 ≤ other ∧ other ≤ 100)

include typedBounds otherBounds

theorem share_bounds : 0 ≤ share typed other ∧ share typed other ≤ 100 := by
  have most : 0 ≤ roundPercent (100 - other) ∧ roundPercent (100 - other) ≤ 100 :=
    roundPercent_bounds (by linarith) (by linarith)
  exact ⟨le_min typedBounds.1 most.1, (min_le_left _ _).trans typedBounds.2⟩

theorem left_bounds :
    -(1 / 200) ≤ 100 - share typed other - other ∧ 100 - share typed other - other ≤ 100 := by
  have bounds := share_bounds typedBounds otherBounds
  have most : share typed other ≤ roundPercent (100 - other) := min_le_right _ _
  have rounded := roundPercent_le (100 - other)
  constructor <;> linarith

end Share

theorem roundPercent_sum_iff (first second : ℚ) :
    roundPercent first + roundPercent second + roundPercent (100 - first - second) = 100 ↔
      ¬Uneven (first * 100) (second * 100) ((100 - first - second) * 100) := by
  have whole : first * 100 + second * 100 + (100 - first - second) * 100 = ((10000 : ℤ) : ℚ) := by
    push_cast
    ring
  rw [← sum_roundHalfUp_eq_iff whole]
  unfold roundPercent hundredths
  constructor
  · intro sum
    have same : ((roundHalfUp (first * 100) + roundHalfUp (second * 100) +
        roundHalfUp ((100 - first - second) * 100) : ℤ) : ℚ) = ((10000 : ℤ) : ℚ) := by
      push_cast
      linarith
    exact_mod_cast same
  · intro sum
    have same : ((roundHalfUp (first * 100) + roundHalfUp (second * 100) +
        roundHalfUp ((100 - first - second) * 100) : ℤ) : ℚ) = ((10000 : ℤ) : ℚ) := by rw [sum]
    push_cast at same
    linarith

theorem uneven_intCast_iff (n : ℤ) (x : ℚ) (total : ℤ) :
    Uneven n x (total - n - x) ↔ Int.fract x = 1 / 2 := by
  have rest : Int.fract ((total : ℚ) - n - x) = Int.fract (-x) := by
    have split : (total : ℚ) - n - x = ((total - n : ℤ) : ℚ) + -x := by
      push_cast
      ring
    rw [split, Int.fract_intCast_add]
  unfold Uneven
  rw [Int.fract_intCast, rest]
  by_cases none : Int.fract x = 0
  · rw [Int.fract_neg_eq_zero.mpr none, none]
    norm_num
  · rw [Int.fract_neg none]
    constructor
    · rintro (⟨-, low, other, -⟩ | ⟨half, -⟩ | ⟨-, half, -⟩ | ⟨half, -⟩ | ⟨half, -⟩)
      · linarith
      · norm_num at half
      · exact half
      · norm_num at half
      · norm_num at half
    · intro half
      rw [half]
      norm_num

/-- The rounding of a percentage that is entered next to the other one comes out even: if the other
one leaves less, what it leaves must not end in half a hundredth. -/
def EvenPercents (typed other : ℚ) : Prop :=
  if typed ≤ roundPercent (100 - other) then
    ¬Uneven (typed * 100) (other * 100) ((100 - typed - other) * 100)
  else Int.fract (other * 100) ≠ 1 / 2

instance (typed other : ℚ) : Decidable (EvenPercents typed other) := by
  unfold EvenPercents
  infer_instance

theorem evenPercents_iff (typed other : ℚ) : EvenPercents typed other ↔
    ¬Uneven (share typed other * 100) (other * 100) ((100 - share typed other - other) * 100) := by
  unfold EvenPercents
  by_cases within : typed ≤ roundPercent (100 - other)
  · rw [if_pos within, share, min_eq_left within]
  · have most : share typed other = roundPercent (100 - other) := min_eq_right (le_of_not_ge within)
    have exact : roundPercent (100 - other) * 100 = hundredths (100 - other) := by
      rw [roundPercent, div_mul_cancel₀ _ (by norm_num)]
    have rest : (100 - roundPercent (100 - other) - other) * 100 =
        ((10000 : ℤ) : ℚ) - hundredths (100 - other) - other * 100 := by
      rw [← exact]
      push_cast
      ring
    rw [if_neg within, most, rest, exact, uneven_intCast_iff]

namespace ContractDraft

variable (draft : ContractDraft)

/-- The percentages of a draft. -/
def percents : List ℚ :=
  [parsePercent draft.paymentOnOrderPercent, parsePercent draft.paymentBeforeDeliveryPercent,
    parsePercent draft.restPaymentPercent]

/-- The percentage that an edit of the given one leaves. -/
def other : PercentKey → ℚ
  | .paymentOnOrderPercent => draft.beforeDelivery
  | .paymentBeforeDeliveryPercent => draft.onOrder

/-- The edit comes out even. -/
def EvenEdit (key : PercentKey) (value : Text) : Prop :=
  EvenPercents (clampPercent (parsePercent value)) (draft.other key)

/-- All edits of a run come out even. -/
def EvenEdits (draft : ContractDraft) : List (PercentKey × Text) → Prop
  | [] => True
  | (key, value) :: edits =>
      draft.EvenEdit key value ∧ (draft.updateEditablePaymentPercent key value).EvenEdits edits

/-- The drafts of a run. -/
def run (draft : ContractDraft) : List (PercentKey × Text) → List ContractDraft
  | [] => [draft]
  | (key, value) :: edits => draft :: (draft.updateEditablePaymentPercent key value).run edits

theorem other_bounds (key : PercentKey) : 0 ≤ draft.other key ∧ draft.other key ≤ 100 := by
  cases key with
  | paymentOnOrderPercent => exact clampPercent_bounds _
  | paymentBeforeDeliveryPercent => exact clampPercent_bounds _

theorem percents_update (key : PercentKey) (value : Text) :
    let typed := clampPercent (parsePercent value)
    let entered := share typed (draft.other key)
    let rest := roundPercent (100 - entered - draft.other key)
    (draft.updateEditablePaymentPercent key value).percents = match key with
      | .paymentOnOrderPercent => [roundPercent entered, roundPercent (draft.other key), rest]
      | .paymentBeforeDeliveryPercent =>
        [roundPercent (draft.other key), roundPercent entered, rest] := by
  have typedBounds := clampPercent_bounds (parsePercent value)
  have otherBounds := draft.other_bounds key
  have entered := share_bounds typedBounds otherBounds
  have left := left_bounds typedBounds otherBounds
  have enteredRead := parsePercent_formatPercentValue
    (hundredths_nonneg
      (show -(1 / 200) ≤ share (clampPercent (parsePercent value)) (draft.other key) by
      linarith))
  have otherRead := parsePercent_formatPercentValue
    (hundredths_nonneg (show -(1 / 200) ≤ draft.other key by linarith))
  have leftRead := parsePercent_formatPercentValue (hundredths_nonneg left.1)
  have leftNonneg : 0 ≤ hundredths (roundPercent
      (100 - share (clampPercent (parsePercent value)) (draft.other key) - draft.other key)) := by
    rw [hundredths_roundPercent]
    exact hundredths_nonneg left.1
  have restRead := parsePercent_formatPercentValue leftNonneg
  have twice (number : ℚ) : roundPercent (roundPercent number) = roundPercent number := by
    rw [roundPercent, hundredths_roundPercent, roundPercent]
  rw [twice] at restRead
  cases key with
  | paymentOnOrderPercent =>
      exact congrArg₂ List.cons enteredRead (congrArg₂ List.cons otherRead
        (congrArg₂ List.cons restRead rfl))
  | paymentBeforeDeliveryPercent =>
      refine congrArg₂ List.cons otherRead (congrArg₂ List.cons enteredRead
        (congrArg₂ List.cons ?_ rfl))
      change parsePercent (formatPercentValue (roundPercent (100 - draft.onOrder -
        share (clampPercent (parsePercent value)) draft.onOrder))) = _
      have order : 100 - draft.onOrder - share (clampPercent (parsePercent value)) draft.onOrder =
          100 - share (clampPercent (parsePercent value)) draft.onOrder - draft.onOrder := by ring
      rw [order]
      exact restRead

theorem percents_update_bounds (key : PercentKey) (value : Text) :
    ∀ percent ∈ (draft.updateEditablePaymentPercent key value).percents,
      0 ≤ percent ∧ percent ≤ 100 := by
  have typedBounds := clampPercent_bounds (parsePercent value)
  have otherBounds := draft.other_bounds key
  have entered := share_bounds typedBounds otherBounds
  have left := left_bounds typedBounds otherBounds
  have enteredBounds := roundPercent_bounds (by linarith) entered.2
  have otherRounded : 0 ≤ roundPercent (draft.other key) ∧ roundPercent (draft.other key) ≤ 100 :=
    roundPercent_bounds (by linarith) otherBounds.2
  have leftBounds := roundPercent_bounds left.1 left.2
  have percents := draft.percents_update key value
  rw [percents]
  cases key with
  | paymentOnOrderPercent =>
      exact List.forall_mem_cons.mpr ⟨enteredBounds, List.forall_mem_cons.mpr
        ⟨otherRounded, List.forall_mem_singleton.mpr leftBounds⟩⟩
  | paymentBeforeDeliveryPercent =>
      exact List.forall_mem_cons.mpr ⟨otherRounded, List.forall_mem_cons.mpr
        ⟨enteredBounds, List.forall_mem_singleton.mpr leftBounds⟩⟩

theorem percents_update_sum_iff (key : PercentKey) (value : Text) :
    (draft.updateEditablePaymentPercent key value).percents.sum = 100 ↔
      draft.EvenEdit key value := by
  have percents := draft.percents_update key value
  have sum := roundPercent_sum_iff (share (clampPercent (parsePercent value)) (draft.other key))
    (draft.other key)
  rw [← evenPercents_iff] at sum
  rw [EvenEdit, ← sum]
  cases key with
  | paymentOnOrderPercent =>
      rw [percents]
      simp only [List.sum_cons, List.sum_nil, add_zero, add_assoc]
  | paymentBeforeDeliveryPercent =>
      rw [percents]
      simp only [List.sum_cons, List.sum_nil, add_zero, add_assoc]
      rw [add_left_comm]

theorem bounds_of_mem_run {draft : ContractDraft} {edits : List (PercentKey × Text)}
    (start : ∀ percent ∈ draft.percents, 0 ≤ percent ∧ percent ≤ 100) {state : ContractDraft}
    (reached : state ∈ draft.run edits) :
    ∀ percent ∈ state.percents, 0 ≤ percent ∧ percent ≤ 100 := by
  induction edits generalizing draft with
  | nil =>
      obtain rfl := List.mem_singleton.mp reached
      exact start
  | cons edit edits ih =>
      obtain ⟨key, value⟩ := edit
      rcases List.mem_cons.mp reached with rfl | later
      · exact start
      · exact ih (draft.percents_update_bounds key value) later

theorem sum_of_run_iff {draft : ContractDraft} {edits : List (PercentKey × Text)}
    (start : draft.percents.sum = 100) :
    (∀ state ∈ draft.run edits, state.percents.sum = 100) ↔ draft.EvenEdits edits := by
  induction edits generalizing draft with
  | nil => simpa [run, EvenEdits] using start
  | cons edit edits ih =>
      obtain ⟨key, value⟩ := edit
      rw [run, List.forall_mem_cons, EvenEdits, ← draft.percents_update_sum_iff key value]
      constructor
      · rintro ⟨-, later⟩
        have next : (draft.updateEditablePaymentPercent key value).percents.sum = 100 := by
          refine later _ ?_
          cases edits with
          | nil => exact List.mem_singleton_self _
          | cons edit edits => exact List.mem_cons_self
        exact ⟨next, (ih next).mp later⟩
      · rintro ⟨next, even⟩
        exact ⟨start, (ih next).mpr even⟩

/-- The percentages that are entered have at most two decimals. -/
def WholeHundredths : Prop :=
  Int.fract (draft.onOrder * 100) = 0 ∧ Int.fract (draft.beforeDelivery * 100) = 0

/-- The shares of the invoice in cents. -/
def EvenShares : Prop :=
  ¬Uneven (draft.gross * draft.onOrder) (draft.gross * draft.beforeDelivery)
    (draft.gross * (100 - draft.onOrder - draft.beforeDelivery))

theorem wholeHundredths_update (key : PercentKey) (value : Text) :
    (draft.updateEditablePaymentPercent key value).WholeHundredths := by
  have bounds := draft.percents_update_bounds key value
  have percents := draft.percents_update key value
  have whole (number : ℚ) : Int.fract (roundPercent number * 100) = 0 := by
    rw [roundPercent, div_mul_cancel₀ _ (by norm_num), Int.fract_intCast]
  have onOrder := clampPercent_of_bounds (bounds _ List.mem_cons_self)
  have beforeDelivery := clampPercent_of_bounds
    (bounds _ (List.mem_cons_of_mem _ List.mem_cons_self))
  unfold WholeHundredths ContractDraft.onOrder ContractDraft.beforeDelivery
  rw [onOrder, beforeDelivery]
  cases key with
  | paymentOnOrderPercent =>
      injection percents with first others
      injection others with second
      rw [first, second]
      exact ⟨whole _, whole _⟩
  | paymentBeforeDeliveryPercent =>
      injection percents with first others
      injection others with second
      rw [first, second]
      exact ⟨whole _, whole _⟩

section Instalments

variable {draft : ContractDraft} (bounds : ∀ percent ∈ draft.percents, 0 ≤ percent ∧ percent ≤ 100)
  (sum : draft.percents.sum = 100) (whole : draft.WholeHundredths)

include bounds sum whole

theorem rest_eq : draft.rest = 100 - draft.onOrder - draft.beforeDelivery := by
  have onOrder := clampPercent_of_bounds (bounds _ List.mem_cons_self)
  have beforeDelivery := clampPercent_of_bounds
    (bounds _ (List.mem_cons_of_mem _ List.mem_cons_self))
  have restBounds := bounds _ (List.mem_cons_of_mem _ (List.mem_cons_of_mem _ List.mem_cons_self))
  obtain ⟨first, firstWhole⟩ := Int.fract_eq_zero_iff.mp whole.1
  obtain ⟨second, secondWhole⟩ := Int.fract_eq_zero_iff.mp whole.2
  have left :
      (100 - draft.onOrder - draft.beforeDelivery) * 100 = ((10000 - first - second : ℤ) : ℚ) := by
    push_cast
    rw [firstWhole, secondWhole]
    ring
  have rounded : roundPercent (100 - draft.onOrder - draft.beforeDelivery) =
      100 - draft.onOrder - draft.beforeDelivery := by
    rw [roundPercent, hundredths, left, roundHalfUp_intCast, ←
      left, mul_div_cancel_right₀ _ (by norm_num)]
  rw [rest, rounded]
  apply clampPercent_of_bounds
  unfold percents at sum
  simp only [List.sum_cons, List.sum_nil, add_zero] at sum
  rw [ContractDraft.onOrder, ContractDraft.beforeDelivery, onOrder, beforeDelivery]
  constructor <;> linarith

theorem instalments_sum_iff {cents : ℤ} (gross : draft.gross = cents / 100) :
    draft.instalments.sum = draft.gross ↔ draft.EvenShares := by
  have share (percent : ℚ) : roundMoney (draft.gross * (percent / 100)) =
      (roundHalfUp (draft.gross * percent) : ℚ) / 100 := by
    have exact : draft.gross * (percent / 100) * 100 = draft.gross * percent := by ring
    rw [roundMoney, hundredths, exact]
  have total : draft.gross * draft.onOrder + draft.gross * draft.beforeDelivery +
      draft.gross * (100 - draft.onOrder - draft.beforeDelivery) = cents := by
    rw [gross]
    ring
  rw [EvenShares, ← sum_roundHalfUp_eq_iff total, instalments, rest_eq bounds sum whole]
  simp only [List.map_cons, List.map_nil, share, List.sum_cons, List.sum_nil, add_zero]
  rw [gross, ← add_div, ← add_div, div_left_inj' (by norm_num), ← add_assoc]
  norm_cast

end Instalments

end ContractDraft

/-- Five cents, with the percentages that a new contract starts from. -/
def fiveCents : ContractDraft where
  invoiceGross := "0,05"
  itemTotals := []
  paymentOnOrderPercent := "30"
  paymentBeforeDeliveryPercent := "60"
  restPaymentPercent := "10"

end SkillCentric.Crm.PurchaseContract
