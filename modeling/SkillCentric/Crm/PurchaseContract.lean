import SkillCentric.Control.Rows
import SkillCentric.Library.Rounding
import SkillCentric.Runtime.Calendar

/-!
# The purchase contract form

Delivery weeks and the payment schedule of `PurchaseContractForm`.  Days are day counts, and numbers
are exact rationals.
-/

namespace SkillCentric.Crm

open SkillCentric Datetime

namespace PurchaseContract

/-- The class `\d`. -/
def isDigit (c : Char) : Bool := '0' ≤ c && c ≤ '9'

/-- `Number(text)` of digits. -/
def numberOf (digits : Text) : Nat := Nat.ofDigitChars 10 digits 0

theorem numberOf_padded (width n : Nat) : numberOf (padded width n) = n := by
  unfold numberOf padded decimal
  rw [Nat.ofDigitChars_append, Nat.ofDigitChars_replicate_zero, Nat.mul_zero,
    Nat.ofDigitChars_ten_toDigits]

theorem isDigit_of_mem_decimal {n : Nat} {c : Char} (member : c ∈ decimal n) :
    isDigit c = true := by
  have digit := Nat.isDigit_of_mem_toDigits (b := 10) (by decide) (by decide) member
  simp only [Char.isDigit, Bool.and_eq_true, decide_eq_true_eq] at digit
  simp only [isDigit, Bool.and_eq_true, decide_eq_true_eq]
  exact ⟨digit.1, digit.2⟩

theorem all_isDigit_padded (width n : Nat) : (padded width n).all isDigit = true := by
  rw [List.all_eq_true]
  intro c member
  rcases List.mem_append.mp member with zero | digit
  · obtain ⟨-, rfl⟩ := List.mem_replicate.mp zero
    decide
  · exact isDigit_of_mem_decimal digit

theorem length_padded {width n : Nat} (positive : 0 < width) (small : n < 10 ^ width) :
    (padded width n).length = width :=
  (fixedWidth_padded positive).length small

/-- `getUTCDay() || 7`: the first day of the calendar is a Monday. -/
def weekday (days : Nat) : Nat := days % 7 + 1

/-- The day of `Date.UTC(year, 0, day)`: two digits are a year of the last century. -/
def januaryDay (year day : Nat) : Nat := dayNumber (if year ≤ 99 then 1900 + year else year) 1 day

/-- `toISOString().slice(0, 10)` at midnight. -/
def isoDate (days : Nat) : Text := (Control.toISOString (days * 86400 * 1000000)).take 10

/-- `isoWeekStart`. -/
def isoWeekStart (year week : Nat) : Text :=
  let fourthOfJanuary := januaryDay year 4
  let firstMonday := fourthOfJanuary + 1 - weekday fourthOfJanuary
  isoDate (firstMonday + week * 7 - 7)

/-- The day of `new Date(value + "T00:00:00Z")` for the dates of the calendar. -/
def parseDay (value : Text) : Option Nat :=
  let year := value.take 4
  let month := (value.drop 5).take 2
  let day := value.drop 8
  if value.length = 10 ∧ (value.drop 4).take 1 = ['-'] ∧ (value.drop 7).take 1 = ['-'] ∧
      (year ++ month ++ day).all isDigit = true ∧
      IsDate (numberOf year) (numberOf month) (numberOf day) then
    some (dayNumber (numberOf year) (numberOf month) (numberOf day))
  else none

/-- `String(number)`. -/
def intText : Int → Text
  | .ofNat n => decimal n
  | .negSucc n => '-' :: decimal (n + 1)

/-- `text.padStart(2, "0")`. -/
def padTwo (text : Text) : Text := List.replicate (2 - text.length) '0' ++ text

/-- `weekValueFromDate`. -/
def weekValueFromDate (value : Text) : Text :=
  match parseDay value with
  | none => []
  | some date =>
      let thursday := date + 4 - weekday date
      let year := (civil thursday).1
      let week : Int := ((thursday : Int) - januaryDay year 1 + 1 + 6) / 7
      decimal year ++ ("-W" : Text) ++ padTwo (intText week)

/-- `dateValueFromWeek`. -/
def dateValueFromWeek (value : Text) : Text :=
  let year := value.take 4
  let week := value.drop 6
  if value.length = 8 ∧ (value.drop 4).take 2 = ("-W" : Text) ∧
      (year ++ week).all isDigit = true then
    isoWeekStart (numberOf year) (numberOf week)
  else []

example : weekValueFromDate "2026-07-01" = ("2026-W27" : Text) := by decide

example : dateValueFromWeek "2026-W27" = ("2026-06-29" : Text) := by decide

/-- `Number.parseFloat`, unless it is not a number. -/
def parseFloat (text : Text) : Option ℚ :=
  let negative := text.head? == some '-'
  let unsigned := if negative then text.tail else text
  let whole := unsigned.takeWhile isDigit
  let fraction :=
    match unsigned.drop whole.length with
    | '.' :: rest => rest.takeWhile isDigit
    | _ => []
  if whole = [] ∧ fraction = [] then none
  else
    let value : ℚ := (numberOf (whole ++ fraction) : ℚ) / (10 : ℚ) ^ fraction.length
    some (if negative then -value else value)

/-- `value.replace(/[^\d,.-]/g, "")`. -/
def keepNumeric (value : Text) : Text :=
  value.filter fun c => isDigit c || c == ',' || c == '.' || c == '-'

/-- `value.replace(",", ".")`: the first comma only. -/
def commaToDot : Text → Text
  | [] => []
  | c :: rest => if c = ',' then '.' :: rest else c :: commaToDot rest

/-- `parseMoney`. -/
def parseMoney (value : Text) : ℚ :=
  (parseFloat (commaToDot ((keepNumeric value).filter fun c => c != '.'))).getD 0

/-- `parsePercent`. -/
def parsePercent (value : Text) : ℚ := (parseFloat (commaToDot (keepNumeric value))).getD 0

/-- Hundredths, a half rounded up. -/
def hundredths (value : ℚ) : ℤ := roundHalfUp (value * 100)

/-- `roundMoney`. -/
def roundMoney (value : ℚ) : ℚ := (hundredths value : ℚ) / 100

/-- `roundPercent`. -/
def roundPercent (value : ℚ) : ℚ := (hundredths value : ℚ) / 100

/-- `clampPercent`. -/
def clampPercent (value : ℚ) : ℚ := min 100 (max 0 value)

/-- `String(number).replace(".", ",")` of a number of hundredths. -/
def hundredthsText (number : ℤ) : Text :=
  let whole := number.natAbs / 100
  let rest := number.natAbs % 100
  (if number < 0 then ['-'] else []) ++ decimal whole ++
    (if rest = 0 then []
      else if rest % 10 = 0 then ',' :: decimal (rest / 10)
      else ',' :: padded 2 rest)

/-- `formatPercentValue`. -/
def formatPercentValue (value : ℚ) : Text := hundredthsText (hundredths value)

/-- The fields of a `ContractDraft` that the schedule depends on. -/
structure ContractDraft where
  invoiceGross : Text
  itemTotals : List Text
  paymentOnOrderPercent : Text
  paymentBeforeDeliveryPercent : Text
  restPaymentPercent : Text

/-- The percentages that can be edited. -/
inductive PercentKey where
  | paymentOnOrderPercent
  | paymentBeforeDeliveryPercent
  deriving DecidableEq

namespace ContractDraft

variable (draft : ContractDraft)

/-- `updateEditablePaymentPercent`. -/
def updateEditablePaymentPercent (key : PercentKey) (value : Text) : ContractDraft :=
  let nextValue := clampPercent (parsePercent value)
  let currentOnOrder := clampPercent (parsePercent draft.paymentOnOrderPercent)
  let currentBeforeDelivery := clampPercent (parsePercent draft.paymentBeforeDeliveryPercent)
  let nextOnOrder :=
    if key = .paymentOnOrderPercent then min nextValue (roundPercent (100 - currentBeforeDelivery))
    else currentOnOrder
  let nextBeforeDelivery :=
    if key = .paymentBeforeDeliveryPercent then min nextValue (roundPercent (100 - nextOnOrder))
    else currentBeforeDelivery
  { draft with
    paymentOnOrderPercent := formatPercentValue nextOnOrder
    paymentBeforeDeliveryPercent := formatPercentValue nextBeforeDelivery
    restPaymentPercent :=
      formatPercentValue (roundPercent (100 - nextOnOrder - nextBeforeDelivery)) }

/-- `invoiceGross`: the typed amount, or the total of the items. -/
def gross : ℚ :=
  let typed := parseMoney draft.invoiceGross
  if typed ≠ 0 then typed else (draft.itemTotals.map parseMoney).sum

/-- `paymentOnOrderPercent`. -/
def onOrder : ℚ := clampPercent (parsePercent draft.paymentOnOrderPercent)

/-- `paymentBeforeDeliveryPercent`. -/
def beforeDelivery : ℚ := clampPercent (parsePercent draft.paymentBeforeDeliveryPercent)

/-- `restPaymentPercent`. -/
def rest : ℚ := clampPercent (roundPercent (100 - draft.onOrder - draft.beforeDelivery))

/-- `paymentOnOrder`, `paymentBeforeDelivery` and `restPayment`. -/
def instalments : List ℚ :=
  [draft.onOrder, draft.beforeDelivery, draft.rest].map fun percent =>
    roundMoney (draft.gross * (percent / 100))

end ContractDraft

end PurchaseContract

end SkillCentric.Crm
