import SkillCentric.Runtime.TaskAnalyzer

/-!
# Phone numbers

`normalize_phone_number` keeps digits and plus signs and puts an international prefix in front.
-/

namespace SkillCentric.Crm

open SkillCentric Slug

/-- The class `\d`, the decimal digits of Unicode. -/
structure DecimalDigits where
  isDigit : Char → Bool
  ascii : ∀ c, c.toNat < 128 → isDigit c = (decide ('0' ≤ c) && decide (c ≤ '9'))
  space : ∀ c, isSpace c = true → isDigit c = false

/-- The digits of ASCII. -/
def DecimalDigits.onAscii : DecimalDigits where
  isDigit c := decide ('0' ≤ c) && decide (c ≤ '9')
  ascii _ _ := rfl
  space c space := by
    rw [Bool.and_eq_false_iff, decide_eq_false_iff_not, decide_eq_false_iff_not]
    by_contra within
    push Not at within
    have low : 48 ≤ c.toNat := within.1
    have high : c.toNat ≤ 57 := within.2
    simp only [isSpace, Bool.or_eq_true, Bool.and_eq_true, decide_eq_true_eq, beq_iff_eq] at space
    omega

/-- `normalize_phone_number`. -/
def normalizePhoneNumber (digits : DecimalDigits) (value : Text) : Text :=
  let raw := strip value
  if raw = [] then []
  else
    let cleaned := raw.filter fun c => digits.isDigit c || c == '+'
    let cleaned := if startsWith cleaned "00" then '+' :: cleaned.drop 2 else cleaned
    if startsWith cleaned "+" then
      let number := (cleaned.drop 1).filter digits.isDigit
      if number ≠ [] then '+' :: number else []
    else
      let number := cleaned.filter digits.isDigit
      if number = [] then []
      else if startsWith number "0" then ("+49" : Text) ++ number.drop 1
      else '+' :: number

example : normalizePhoneNumber .onAscii " 0049 (30) 1234-5" = ("+493012345" : Text) := by decide

end SkillCentric.Crm
