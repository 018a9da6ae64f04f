import SkillCentric.Crm.PhoneNumbers

/-!
# Spellings of a phone number

A normalised number is normal.  With a leading zero, with `+49` and with `0049` a number has one
normal form, however its digits are separated; the zero of `+49(0)` stays.
-/

namespace SkillCentric.Crm

open SkillCentric Slug

def isSeparator (c : Char) : Bool :=
  isSpace c || decide (c ∈ ['/', '-', '(', ')', '[', ']', '\x7b', '\x7d'])

/-- A text without separators. -/
def spelling (value : Text) : Text := value.filter fun c => !isSeparator c

theorem filter_dropWhile {keep drop : Char → Bool} (apart : ∀ c, drop c = true → keep c = false)
    (value : Text) : (value.dropWhile drop).filter keep = value.filter keep := by
  induction value with
  | nil => rfl
  | cons c rest ih =>
      by_cases dropped : drop c = true
      · rw [List.dropWhile_cons_of_pos dropped, ih,
          List.filter_cons_of_neg (by rw [apart c dropped]; decide)]
      · rw [List.dropWhile_cons_of_neg dropped]

theorem filter_stripChars {keep drop : Char → Bool} (apart : ∀ c, drop c = true → keep c = false)
    (value : Text) : (stripChars drop value).filter keep = value.filter keep := by
  rw [stripChars, List.rdropWhile, List.filter_reverse, filter_dropWhile apart, List.filter_reverse,
    List.reverse_reverse, filter_dropWhile apart]

section Digits

variable (digits : DecimalDigits)

/-- The characters that are kept. -/
def kept (c : Char) : Bool := digits.isDigit c || c == '+'

def dialled (cleaned : Text) : Text :=
  let cleaned := if startsWith cleaned "00" then '+' :: cleaned.drop 2 else cleaned
  if startsWith cleaned "+" then
    let number := (cleaned.drop 1).filter digits.isDigit
    if number ≠ [] then '+' :: number else []
  else
    let number := cleaned.filter digits.isDigit
    if number = [] then []
    else if startsWith number "0" then ("+49" : Text) ++ number.drop 1
    else '+' :: number

theorem zero_isDigit : digits.isDigit '0' = true := digits.ascii '0' (by decide)

theorem kept_of_isSpace {c : Char} (space : isSpace c = true) : kept digits c = false := by
  have plus : (c == '+') = false := by
    rw [beq_eq_false_iff_ne]
    rintro rfl
    exact absurd space (by decide)
  rw [kept, digits.space c space, plus]
  rfl

theorem kept_of_isSeparator {c : Char} (separator : isSeparator c = true) :
    kept digits c = false := by
  rw [isSeparator, Bool.or_eq_true, decide_eq_true_eq] at separator
  rcases separator with space | listed
  · exact kept_of_isSpace digits space
  · have checked := List.all_eq_true.mp (show (['/', '-', '(', ')', '[', ']', '\x7b', '\x7d'].all
      fun c => decide (c.toNat < 128) && !(decide ('0' ≤ c) && decide (c ≤ '9')) &&
        !(c == '+')) = true
        by decide) c listed
    rw [Bool.and_eq_true, Bool.and_eq_true, decide_eq_true_eq, Bool.not_eq_true',
      Bool.not_eq_true'] at checked
    rw [kept, digits.ascii c checked.1.1, checked.1.2, checked.2]
    rfl

theorem normalizePhoneNumber_eq (value : Text) :
    normalizePhoneNumber digits value = dialled digits (value.filter (kept digits)) := by
  have stripped : (strip value).filter (kept digits) = value.filter (kept digits) :=
    filter_stripChars (fun _ => kept_of_isSpace digits) value
  rw [← stripped]
  by_cases empty : strip value = []
  · rw [normalizePhoneNumber, empty]
    rfl
  · rw [normalizePhoneNumber]
    dsimp only
    rw [if_neg empty]
    rfl

theorem filter_kept_spelling (value : Text) :
    (spelling value).filter (kept digits) = value.filter (kept digits) := by
  rw [spelling, List.filter_filter]
  refine List.filter_congr fun c _ => ?_
  cases separator : isSeparator c with
  | false => simp
  | true => rw [kept_of_isSeparator digits separator]; rfl

variable {number : Text} (all : ∀ c ∈ number, digits.isDigit c = true)

include all

theorem filter_isDigit_eq : number.filter digits.isDigit = number := List.filter_eq_self.mpr all

theorem filter_kept_eq : number.filter (kept digits) = number := by
  refine List.filter_eq_self.mpr fun c member => ?_
  rw [kept, all c member]
  rfl

variable (nonempty : number ≠ [])

include nonempty

theorem dialled_plus : dialled digits ('+' :: number) = '+' :: number := by
  have no_zeros : startsWith ('+' :: number) "00" = false := rfl
  have plus : startsWith ('+' :: number) "+" = true := rfl
  unfold dialled
  simp only [no_zeros, Bool.false_eq_true, if_false, plus, if_true, List.drop_one, List.tail_cons,
    filter_isDigit_eq digits all]
  rw [if_pos nonempty]

theorem dialled_zeros : dialled digits ('0' :: '0' :: number) = '+' :: number := by
  have zeros : startsWith ('0' :: '0' :: number) "00" = true := rfl
  have plus : startsWith ('+' :: number) "+" = true := rfl
  unfold dialled
  simp only [zeros, if_true, List.drop_succ_cons, List.drop_zero, plus,
    filter_isDigit_eq digits all]
  rw [if_pos nonempty]

omit nonempty in
theorem dialled_zero (head : number.head? ≠ some '0') :
    dialled digits ('0' :: number) = ("+49" : Text) ++ number := by
  have no_zeros : startsWith ('0' :: number) "00" = false := by
    cases number with
    | nil => rfl
    | cons c rest =>
        have apart : '0' ≠ c := fun same => head (by rw [same]; rfl)
        rw [Bool.eq_false_iff, ne_eq, startsWith_iff]
        rintro ⟨tail, same⟩
        exact apart (List.cons.inj (List.cons.inj same).2).1
  have no_plus : startsWith ('0' :: number) "+" = false := rfl
  have zero : startsWith ('0' :: number) "0" = true := rfl
  have filtered : ('0' :: number).filter digits.isDigit = '0' :: number := by
    rw [List.filter_cons_of_pos (zero_isDigit digits), filter_isDigit_eq digits all]
  unfold dialled
  simp only [no_zeros, Bool.false_eq_true, if_false, no_plus, filtered, reduceCtorEq, zero, if_true,
    List.drop_one, List.tail_cons]

end Digits

section Normal

variable (digits : DecimalDigits)

theorem dialled_shape (cleaned : Text) : dialled digits cleaned = [] ∨
    ∃ number, number ≠ [] ∧ (∀ c ∈ number, digits.isDigit c = true) ∧
      dialled digits cleaned = '+' :: number := by
  have digit_of_mem {text : Text} : ∀ c ∈ text.filter digits.isDigit, digits.isDigit c = true :=
    fun c member => (List.mem_filter.mp member).2
  unfold dialled
  generalize (if startsWith cleaned "00" = true then '+' :: cleaned.drop 2 else cleaned) = cleaned
  dsimp only
  split_ifs with plus some none zero
  · exact .inr ⟨_, some, digit_of_mem, rfl⟩
  · exact .inl rfl
  · exact .inl rfl
  · refine .inr ⟨'4' :: '9' :: (cleaned.filter digits.isDigit).drop 1, by simp, ?_, rfl⟩
    intro c member
    rcases List.mem_cons.mp member with rfl | member
    · exact digits.ascii '4' (by decide)
    rcases List.mem_cons.mp member with rfl | member
    · exact digits.ascii '9' (by decide)
    exact digit_of_mem c (List.mem_of_mem_drop member)
  · exact .inr ⟨_, none, digit_of_mem, rfl⟩

theorem normalizePhoneNumber_plus {number : Text} (all : ∀ c ∈ number, digits.isDigit c = true)
    (nonempty : number ≠ []) : normalizePhoneNumber digits ('+' :: number) = '+' :: number := by
  have plus : kept digits '+' = true := by simp [kept]
  rw [normalizePhoneNumber_eq, List.filter_cons_of_pos plus, filter_kept_eq digits all,
    dialled_plus digits all nonempty]

theorem normalizePhoneNumber_idempotent (value : Text) :
    normalizePhoneNumber digits (normalizePhoneNumber digits value) =
      normalizePhoneNumber digits value := by
  rcases dialled_shape digits (value.filter (kept digits)) with empty
    | ⟨number, nonempty, all, same⟩
  · rw [← normalizePhoneNumber_eq] at empty
    rw [empty]
    rfl
  · rw [← normalizePhoneNumber_eq] at same
    rw [same, normalizePhoneNumber_plus digits all nonempty]

theorem normalizePhoneNumber_of_spelling {value written : Text} (spelled : spelling value = written)
    (all : ∀ c ∈ written, kept digits c = true) :
    normalizePhoneNumber digits value = dialled digits written := by
  rw [normalizePhoneNumber_eq, ← filter_kept_spelling, spelled, List.filter_eq_self.mpr all]

/-- Normalising is idempotent.  A leading zero, `+49` and `0049` before a number that does not start
with a zero give one normal form, and so does `+49(0)`, which keeps its zero. -/
theorem normalizePhoneNumber_spellings :
    (∀ value, normalizePhoneNumber digits (normalizePhoneNumber digits value) =
      normalizePhoneNumber digits value) ∧
    ∀ number : Text, number ≠ [] → (∀ c ∈ number, digits.isDigit c = true) →
      number.head? ≠ some '0' → ∀ value,
      (spelling value = ("0" : Text) ++ number ∨ spelling value = ("+49" : Text) ++ number ∨
        spelling value = ("0049" : Text) ++ number →
          normalizePhoneNumber digits value = ("+49" : Text) ++ number) ∧
      (spelling value = ("+490" : Text) ++ number →
        normalizePhoneNumber digits value = ("+490" : Text) ++ number) := by
  refine ⟨normalizePhoneNumber_idempotent digits, fun number nonempty all head value => ?_⟩
  have zero := zero_isDigit digits
  have four : digits.isDigit '4' = true := digits.ascii '4' (by decide)
  have nine : digits.isDigit '9' = true := digits.ascii '9' (by decide)
  have country : ∀ c ∈ '4' :: '9' :: number, digits.isDigit c = true := by
    simpa [four, nine] using all
  have trunk : ∀ c ∈ '4' :: '9' :: '0' :: number, digits.isDigit c = true := by
    simpa [four, nine, zero] using all
  have all_kept {text : Text} (all : ∀ c ∈ text, digits.isDigit c = true) :
      ∀ c ∈ text, kept digits c = true := fun c member => by rw [kept, all c member]; rfl
  have plus_kept : kept digits '+' = true := by simp [kept]
  have zero_kept : kept digits '0' = true := by simp [kept, zero]
  constructor
  · rintro (spelled | spelled | spelled)
    · rw [normalizePhoneNumber_of_spelling digits spelled
        (List.forall_mem_cons.mpr ⟨zero_kept, all_kept all⟩)]
      exact dialled_zero digits all head
    · rw [normalizePhoneNumber_of_spelling digits spelled
        (List.forall_mem_cons.mpr ⟨plus_kept, all_kept country⟩)]
      exact dialled_plus digits country (List.cons_ne_nil _ _)
    · rw [normalizePhoneNumber_of_spelling digits spelled (List.forall_mem_cons.mpr
        ⟨zero_kept, List.forall_mem_cons.mpr ⟨zero_kept, all_kept country⟩⟩)]
      exact dialled_zeros digits country (List.cons_ne_nil _ _)
  · intro spelled
    rw [normalizePhoneNumber_of_spelling digits spelled
      (List.forall_mem_cons.mpr ⟨plus_kept, all_kept trunk⟩)]
    exact dialled_plus digits trunk (List.cons_ne_nil _ _)

end Normal

theorem normalizePhoneNumber_spellings_berlin :
    normalizePhoneNumber .onAscii "(030) 1234-5" = ("+493012345" : Text) :=
  ((normalizePhoneNumber_spellings .onAscii).2 "3012345" (by decide)
    (List.all_eq_true.mp
      (show ("3012345" : Text).all DecimalDigits.onAscii.isDigit = true by decide))
    (by decide)
    "(030) 1234-5").1 (.inl (by decide))

/-- The zero in brackets makes another number. -/
theorem zero_in_brackets_kept :
    normalizePhoneNumber .onAscii "+49(0)30 1234-5" = ("+4903012345" : Text) ∧
      normalizePhoneNumber .onAscii "030 1234-5" = ("+493012345" : Text) := by
  decide

end SkillCentric.Crm
