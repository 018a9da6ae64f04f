import SkillCentric.Runtime.SlugFixpoints
import SkillCentric.Runtime.Timestamp

/-!
# Names with an index

File names and identifiers of a run end in a word or start with a padded index.  As long as such a
name is not cut, its words can be read off its slug.
-/

namespace SkillCentric

open Slug Datetime

theorem first_hyphen_split {before after front back : Text} (front_free : '-' ∉ front)
    (back_free : '-' ∉ back) (same : front ++ '-' :: before = back ++ '-' :: after) :
    front = back ∧ before = after := by
  rcases List.append_eq_append_iff.mp same with ⟨extra, rfl, tail⟩ | ⟨extra, rfl, tail⟩
  · cases extra with
    | nil => simpa using tail
    | cons c extra =>
        simp only [List.cons_append, List.cons.injEq] at tail
        exact (back_free (by simp [← tail.1])).elim
  · cases extra with
    | nil => simpa [eq_comm] using tail
    | cons c extra =>
        simp only [List.cons_append, List.cons.injEq] at tail
        exact (front_free (by simp [← tail.1])).elim

/-- The value of a row of digits. -/
def digitsValue (digits : Text) : Nat := Nat.ofDigitChars 10 digits 0

theorem digitsValue_padded (width n : Nat) : digitsValue (padded width n) = n := by
  unfold digitsValue padded
  generalize width - (decimal n).length = zeros
  induction zeros with
  | zero => exact Nat.ofDigitChars_ten_toDigits
  | succ zeros ih =>
      rw [List.replicate_succ, List.cons_append, Nat.ofDigitChars_cons]
      exact ih

theorem padded_injective (width : Nat) : Function.Injective (padded width) := by
  intro left right same
  rw [← digitsValue_padded width left, same, digitsValue_padded]

theorem padded_isWord (width n : Nat) : IsWord (padded width n) := by
  have digits := decimal_isWord n
  refine ⟨by simp [padded, digits.1], ?_⟩
  intro c member
  rw [padded, List.mem_append] at member
  rcases member with zero | digit
  · rw [(List.mem_replicate.mp zero).2]
    decide
  · exact digits.2 c digit

theorem isLetter_of_mem_padded {width n : Nat} {c : Char} (member : c ∈ padded width n) :
    isLetter c = false := by
  rw [padded, List.mem_append] at member
  rcases member with zero | digit
  · rw [(List.mem_replicate.mp zero).2]
    decide
  · have digit := Nat.isDigit_of_mem_toDigits (b := 10) (by decide) (by decide) digit
    simp only [Char.isDigit, Bool.and_eq_true, decide_eq_true_eq] at digit
    have below : ¬ 'a' ≤ c := fun letter =>
      absurd (le_trans letter digit.2) (by decide)
    simp [isLetter, below]

theorem slugStem_padded (width n : Nat) {rest : Text} (rest_ne : normal rest ≠ []) :
    slugStem (padded width n ++ '-' :: rest) [] =
      ("id-" : Text) ++ (padded width n ++ '-' :: normal rest) := by
  have is_word := padded_isWord width n
  have number : normal (padded width n) = padded width n := normal_of_word is_word
  rw [slugStem_eq, normal_append (by rw [number]; exact is_word.1) rest_ne, number]
  obtain ⟨first, digits, padded_eq⟩ := List.exists_cons_of_ne_nil is_word.1
  have digit : isLetter first = false :=
    isLetter_of_mem_padded (show first ∈ padded width n by simp [padded_eq])
  rw [padded_eq]
  simp [digit]

theorem slugId_padded_inj {width m n : Nat} {left right : Text} (left_ne : normal left ≠ [])
    (right_ne : normal right ≠ [])
    (left_fits : (slugStem (padded width m ++ '-' :: left) []).length ≤ 96)
    (right_fits : (slugStem (padded width n ++ '-' :: right) []).length ≤ 96)
    (same : slugId (padded width m ++ '-' :: left) = slugId (padded width n ++ '-' :: right)) :
    m = n ∧ normal left = normal right := by
  rw [slugId_eq_stem (.inl rfl) left_fits, slugId_eq_stem (.inl rfl) right_fits,
    slugStem_padded width m left_ne, slugStem_padded width n right_ne] at same
  obtain ⟨numbers, rests⟩ := first_hyphen_split
    (hyphen_notMem_of_isWord (padded_isWord width m))
    (hyphen_notMem_of_isWord (padded_isWord width n)) (List.append_cancel_left same)
  exact ⟨padded_injective width numbers, rests⟩

theorem slugStem_word (value : Text) {word lead : Text} (is_word : IsWord word)
    (lead_word : IsWord lead) :
    ∃ before, slugStem (value ++ '-' :: word) lead = before ++ '-' :: word := by
  rw [slugStem_eq]
  dsimp only
  have word_normal : normal word = word := normal_of_word is_word
  have word_ne : normal word ≠ [] := by
    rw [word_normal]
    exact is_word.1
  have lead_free := hyphen_notMem_of_isWord lead_word
  by_cases value_ne : normal value = []
  · rw [normal_append_of_empty value_ne, if_neg word_ne, word_normal]
    by_cases letter : word.head?.any isLetter = true
    · rw [if_pos letter, if_pos]
      · exact ⟨lead, rfl⟩
      · refine ⟨lead_word.1, fun starts => ?_⟩
        obtain ⟨tail, equal⟩ := (startsWith_iff _ _).mp starts
        exact hyphen_notMem_of_isWord is_word (by simp [← equal])
    · rw [if_neg letter]
      split
      · exact ⟨lead ++ ("-id" : Text), by simp⟩
      · exact ⟨("id" : Text), by simp⟩
  · have joined_ne : normal value ++ '-' :: word ≠ [] := by simp
    rw [normal_append value_ne word_ne, word_normal]
    simp only [if_neg joined_ne]
    generalize lettered : (if (normal value ++ '-' :: word).head?.any isLetter = true then
      normal value ++ '-' :: word else ("id-" : Text) ++ (normal value ++ '-' :: word)) = slug
    have shape : ∃ before, slug = before ++ '-' :: word := by
      rw [← lettered]
      split
      · exact ⟨_, rfl⟩
      · exact ⟨("id-" : Text) ++ normal value, by simp⟩
    obtain ⟨before, rfl⟩ := shape
    split
    · exact ⟨lead ++ '-' :: before, by simp⟩
    · exact ⟨before, rfl⟩

theorem slugId_word_inj {leftValue rightValue left right lead : Text} (left_word : IsWord left)
    (right_word : IsWord right) (lead_word : IsWord lead)
    (left_fits : (slugStem (leftValue ++ '-' :: left) lead).length ≤ 96)
    (right_fits : (slugStem (rightValue ++ '-' :: right) lead).length ≤ 96)
    (same : slugId (leftValue ++ '-' :: left) lead = slugId (rightValue ++ '-' :: right) lead) :
    left = right := by
  rw [slugId_eq_stem (.inr lead_word) left_fits, slugId_eq_stem (.inr lead_word) right_fits] at same
  obtain ⟨left_before, left_eq⟩ := slugStem_word leftValue left_word lead_word
  obtain ⟨right_before, right_eq⟩ := slugStem_word rightValue right_word lead_word
  rw [left_eq, right_eq] at same
  exact (last_hyphen_split (hyphen_notMem_of_isWord left_word)
    (hyphen_notMem_of_isWord right_word) same).2

theorem slugId_slugId_word (value : Text) {lead word : Text} {first : Char}
    (lead_word : IsWord lead)
    (head : lead.head? = some first) (letter : isLetter first) (is_word : IsWord word)
    (fits : (slugId value lead).length + 1 + word.length ≤ 96) :
    slugId (slugId value lead ++ '-' :: word) = slugId value lead ++ '-' :: word := by
  have slug_ne := slugId_ne_nil value (.inr lead_word)
  have slug_normal := normal_slugId value (.inr lead_word)
  have slug_head : (slugId value lead).head? = some first :=
    (slugId_head? value lead_word).trans head
  have joined : normal (slugId value lead ++ '-' :: word) = slugId value lead ++ '-' :: word := by
    rw [normal_append (by rw [slug_normal]; exact slug_ne)
      (by rw [normal_of_word is_word]; exact is_word.1), slug_normal, normal_of_word is_word]
  have stem :
      slugStem (slugId value lead ++ '-' :: word) [] = slugId value lead ++ '-' :: word := by
    rw [slugStem_eq, joined]
    have joined_head : (slugId value lead ++ '-' :: word).head? = some first := by
      rw [List.head?_append_of_ne_nil _ slug_ne, slug_head]
    simp [joined_head, letter]
  rw [slugId_eq_stem (.inl rfl), stem]
  rw [stem, List.length_append, List.length_cons]
  omega

end SkillCentric
