import SkillCentric.Runtime.Slug

/-!
# Slugs of slugs

A slug consists of words joined by single hyphens, so slugging it again changes nothing.  The
identifiers that are built from a queue identifier keep it whole.
-/

namespace SkillCentric

open Slug

namespace Slug

/-- Word characters with single hyphens between them; `inRun` tells that a hyphen stands before. -/
def Hyphenated : Bool → Text → Prop
  | _, [] => True
  | inRun, c :: rest =>
      if isWordChar c then Hyphenated false rest
      else c = '-' ∧ inRun = false ∧ Hyphenated true rest

variable {inRun : Bool}

/-- Hyphenated text is as `hyphenateRuns` leaves it. -/
theorem Hyphenated.fixed {text : Text} (hyphenated : Hyphenated inRun text) :
    hyphenateRuns isWordChar inRun text = text := by
  induction text generalizing inRun with
  | nil => rfl
  | cons c rest ih =>
      unfold Hyphenated at hyphenated
      unfold hyphenateRuns
      by_cases word : isWordChar c
      · rw [if_pos word] at hyphenated ⊢
        rw [ih hyphenated]
      · rw [if_neg word] at hyphenated ⊢
        obtain ⟨rfl, rfl, later⟩ := hyphenated
        rw [if_neg (by decide), ih later]

theorem Hyphenated.casefold {text : Text} (hyphenated : Hyphenated inRun text) :
    casefold text = text := by
  induction text generalizing inRun with
  | nil => rfl
  | cons c rest ih =>
      unfold Hyphenated at hyphenated
      have rest_fixed : Slug.casefold rest = rest := by
        split at hyphenated
        · exact ih hyphenated
        · exact ih hyphenated.2.2
      have first_fixed : casefoldChar c = [c] := by
        split at hyphenated
        · rename_i word
          exact casefoldChar_of_isWordChar word
        · rw [hyphenated.1]
          decide
      unfold Slug.casefold at rest_fixed ⊢
      rw [List.flatMap_cons, first_fixed, rest_fixed]
      rfl

theorem Hyphenated.of_append {left right : Text}
    (hyphenated : Hyphenated inRun (left ++ right)) : Hyphenated inRun left := by
  induction left generalizing inRun with
  | nil => trivial
  | cons c rest ih =>
      rw [List.cons_append] at hyphenated
      unfold Hyphenated at hyphenated ⊢
      by_cases word : isWordChar c
      · rw [if_pos word] at hyphenated ⊢
        exact ih hyphenated
      · rw [if_neg word] at hyphenated ⊢
        exact ⟨hyphenated.1, hyphenated.2.1, ih hyphenated.2.2⟩

theorem Hyphenated.of_lead {text start : Text}
    (hyphenated : Hyphenated inRun text) (begins : start <+: text) : Hyphenated inRun start := by
  obtain ⟨tail, rfl⟩ := begins
  exact hyphenated.of_append

theorem Hyphenated.word_append {word rest : Text} (is_word : IsWord word)
    (hyphenated : Hyphenated true rest) : Hyphenated inRun (word ++ '-' :: rest) := by
  obtain ⟨word_ne, chars⟩ := is_word
  induction word generalizing inRun with
  | nil => exact (word_ne rfl).elim
  | cons c word ih =>
      have first : isWordChar c := chars c (by simp)
      rw [List.cons_append]
      unfold Hyphenated
      rw [if_pos first]
      cases word with
      | nil =>
          rw [List.nil_append]
          unfold Hyphenated
          rw [if_neg (by decide)]
          exact ⟨rfl, rfl, hyphenated⟩
      | cons d word =>
          exact ih (by simp) fun e member => chars e (by simp [member])

theorem hyphenated_of_word {word : Text} (chars : ∀ c ∈ word, isWordChar c) :
    Hyphenated inRun word := by
  induction word generalizing inRun with
  | nil => trivial
  | cons c word ih =>
      unfold Hyphenated
      rw [if_pos (chars c (by simp))]
      exact ih fun d member => chars d (by simp [member])

theorem hyphenated_hyphenJoin {parts : List Text}
    (are_words : ∀ word ∈ parts, IsWord word) : Hyphenated inRun (hyphenJoin parts) := by
  induction parts generalizing inRun with
  | nil => trivial
  | cons word rest ih =>
      have is_word := are_words word (by simp)
      have rest_words : ∀ other ∈ rest, IsWord other := fun other member =>
        are_words other (by simp [member])
      by_cases rest_ne : rest = []
      · rw [rest_ne, hyphenJoin_singleton]
        exact hyphenated_of_word is_word.2
      · rw [hyphenJoin_cons word rest_ne]
        exact Hyphenated.word_append is_word (ih rest_words)

theorem normal_hyphenated (value : Text) : Hyphenated inRun (normal value) :=
  hyphenated_hyphenJoin (words_isWord value)

end Slug

variable {lead : Text} (value : Text)

theorem slugStem_hyphenated (lead_word : lead = [] ∨ IsWord lead) :
    Hyphenated false (slugStem value lead) := by
  rw [slugStem_eq]
  dsimp only
  have base :
      ∀ inRun, Hyphenated inRun (if normal value = [] then ("item" : Text) else normal value) := by
    intro inRun
    split_ifs with empty
    · exact hyphenated_of_word (List.all_eq_true.mp (by decide))
    · exact normal_hyphenated value
  generalize (if normal value = [] then ("item" : Text) else normal value) = slug at base ⊢
  have lettered : ∀ inRun, Hyphenated inRun
      (if slug.head?.any isLetter then slug else ("id-" : Text) ++ slug) := by
    intro inRun
    split_ifs
    · exact base inRun
    · have id_word : IsWord ("id" : Text) := by decide
      exact Hyphenated.word_append id_word (base true)
  generalize (if slug.head?.any isLetter then slug else ("id-" : Text) ++ slug) = slug at lettered ⊢
  rcases lead_word with rfl | is_word
  · simpa using lettered false
  · split_ifs
    · exact Hyphenated.word_append is_word (lettered true)
    · exact lettered false

theorem slugId_isPrefix (lead_word : lead = [] ∨ IsWord lead) :
    slugId value lead <+: slugStem value lead := by
  obtain ⟨stem_ne, stem_head, -⟩ := slugStem_trimmed value lead_word
  obtain ⟨first, rest, stem_eq⟩ := List.exists_cons_of_ne_nil stem_ne
  have first_ne : first ≠ '-' := stem_head first (by simp [stem_eq])
  rw [slugId, stem_eq, stripChars, List.take_succ_cons, List.dropWhile_cons,
    if_neg (by simpa using first_ne)]
  refine (List.rdropWhile_prefix _ _).trans ?_
  rw [List.cons_prefix_cons]
  exact ⟨rfl, List.take_prefix _ _⟩

theorem slugId_length (value lead : Text) : (slugId value lead).length ≤ 96 := by
  have stripped := (List.rdropWhile_prefix (· == '-')
    (((slugStem value lead).take 96).dropWhile (· == '-'))).length_le
  have dropped := (List.dropWhile_suffix (· == '-')
    (l := (slugStem value lead).take 96)).length_le
  have taken := List.length_take_le 96 (slugStem value lead)
  unfold slugId stripChars
  omega

theorem slugId_trimmed (lead_word : lead = [] ∨ IsWord lead) :
    Trimmed (slugId value lead) := by
  have slug_ne := slugId_ne_nil value lead_word
  refine ⟨slug_ne, ?_, ?_⟩
  · intro c head
    obtain ⟨tail, stem_eq⟩ := slugId_isPrefix value lead_word
    have stem_head : c ∈ (slugStem value lead).head? := by
      rw [← stem_eq, List.head?_append_of_ne_nil _ slug_ne]
      exact head
    exact (slugStem_trimmed value lead_word).2.1 c stem_head
  · intro c last
    unfold slugId stripChars at last slug_ne
    have not_hyphen := List.rdropWhile_last_not _ _ slug_ne
    rw [List.getLast?_eq_some_getLast slug_ne] at last
    cases last
    simpa using not_hyphen

theorem normal_slugId (lead_word : lead = [] ∨ IsWord lead) :
    normal (slugId value lead) = slugId value lead := by
  have hyphenated : Hyphenated false (slugId value lead) :=
    (slugStem_hyphenated value lead_word).of_lead (slugId_isPrefix value lead_word)
  calc normal (slugId value lead)
      = stripChars (· == '-') (hyphenateRuns isWordChar false (casefold (slugId value lead))) :=
        (strip_hyphenateRuns _).symm
    _ = stripChars (· == '-') (slugId value lead) := by
        rw [hyphenated.casefold, hyphenated.fixed]
    _ = slugId value lead := (slugId_trimmed value lead_word).strip

theorem Slug.Hyphenated.char {inRun : Bool} {text : Text} (hyphenated : Hyphenated inRun text) :
    ∀ c ∈ text, isWordChar c ∨ c = '-' := by
  induction text generalizing inRun with
  | nil => simp
  | cons first rest ih =>
      unfold Hyphenated at hyphenated
      intro c member
      rw [List.mem_cons] at member
      split at hyphenated
      · rename_i word
        rcases member with rfl | later
        · exact .inl word
        · exact ih hyphenated c later
      · rcases member with rfl | later
        · exact .inr hyphenated.1
        · exact ih hyphenated.2.2 c later

theorem slugId_char (lead_word : lead = [] ∨ IsWord lead) :
    ∀ c ∈ slugId value lead, isWordChar c ∨ c = '-' :=
  ((slugStem_hyphenated value lead_word).of_lead (slugId_isPrefix value lead_word) :
    Hyphenated false (slugId value lead)).char

theorem dot_notMem_slugId (lead_word : lead = [] ∨ IsWord lead) :
    '.' ∉ slugId value lead := by
  intro member
  have char := slugId_char value lead_word '.' member
  revert char
  decide

theorem slash_notMem_slugId (lead_word : lead = [] ∨ IsWord lead) :
    '/' ∉ slugId value lead := by
  intro member
  have char := slugId_char value lead_word '/' member
  revert char
  decide

theorem slugId_head? (is_word : IsWord lead) :
    (slugId value lead).head? = lead.head? := by
  obtain ⟨first, rest, rfl⟩ := List.exists_cons_of_ne_nil is_word.1
  have stem_head : (slugStem value (first :: rest)).head? = some first := by
    obtain ⟨slug, stem_eq⟩ := exists_slugStem value (first :: rest)
    rw [stem_eq]
    by_cases led : startsWith slug (first :: rest ++ ['-'])
    · rw [if_neg fun unled => unled.2 led]
      obtain ⟨tail, slug_eq⟩ := (startsWith_iff _ _).mp led
      rw [← slug_eq]
      rfl
    · rw [if_pos ⟨by simp, led⟩]
      rfl
  obtain ⟨tail, stem_eq⟩ := slugId_isPrefix value (.inr is_word)
  have slug_ne := slugId_ne_nil value (.inr is_word)
  rw [← stem_eq, List.head?_append_of_ne_nil _ slug_ne] at stem_head
  rw [stem_head]
  rfl

section Lead

variable {lead : Text} {first : Char} (value : Text) (is_word : IsWord lead)
  (head : lead.head? = some first) (letter : isLetter first)

include is_word head letter

theorem slugId_slugId : slugId (slugId value lead) = slugId value lead := by
  have slug_ne := slugId_ne_nil value (.inr is_word)
  have stem_eq : slugStem (slugId value lead) [] = slugId value lead := by
    rw [slugStem_eq, normal_slugId value (.inr is_word), if_neg slug_ne]
    simp [slugId_head? value is_word, head, letter]
  rw [slugId_eq_stem (.inl rfl) (by rw [stem_eq]; exact slugId_length value lead), stem_eq]

theorem joinStem_slugId {other : Text} (other_head : other.head? ≠ some first)
    (other_ne : other ≠ []) :
    joinStem (slugId value lead) other = other ++ '-' :: slugId value lead := by
  have slug_ne := slugId_ne_nil value (.inr is_word)
  have slug_head : (slugId value lead).head? = some first := (slugId_head? value is_word).trans head
  have unequal : slugId value lead ≠ other := by
    intro equal
    rw [equal] at slug_head
    exact other_head slug_head
  have unled : ¬startsWith (slugId value lead) (other ++ ['-']) := by
    rw [startsWith_iff]
    rintro ⟨tail, equal⟩
    rw [← equal, List.append_assoc, List.head?_append_of_ne_nil _ other_ne] at slug_head
    exact other_head slug_head
  simp [joinStem, normal_slugId value (.inr is_word), slug_ne, slug_head, letter, unequal, unled]

end Lead

end SkillCentric
