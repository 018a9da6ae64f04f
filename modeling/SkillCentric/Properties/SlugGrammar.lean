import SkillCentric.Runtime.SlugFixpoints

/-!
# The grammar of slugs

A slug starts with a letter and consists of words with single hyphens between them.  It begins with
its lead, as far as the lead fits into 96 characters, and slugging it again changes nothing.
-/

namespace SkillCentric

open Slug

namespace Slug

theorem Hyphenated.no_double {inRun : Bool} {text : Text} (hyphenated : Hyphenated inRun text) :
    ¬['-', '-'] <:+: text := by
  induction text generalizing inRun with
  | nil => simp
  | cons c rest ih =>
      unfold Hyphenated at hyphenated
      intro double
      rcases List.infix_cons_iff.mp double with front | later
      · obtain ⟨tail, same⟩ := front
        obtain ⟨rfl, rfl⟩ := List.cons.inj same
        rw [if_neg (by decide)] at hyphenated
        have second : Hyphenated true ('-' :: tail) := hyphenated.2.2
        rw [Hyphenated, if_neg (by decide)] at second
        exact absurd second.2.1 (by decide)
      · split at hyphenated
        · exact ih hyphenated later
        · exact ih hyphenated.2.2 later

theorem isPrefix_rdropWhile {front text : Text} (begins : front <+: text)
    (last : ∀ c ∈ front.getLast?, c ≠ '-') : front <+: text.rdropWhile (· == '-') := by
  obtain ⟨back, rfl⟩ := begins
  rcases List.eq_nil_or_concat' front with rfl | ⟨start, c, rfl⟩
  · exact List.nil_prefix
  · have kept : ¬(c == '-') = true := by
      have char := last c (by simp)
      simpa using char
    induction back using List.reverseRecOn with
    | nil =>
        rw [List.append_nil, List.rdropWhile_concat_neg (· == '-') _ _ kept]
    | append_singleton back d ih =>
        rw [← List.append_assoc]
        by_cases hyphen : (d == '-') = true
        · rw [List.rdropWhile_concat_pos (· == '-') _ _ hyphen]
          exact ih
        · rw [List.rdropWhile_concat_neg (· == '-') _ _ hyphen, List.append_assoc]
          exact List.prefix_append _ _

theorem ne_hyphen_of_isLetter {c : Char} (letter : isLetter c = true) : c ≠ '-' := by
  rintro rfl
  exact absurd letter (by decide)

theorem isWord_of_letters {lead : Text} (letters : ∀ c ∈ lead, isLetter c) :
    lead = [] ∨ IsWord lead := by
  by_cases empty : lead = []
  · exact .inl empty
  · refine .inr ⟨empty, fun c member => ?_⟩
    simp [isWordChar, letters c member]

end Slug

section Lead

variable (value : Text) {lead : Text}

theorem slugStem_head (letters : ∀ c ∈ lead, isLetter c) :
    ∃ first rest, slugStem value lead = first :: rest ∧ isLetter first = true := by
  rw [slugStem_eq]
  dsimp only
  generalize (if normal value = [] then ("item" : Text) else normal value) = slug
  have lettered : ∃ first rest,
      (if slug.head?.any isLetter then slug else ("id-" : Text) ++ slug) = first :: rest ∧
        isLetter first = true := by
    split_ifs with letter
    · cases slug with
      | nil => cases letter
      | cons first rest => exact ⟨first, rest, rfl, letter⟩
    · exact ⟨'i', 'd' :: '-' :: slug, rfl, by decide⟩
  generalize (if slug.head?.any isLetter then slug else ("id-" : Text) ++ slug) = slug at lettered ⊢
  split_ifs with led
  · obtain ⟨first, rest, rfl⟩ := List.exists_cons_of_ne_nil led.1
    exact ⟨first, _, rfl, letters first List.mem_cons_self⟩
  · exact lettered

theorem lead_isPrefix_slugStem (lead_ne : lead ≠ []) : lead ++ ['-'] <+: slugStem value lead := by
  obtain ⟨slug, stem_eq⟩ := exists_slugStem value lead
  rw [stem_eq]
  split_ifs with led
  · exact ⟨slug, by simp⟩
  · by_contra unled
    exact led ⟨lead_ne, fun begins => unled ((startsWith_iff _ _).mp begins)⟩

variable (letters : ∀ c ∈ lead, isLetter c)

include letters

private theorem slugId_eq_rdropWhile :
    slugId value lead = ((slugStem value lead).take 96).rdropWhile (· == '-') := by
  obtain ⟨first, rest, stem_eq, letter⟩ := slugStem_head value letters
  have first_ne := ne_hyphen_of_isLetter letter
  rw [slugId, stripChars, stem_eq, List.take_succ_cons, List.dropWhile_cons,
    if_neg (by simpa using first_ne)]

theorem isPrefix_slugId {front : Text} (begins : front <+: slugStem value lead)
    (fits : front.length ≤ 96) (last : ∀ c ∈ front.getLast?, c ≠ '-') :
    front <+: slugId value lead := by
  rw [slugId_eq_rdropWhile value letters]
  exact isPrefix_rdropWhile (List.prefix_take_iff.mpr ⟨begins, fits⟩) last

theorem lead_take_isPrefix_slugId : lead.take 96 <+: slugId value lead := by
  by_cases empty : lead = []
  · rw [empty]
    exact List.nil_prefix
  · have begins : lead.take 96 <+: slugStem value lead :=
      ((List.take_prefix 96 lead).trans (List.prefix_append lead ['-'])).trans
        (lead_isPrefix_slugStem value empty)
    refine isPrefix_slugId value letters begins (List.length_take_le 96 lead) ?_
    intro c member
    exact ne_hyphen_of_isLetter (letters c (List.mem_of_mem_take (List.mem_of_getLast? member)))

theorem slugId_head_letter :
    ∃ first rest, slugId value lead = first :: rest ∧ isLetter first = true := by
  obtain ⟨first, rest, stem_eq, letter⟩ := slugStem_head value letters
  have begins : [first] <+: slugId value lead := by
    refine isPrefix_slugId value letters (by rw [stem_eq]; exact ⟨rest, rfl⟩) (by simp) ?_
    intro c member
    obtain rfl : first = c := by simpa using member
    exact ne_hyphen_of_isLetter letter
  obtain ⟨tail, slug_eq⟩ := begins
  exact ⟨first, tail, slug_eq.symm, letter⟩

theorem slugId_of_long_lead (long : 95 ≤ lead.length) : slugId value lead = lead.take 96 := by
  have lead_ne : lead ≠ [] := by
    rintro rfl
    exact absurd long (by decide)
  have bound := slugId_length value lead
  obtain ⟨tail, slug_eq⟩ := lead_take_isPrefix_slugId value letters
  have length := congrArg List.length slug_eq
  rw [List.length_append, List.length_take] at length
  by_cases cut : 96 ≤ lead.length
  · have none : tail = [] := List.length_eq_zero_iff.mp (by omega)
    rw [← slug_eq, none, List.append_nil]
  · -- one character is left, the hyphen after the lead
    have whole : lead.take 96 = lead := List.take_of_length_le (by omega)
    rw [whole] at slug_eq ⊢
    rcases tail with _ | ⟨c, rest⟩
    · rw [← slug_eq, List.append_nil]
    · have single : rest = [] := by
        rw [List.length_cons] at length
        exact List.length_eq_zero_iff.mp (by omega)
      subst single
      have begins : lead ++ [c] <+: slugStem value lead := by
        rw [slug_eq]
        exact slugId_isPrefix value (isWord_of_letters letters)
      have same := List.prefix_of_prefix_length_le begins (lead_isPrefix_slugStem value lead_ne)
        (by simp)
      have hyphen : c = '-' := by simpa using same
      have last := (slugId_trimmed value (isWord_of_letters letters)).2.2 c (by
        rw [← slug_eq, List.getLast?_concat]
        rfl)
      exact absurd hyphen last

theorem lead_hyphen_isPrefix_slugId (lead_ne : lead ≠ []) (short : lead.length ≤ 94) :
    lead ++ ['-'] <+: slugId value lead := by
  have lead_word := isWord_of_letters letters
  obtain ⟨tail, stem_eq⟩ := lead_isPrefix_slugStem value lead_ne
  have trimmed := slugStem_trimmed value lead_word
  rcases tail with _ | ⟨c, rest⟩
  · rw [List.append_nil] at stem_eq
    exact absurd rfl (trimmed.2.2 '-' (by rw [← stem_eq, List.getLast?_concat]; rfl))
  · have no_hyphen : c ≠ '-' := by
      rintro rfl
      refine (slugStem_hyphenated value lead_word).no_double ⟨lead, rest, ?_⟩
      rw [← stem_eq]
      simp
    have begins : lead ++ ['-', c] <+: slugStem value lead := ⟨rest, by rw [← stem_eq]; simp⟩
    have kept := isPrefix_slugId value letters begins (by simp; omega) (by
      intro d member
      obtain rfl : c = d := by simpa using member
      exact no_hyphen)
    exact (List.prefix_append (lead ++ ['-']) [c]).trans (by simpa using kept)

theorem slugId_slugId_lead : slugId (slugId value lead) lead = slugId value lead := by
  have lead_word := isWord_of_letters letters
  by_cases long : 95 ≤ lead.length
  · rw [slugId_of_long_lead _ letters long, slugId_of_long_lead _ letters long]
  · obtain ⟨first, rest, slug_eq, letter⟩ := slugId_head_letter value letters
    have slug_ne := slugId_ne_nil value lead_word
    have led : ¬(lead ≠ [] ∧ ¬startsWith (slugId value lead) (lead ++ ['-'])) := by
      rintro ⟨lead_ne, unled⟩
      exact unled ((startsWith_iff _ _).mpr
        (lead_hyphen_isPrefix_slugId value letters lead_ne (by omega)))
    have stem_eq : slugStem (slugId value lead) lead = slugId value lead := by
      rw [slugStem_eq, normal_slugId value lead_word, if_neg slug_ne]
      dsimp only
      rw [if_pos (show (slugId value lead).head?.any isLetter = true by rw [slug_eq]; exact letter),
        if_neg led]
    rw [slugId_eq_stem lead_word (by rw [stem_eq]; exact slugId_length value lead), stem_eq]

/-- A slug with a lead of letters has at most 96 characters, a letter and then letters, digits and
single hyphens, none of them at its end; it begins with the lead cut to 96 characters, and slugging
it again with this lead changes nothing. -/
theorem slugId_grammar :
    (∃ first rest, slugId value lead = first :: rest ∧ isLetter first = true ∧
        ∀ c ∈ rest, isWordChar c ∨ c = '-') ∧
      (slugId value lead).length ≤ 96 ∧ ¬['-', '-'] <:+: slugId value lead ∧
      (slugId value lead).getLast? ≠ some '-' ∧ lead.take 96 <+: slugId value lead ∧
      slugId (slugId value lead) lead = slugId value lead := by
  have lead_word := isWord_of_letters letters
  obtain ⟨first, rest, slug_eq, letter⟩ := slugId_head_letter value letters
  have hyphenated : Hyphenated false (slugId value lead) :=
    (slugStem_hyphenated value lead_word).of_lead (slugId_isPrefix value lead_word)
  refine ⟨⟨first, rest, slug_eq, letter, fun c member => ?_⟩, slugId_length value lead,
    hyphenated.no_double, fun last => ?_, lead_take_isPrefix_slugId value letters,
    slugId_slugId_lead value letters⟩
  · exact hyphenated.char c (by rw [slug_eq]; exact List.mem_cons_of_mem _ member)
  · exact (slugId_trimmed value lead_word).2.2 '-' last rfl

end Lead

theorem slugId_grammar_task : ("task" : Text) <+: slugId "Tenant under test: review #7" "task" :=
  (slugId_grammar "Tenant under test: review #7"
    (List.all_eq_true.mp (show ("task" : Text).all isLetter = true by decide))).2.2.2.2.1

/-- A lead of 97 letters does not fit. -/
theorem long_lead_cut : ¬List.replicate 97 'a' <+: slugId [] (List.replicate 97 'a') := by
  decide

end SkillCentric
