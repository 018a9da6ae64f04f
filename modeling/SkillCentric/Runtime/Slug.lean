import Mathlib.Data.Char
import Mathlib.Data.List.DropRight
import Mathlib.Data.List.Lex
import Mathlib.Tactic

/-!
# Identifier slugs

`slugId` derives every identifier of the runtime plane from free text.  The text is case-folded,
each run of other characters becomes one hyphen, and the result is cut to 96 characters.  `words`
describes the result before the cut: the runs of lower-case letters and digits, joined by hyphens.
-/

namespace SkillCentric

/-- Texts are lists of code points. -/
abbrev Text := List Char

instance : Coe String Text := ⟨String.toList⟩

instance : LawfulBEq Text := inferInstance

/-- Decimal notation of a natural number. -/
def decimal (n : Nat) : Text := Nat.toDigits 10 n

namespace Slug

/-- Full case folding of one character, as far as `[a-z0-9]` can see it: characters whose folding
has no ASCII letter or digit are left alone. -/
def casefoldChar (c : Char) : Text :=
  if 'A' ≤ c ∧ c ≤ 'Z' then [Char.ofNat (c.toNat + 32)]
  else match c.toNat with
    | 0x00DF => ['s', 's']
    | 0x0130 => ['i', Char.ofNat 0x0307]
    | 0x0149 => [Char.ofNat 0x02BC, 'n']
    | 0x017F => ['s']
    | 0x01F0 => ['j', Char.ofNat 0x030C]
    | 0x1E96 => ['h', Char.ofNat 0x0331]
    | 0x1E97 => ['t', Char.ofNat 0x0308]
    | 0x1E98 => ['w', Char.ofNat 0x030A]
    | 0x1E99 => ['y', Char.ofNat 0x030A]
    | 0x1E9A => ['a', Char.ofNat 0x02BE]
    | 0x1E9E => ['s', 's']
    | 0x212A => ['k']
    | 0xFB00 => ['f', 'f']
    | 0xFB01 => ['f', 'i']
    | 0xFB02 => ['f', 'l']
    | 0xFB03 => ['f', 'f', 'i']
    | 0xFB04 => ['f', 'f', 'l']
    | 0xFB05 => ['s', 't']
    | 0xFB06 => ['s', 't']
    | _ => [c]

/-- `str.casefold`. -/
def casefold (value : Text) : Text := value.flatMap casefoldChar

/-- The character class `[a-z]`. -/
def isLetter (c : Char) : Bool := 'a' ≤ c && c ≤ 'z'

/-- The character class `[a-z0-9]`. -/
def isWordChar (c : Char) : Bool := isLetter c || ('0' ≤ c && c ≤ '9')

/-- Replace each maximal run of characters outside `keep` by one hyphen; `inRun` tells that the
run at hand has its hyphen already. -/
def hyphenateRuns (keep : Char → Bool) : Bool → Text → Text
  | _, [] => []
  | inRun, c :: rest =>
      if keep c then c :: hyphenateRuns keep false rest
      else if inRun then hyphenateRuns keep true rest
      else '-' :: hyphenateRuns keep true rest

/-- `str.strip` for a class of characters. -/
def stripChars (drop : Char → Bool) (value : Text) : Text :=
  (value.dropWhile drop).rdropWhile drop

/-- `str.startswith`. -/
def startsWith (value start : Text) : Bool := start.isPrefixOf value

end Slug

open Slug

/-- The slug before it is cut to its maximal length; an empty `lead` is no lead. -/
def slugStem (value lead : Text) : Text :=
  let slug := stripChars (· == '-') (hyphenateRuns isWordChar false (casefold value))
  let slug := hyphenateRuns (· != '-') false slug
  let slug := if slug = [] then ("item" : Text) else slug
  let slug := if slug.head?.any isLetter then slug else ("id-" : Text) ++ slug
  if lead ≠ [] ∧ ¬ startsWith slug (lead ++ ['-']) then lead ++ '-' :: slug else slug

/-- `slug_id(value, prefix=lead, max_length=maxLength)`. -/
def slugId (value : Text) (lead : Text := []) (maxLength : Nat := 96) : Text :=
  stripChars (· == '-') ((slugStem value lead).take maxLength)

example :
    slugId "Tenant under test: review #7" "task" = ("task-tenant-under-test-review-7" : Text) := by
  decide

namespace Slug

/-- The maximal runs of word characters, `current` being the run that is still open. -/
def wordsFrom (current : Text) : Text → List Text
  | [] => if current = [] then [] else [current]
  | c :: rest =>
      if isWordChar c then wordsFrom (current ++ [c]) rest
      else (if current = [] then [] else [current]) ++ wordsFrom [] rest

/-- The runs of lower-case letters and digits of a case-folded text. -/
def words (value : Text) : List Text := wordsFrom [] (casefold value)

/-- Words joined by single hyphens. -/
def hyphenJoin (parts : List Text) : Text := List.intercalate ['-'] parts

/-- The slug of a text before `item`, `id-` and the lead are added. -/
def normal (value : Text) : Text := hyphenJoin (words value)

@[simp]
theorem hyphenJoin_nil : hyphenJoin [] = [] := rfl

@[simp]
theorem hyphenJoin_singleton (word : Text) : hyphenJoin [word] = word := by
  simp [hyphenJoin, List.intercalate]

theorem hyphenJoin_cons (word : Text) {rest : List Text} (rest_ne : rest ≠ []) :
    hyphenJoin (word :: rest) = word ++ '-' :: hyphenJoin rest := by
  cases rest with
  | nil => exact (rest_ne rfl).elim
  | cons next rest => simp [hyphenJoin, List.intercalate]

theorem hyphenJoin_append {left right : List Text} (left_ne : left ≠ []) (right_ne : right ≠ []) :
    hyphenJoin (left ++ right) = hyphenJoin left ++ '-' :: hyphenJoin right := by
  induction left with
  | nil => exact (left_ne rfl).elim
  | cons word rest ih =>
      by_cases rest_ne : rest = []
      · subst rest_ne
        simp [hyphenJoin_cons word right_ne]
      · rw [List.cons_append, hyphenJoin_cons word (by simp [rest_ne]),
          hyphenJoin_cons word rest_ne, ih rest_ne]
        simp

/-- Words are nonempty runs of word characters. -/
def IsWord (word : Text) : Prop := word ≠ [] ∧ ∀ c ∈ word, isWordChar c

instance (word : Text) : Decidable (IsWord word) :=
  decidable_of_iff (word ≠ [] ∧ word.all isWordChar) (by simp [IsWord])

theorem wordsFrom_isWord {current value : Text} (current_chars : ∀ c ∈ current, isWordChar c) :
    ∀ word ∈ wordsFrom current value, IsWord word := by
  induction value generalizing current with
  | nil =>
      intro word member
      simp only [wordsFrom] at member
      split_ifs at member with empty
      · simp at member
      · simp only [List.mem_singleton] at member
        subst member
        exact ⟨empty, current_chars⟩
  | cons c rest ih =>
      intro word member
      simp only [wordsFrom] at member
      split_ifs at member with kept empty
      · refine ih (fun d mem => ?_) word member
        rcases List.mem_append.mp mem with old | new
        · exact current_chars d old
        · simp only [List.mem_singleton] at new
          exact new ▸ kept
      · exact @ih [] (by simp) word (by simpa using member)
      · rcases List.mem_append.mp member with old | new
        · simp only [List.mem_singleton] at old
          subst old
          exact ⟨empty, current_chars⟩
        · exact @ih [] (by simp) word new

theorem words_isWord (value : Text) : ∀ word ∈ words value, IsWord word :=
  wordsFrom_isWord (by simp)

theorem wordsFrom_append_cons (current left right : Text) {separator : Char}
    (outside : isWordChar separator = false) :
    wordsFrom current (left ++ separator :: right) =
      wordsFrom current left ++ wordsFrom [] right := by
  induction left generalizing current with
  | nil => simp [wordsFrom, outside]
  | cons c rest ih =>
      by_cases kept : isWordChar c
      · simp [wordsFrom, kept, ih]
      · simp [wordsFrom, kept, ih, List.append_assoc]

theorem words_append_hyphen (left right : Text) :
    words (left ++ '-' :: right) = words left ++ words right := by
  have fold : casefold (left ++ '-' :: right) = casefold left ++ '-' :: casefold right := by
    simp only [casefold, List.flatMap_append, List.flatMap_cons]
    rfl
  rw [words, fold, wordsFrom_append_cons _ _ _ (by decide)]
  rfl

theorem hyphenateRuns_shape (value : Text) :
    (∃ tail, (tail = [] ∨ tail = ['-']) ∧ (wordsFrom [] value = [] → tail = []) ∧
      hyphenateRuns isWordChar true value = hyphenJoin (wordsFrom [] value) ++ tail) ∧
    (∀ current : Text, current ≠ [] →
      ∃ tail, (tail = [] ∨ tail = ['-']) ∧ wordsFrom current value ≠ [] ∧
        current ++ hyphenateRuns isWordChar false value =
          hyphenJoin (wordsFrom current value) ++ tail) := by
  induction value with
  | nil =>
      refine ⟨⟨[], by simp, by simp, rfl⟩, fun current current_ne => ⟨[], by simp, ?_, ?_⟩⟩
      · simp [wordsFrom, current_ne]
      · simp [wordsFrom, current_ne, hyphenateRuns]
  | cons c rest ih =>
      obtain ⟨⟨tail, tail_shape, tail_empty, run_shape⟩, open_shape⟩ := ih
      by_cases kept : isWordChar c
      · -- a word character extends the open word, or opens one
        refine ⟨?_, fun current current_ne => ?_⟩
        · obtain ⟨tail, shape, nonempty, equal⟩ := open_shape [c] (by simp)
          refine ⟨tail, shape, fun empty => (nonempty ?_).elim, ?_⟩
          · simpa [wordsFrom, kept] using empty
          · simpa [wordsFrom, hyphenateRuns, kept] using equal
        · obtain ⟨tail, shape, nonempty, equal⟩ := open_shape (current ++ [c]) (by simp)
          exact ⟨tail, shape, by simpa [wordsFrom, kept] using nonempty,
            by simpa [wordsFrom, hyphenateRuns, kept] using equal⟩
      · -- any other character closes the open word
        refine ⟨⟨tail, tail_shape, ?_, ?_⟩, fun current current_ne => ?_⟩
        · simpa [wordsFrom, kept] using tail_empty
        · simpa [wordsFrom, hyphenateRuns, kept] using run_shape
        · by_cases last : wordsFrom [] rest = []
          · have tail_eq := tail_empty last
            refine ⟨['-'], by simp, by simp [wordsFrom, kept, current_ne], ?_⟩
            simp [wordsFrom, hyphenateRuns, kept, current_ne, last, run_shape, tail_eq]
          · refine ⟨tail, tail_shape, by simp [wordsFrom, kept, current_ne], ?_⟩
            simp [wordsFrom, hyphenateRuns, kept, current_ne, run_shape,
              hyphenJoin_cons current last]

theorem isWordChar_ne_hyphen {c : Char} (word : isWordChar c) : c ≠ '-' := by
  rintro rfl
  exact absurd word (by decide)

variable {parts : List Text}

theorem hyphenJoin_head? (are_words : ∀ word ∈ parts, IsWord word)
    {c : Char} (head : c ∈ (hyphenJoin parts).head?) : isWordChar c := by
  cases parts with
  | nil => simp at head
  | cons word rest =>
      obtain ⟨word_ne, word_chars⟩ := are_words word (by simp)
      obtain ⟨first, tail, rfl⟩ := List.exists_cons_of_ne_nil word_ne
      have first_eq : first = c := by
        by_cases rest_ne : rest = []
        · simpa [rest_ne] using head
        · simpa [hyphenJoin_cons _ rest_ne] using head
      exact first_eq ▸ word_chars first (by simp)

theorem hyphenJoin_getLast? (are_words : ∀ word ∈ parts, IsWord word)
    {c : Char} (last : c ∈ (hyphenJoin parts).getLast?) : isWordChar c := by
  induction parts with
  | nil => simp at last
  | cons word rest ih =>
      obtain ⟨word_ne, word_chars⟩ := are_words word (by simp)
      by_cases rest_ne : rest = []
      · subst rest_ne
        rw [hyphenJoin_singleton] at last
        exact word_chars c (List.mem_of_getLast? last)
      · rw [hyphenJoin_cons _ rest_ne] at last
        have rest_words : ∀ word ∈ rest, IsWord word := fun word member =>
          are_words word (by simp [member])
        have rest_join_ne : hyphenJoin rest ≠ [] := by
          obtain ⟨next, later, rfl⟩ := List.exists_cons_of_ne_nil rest_ne
          have next_ne := (rest_words next (by simp)).1
          by_cases later_ne : later = [] <;> simp [later_ne, next_ne, hyphenJoin_cons]
        refine ih rest_words ?_
        rwa [List.getLast?_append_of_ne_nil _ (by simp), List.getLast?_cons_of_ne_nil rest_join_ne]
          at last

theorem hyphenJoin_eq_nil (are_words : ∀ word ∈ parts, IsWord word) :
    hyphenJoin parts = [] ↔ parts = [] := by
  constructor
  · intro empty
    cases parts with
    | nil => rfl
    | cons word rest =>
        have word_ne := (are_words word (by simp)).1
        by_cases rest_ne : rest = []
        · simp [rest_ne, word_ne] at empty
        · simp [hyphenJoin_cons _ rest_ne] at empty
  · rintro rfl
    rfl

theorem stripChars_hyphens {body front back : Text}
    (front_shape : front = [] ∨ front = ['-']) (back_shape : back = [] ∨ back = ['-'])
    (head : ∀ c ∈ body.head?, c ≠ '-') (last : ∀ c ∈ body.getLast?, c ≠ '-') (body_ne : body ≠ []) :
    stripChars (· == '-') (front ++ body ++ back) = body := by
  obtain ⟨first, rest, body_eq⟩ := List.exists_cons_of_ne_nil body_ne
  have first_ne : first ≠ '-' := head first (by simp [body_eq])
  have dropped : (front ++ body ++ back).dropWhile (· == '-') = body ++ back := by
    rcases front_shape with rfl | rfl <;> simp [body_eq, first_ne]
  have last_ne : ¬ (body.getLast body_ne == '-') := by
    simpa using last _ (by simp [List.getLast?_eq_some_getLast body_ne])
  have kept : body.rdropWhile (· == '-') = body :=
    List.rdropWhile_eq_self_iff.mpr fun _ => last_ne
  rw [stripChars, dropped]
  rcases back_shape with rfl | rfl
  · simpa using kept
  · rw [List.rdropWhile_concat_pos _ _ _ (by decide)]
    exact kept

theorem strip_hyphenateRuns (value : Text) :
    stripChars (· == '-') (hyphenateRuns isWordChar false value) =
      hyphenJoin (wordsFrom [] value) := by
  have are_words : ∀ word ∈ wordsFrom [] value, IsWord word := wordsFrom_isWord (by simp)
  have head : ∀ c ∈ (hyphenJoin (wordsFrom [] value)).head?, c ≠ '-' := fun c member =>
    isWordChar_ne_hyphen (hyphenJoin_head? are_words member)
  have last : ∀ c ∈ (hyphenJoin (wordsFrom [] value)).getLast?, c ≠ '-' := fun c member =>
    isWordChar_ne_hyphen (hyphenJoin_getLast? are_words member)
  obtain ⟨front, back, front_shape, back_shape, empty, equal⟩ :
      ∃ front back, (front = [] ∨ front = ['-']) ∧ (back = [] ∨ back = ['-']) ∧
        (wordsFrom [] value = [] → back = []) ∧
        hyphenateRuns isWordChar false value =
          front ++ hyphenJoin (wordsFrom [] value) ++ back := by
    cases value with
    | nil => exact ⟨[], [], by simp, by simp, by simp, rfl⟩
    | cons c rest =>
        by_cases kept : isWordChar c
        · obtain ⟨tail, shape, nonempty, equal⟩ := (hyphenateRuns_shape rest).2 [c] (by simp)
          refine ⟨[], tail, by simp, shape, fun none => (nonempty ?_).elim, ?_⟩
          · simpa [wordsFrom, kept] using none
          · simpa [wordsFrom, hyphenateRuns, kept] using equal
        · obtain ⟨tail, shape, tail_empty, equal⟩ := (hyphenateRuns_shape rest).1
          refine ⟨['-'], tail, by simp, shape, ?_, ?_⟩
          · simpa [wordsFrom, kept] using tail_empty
          · simp [wordsFrom, hyphenateRuns, kept, equal]
  rw [equal]
  by_cases none : wordsFrom [] value = []
  · rw [empty none, none]
    rcases front_shape with rfl | rfl <;> decide
  · exact stripChars_hyphens front_shape back_shape head last
      (fun joined => none ((hyphenJoin_eq_nil are_words).mp joined))

theorem hyphenateRuns_word_append (inRun : Bool) {word : Text} (is_word : IsWord word)
    (rest : Text) :
    hyphenateRuns (· != '-') inRun (word ++ rest) =
      word ++ hyphenateRuns (· != '-') false rest := by
  obtain ⟨word_ne, word_chars⟩ := is_word
  have all_kept : ∀ (flag : Bool) (letters : Text), letters ≠ [] →
      (∀ c ∈ letters, isWordChar c) →
      hyphenateRuns (· != '-') flag (letters ++ rest) =
        letters ++ hyphenateRuns (· != '-') false rest := by
    intro flag letters
    induction letters generalizing flag with
    | nil => intro nonempty; exact (nonempty rfl).elim
    | cons c letters ih =>
        intro _ chars
        have kept := isWordChar_ne_hyphen (chars c (by simp))
        have later : ∀ d ∈ letters, isWordChar d := fun d member => chars d (by simp [member])
        by_cases done : letters = []
        · simp [done, hyphenateRuns, kept]
        · simp [hyphenateRuns, kept, ih false done later]
  exact all_kept inRun word word_ne word_chars

theorem hyphenateRuns_hyphenJoin (are_words : ∀ word ∈ parts, IsWord word) (inRun : Bool) :
    hyphenateRuns (· != '-') inRun (hyphenJoin parts) = hyphenJoin parts := by
  induction parts generalizing inRun with
  | nil => rfl
  | cons word rest ih =>
      have is_word := are_words word (by simp)
      have rest_words : ∀ word ∈ rest, IsWord word := fun word member =>
        are_words word (by simp [member])
      by_cases rest_ne : rest = []
      · subst rest_ne
        simpa [hyphenateRuns] using hyphenateRuns_word_append inRun is_word []
      · rw [hyphenJoin_cons _ rest_ne, hyphenateRuns_word_append inRun is_word]
        simp [hyphenateRuns, ih rest_words]

end Slug

theorem slugStem_eq (value lead : Text) :
    slugStem value lead =
      let slug := if normal value = [] then ("item" : Text) else normal value
      let slug := if slug.head?.any isLetter then slug else ("id-" : Text) ++ slug
      if lead ≠ [] ∧ ¬ startsWith slug (lead ++ ['-']) then lead ++ '-' :: slug else slug := by
  have stripped : hyphenateRuns (· != '-') false
      (stripChars (· == '-') (hyphenateRuns isWordChar false (casefold value))) =
        normal value := by
    rw [strip_hyphenateRuns]
    exact hyphenateRuns_hyphenJoin (words_isWord value) false
  simp only [slugStem, stripped]

theorem exists_slugStem (value lead : Text) : ∃ slug, slugStem value lead =
    if lead ≠ [] ∧ ¬ startsWith slug (lead ++ ['-']) then lead ++ '-' :: slug else slug :=
  ⟨_, slugStem_eq value lead⟩

namespace Slug

theorem casefoldChar_of_isWordChar {c : Char} (word : isWordChar c) : casefoldChar c = [c] := by
  have range : c.toNat ≤ 122 ∧ ¬ ('A' ≤ c ∧ c ≤ 'Z') := by
    simp only [isWordChar, isLetter, Bool.or_eq_true, Bool.and_eq_true, decide_eq_true_eq] at word
    simp only [Char.le_def, UInt32.le_iff_toNat_le, Char.toNat] at word ⊢
    simp only [show ('a' : Char).val.toNat = 97 from rfl,
      show ('z' : Char).val.toNat = 122 from rfl,
      show ('0' : Char).val.toNat = 48 from rfl, show ('9' : Char).val.toNat = 57 from rfl,
      show ('A' : Char).val.toNat = 65 from rfl,
      show ('Z' : Char).val.toNat = 90 from rfl] at word ⊢
    omega
  unfold casefoldChar
  rw [if_neg range.2]
  split <;> first | rfl | (rename_i code; omega)

variable {word : Text}

theorem casefold_of_word (chars : ∀ c ∈ word, isWordChar c) :
    casefold word = word := by
  induction word with
  | nil => rfl
  | cons c rest ih =>
      have tail := ih fun d member => chars d (by simp [member])
      simp only [casefold, List.flatMap_cons] at tail ⊢
      rw [tail, casefoldChar_of_isWordChar (chars c (by simp))]
      rfl

private theorem wordsFrom_of_word (current : Text) (chars : ∀ c ∈ word, isWordChar c) :
    wordsFrom current word = if current ++ word = [] then [] else [current ++ word] := by
  induction word generalizing current with
  | nil => simp [wordsFrom]
  | cons c rest ih =>
      have rest_chars : ∀ d ∈ rest, isWordChar d := fun d member => chars d (by simp [member])
      simp [wordsFrom, chars c (by simp), ih _ rest_chars]

theorem words_of_word (is_word : IsWord word) : words word = [word] := by
  rw [words, casefold_of_word is_word.2, wordsFrom_of_word _ is_word.2]
  simp [is_word.1]

theorem decimal_isWord (n : Nat) : IsWord (decimal n) := by
  refine ⟨Nat.toDigits_ne_nil, fun c member => ?_⟩
  have digit := Nat.isDigit_of_mem_toDigits (b := 10) (by decide) (by decide) member
  simp only [Char.isDigit, Bool.and_eq_true, decide_eq_true_eq] at digit
  simp only [isWordChar, Bool.or_eq_true, Bool.and_eq_true, decide_eq_true_eq]
  exact .inr ⟨digit.1, digit.2⟩

theorem decimal_injective : Function.Injective decimal := by
  intro m n equal
  calc
    m = Nat.ofDigitChars 10 (decimal m) 0 := Nat.ofDigitChars_ten_toDigits.symm
    _ = Nat.ofDigitChars 10 (decimal n) 0 := by rw [equal]
    _ = n := Nat.ofDigitChars_ten_toDigits

theorem normal_append {left right : Text} (left_ne : normal left ≠ [])
    (right_ne : normal right ≠ []) :
    normal (left ++ '-' :: right) = normal left ++ '-' :: normal right := by
  have nonempty : ∀ {value : Text}, normal value ≠ [] → words value ≠ [] := by
    intro value value_ne empty
    exact value_ne (by simp [normal, empty])
  rw [normal, words_append_hyphen, hyphenJoin_append (nonempty left_ne) (nonempty right_ne)]
  rfl

theorem normal_append_of_empty {left right : Text} (left_eq : normal left = []) :
    normal (left ++ '-' :: right) = normal right := by
  have none : words left = [] := (hyphenJoin_eq_nil (words_isWord left)).mp left_eq
  rw [normal, words_append_hyphen, none]
  rfl

theorem normal_of_word (is_word : IsWord word) : normal word = word := by
  simp [normal, words_of_word is_word]

theorem normal_head? {value : Text} {c : Char} (head : c ∈ (normal value).head?) : isWordChar c :=
  hyphenJoin_head? (words_isWord value) head

theorem normal_getLast? {value : Text} {c : Char} (last : c ∈ (normal value).getLast?) :
    isWordChar c :=
  hyphenJoin_getLast? (words_isWord value) last

theorem normal_attempt (n : Nat) :
    normal (("attempt-" : Text) ++ decimal n) = ("attempt-" : Text) ++ decimal n := by
  have split : ("attempt-" : Text) ++ decimal n = ("attempt" : Text) ++ '-' :: decimal n := rfl
  have attempt_word : IsWord ("attempt" : Text) := by decide
  rw [split, normal_append, normal_of_word attempt_word, normal_of_word (decimal_isWord n)]
  · rw [normal_of_word attempt_word]
    exact attempt_word.1
  · rw [normal_of_word (decimal_isWord n)]
    exact (decimal_isWord n).1

end Slug

/-- The part of `slugStem` that stands before an appended suffix. -/
def joinStem (value lead : Text) : Text :=
  if normal value = [] then lead
  else
    let slug := if (normal value).head?.any isLetter then normal value
      else ("id-" : Text) ++ normal value
    if slug = lead ∨ startsWith slug (lead ++ ['-']) then slug else lead ++ '-' :: slug

namespace Slug

theorem startsWith_iff (value start : Text) : startsWith value start ↔ start <+: value := by
  simp [startsWith]

theorem hyphen_prefix_append {slug lead rest : Text} (lead_chars : '-' ∉ lead) :
    (lead ++ ['-']) <+: (slug ++ '-' :: rest) ↔ slug = lead ∨ (lead ++ ['-']) <+: slug := by
  constructor
  · rintro ⟨tail, equal⟩
    rw [List.append_assoc, List.singleton_append] at equal
    rcases List.append_eq_append_iff.mp equal with ⟨extra, slug_eq, tail_eq⟩
      | ⟨extra, lead_eq, rest_eq⟩
    · cases extra with
      | nil => exact .inl (by simpa using slug_eq)
      | cons c extra =>
          simp only [List.cons_append, List.cons.injEq] at tail_eq
          exact .inr ⟨extra, by simp [slug_eq, ← tail_eq.1]⟩
    · cases extra with
      | nil => exact .inl (by simpa using lead_eq.symm)
      | cons c extra =>
          simp only [List.cons_append, List.cons.injEq] at rest_eq
          exact (lead_chars (by simp [lead_eq, ← rest_eq.1])).elim
  · rintro (rfl | ⟨tail, rfl⟩)
    · exact ⟨rest, by simp⟩
    · exact ⟨tail ++ '-' :: rest, by simp⟩

theorem lead_append (slug rest : Text) {lead : Text} (lead_ne : lead ≠ [])
    (lead_chars : '-' ∉ lead) :
    (if lead ≠ [] ∧ ¬ startsWith (slug ++ '-' :: rest) (lead ++ ['-'])
      then lead ++ '-' :: (slug ++ '-' :: rest) else slug ++ '-' :: rest) =
      (if slug = lead ∨ startsWith slug (lead ++ ['-']) then slug else lead ++ '-' :: slug) ++
        '-' :: rest := by
  simp only [startsWith_iff, hyphen_prefix_append lead_chars]
  split_ifs <;> simp_all

end Slug

theorem slugStem_append_of_ne {value suffix lead : Text} (lead_ne : lead ≠ [])
    (lead_chars : '-' ∉ lead) (value_ne : normal value ≠ []) (suffix_ne : normal suffix ≠ []) :
    slugStem (value ++ '-' :: suffix) lead = joinStem value lead ++ '-' :: normal suffix := by
  rw [slugStem_eq, normal_append value_ne suffix_ne]
  obtain ⟨first, rest, value_eq⟩ := List.exists_cons_of_ne_nil value_ne
  have head_eq : (normal value ++ '-' :: normal suffix).head? = (normal value).head? := by
    simp [value_eq]
  simp only [List.append_eq_nil_iff, reduceCtorEq, and_false, if_false, head_eq, joinStem, value_ne]
  by_cases letter : (normal value).head?.any isLetter = true
  · simp only [letter, if_true]
    exact lead_append _ _ lead_ne lead_chars
  · simp only [letter, if_false, Bool.false_eq_true]
    exact lead_append (("id-" : Text) ++ normal value) _ lead_ne lead_chars

theorem slugStem_append {value suffix lead : Text} (lead_ne : lead ≠ []) (lead_chars : '-' ∉ lead)
    (suffix_head : (normal suffix).head?.any isLetter = true)
    (fresh : normal value ≠ [] ∨ ¬ startsWith (normal suffix) (lead ++ ['-'])) :
    slugStem (value ++ '-' :: suffix) lead = joinStem value lead ++ '-' :: normal suffix := by
  have suffix_ne : normal suffix ≠ [] := by
    intro empty
    simp [empty] at suffix_head
  by_cases value_ne : normal value = []
  · have unled : ¬ startsWith (normal suffix) (lead ++ ['-']) :=
      fresh.resolve_left (by simp [value_ne])
    rw [slugStem_eq]
    simp [normal_append_of_empty value_ne, suffix_ne, suffix_head, lead_ne,
      unled, joinStem, value_ne]
  · exact slugStem_append_of_ne lead_ne lead_chars value_ne suffix_ne

namespace Slug

/-- A text that neither starts nor ends with a hyphen. -/
def Trimmed (value : Text) : Prop :=
  value ≠ [] ∧ (∀ c ∈ value.head?, c ≠ '-') ∧ ∀ c ∈ value.getLast?, c ≠ '-'

theorem Trimmed.append {left right : Text} (left_trim : Trimmed left) (right_trim : Trimmed right)
    (middle : Text) : Trimmed (left ++ middle ++ right) := by
  obtain ⟨left_ne, left_head, -⟩ := left_trim
  obtain ⟨right_ne, -, right_last⟩ := right_trim
  obtain ⟨first, rest, rfl⟩ := List.exists_cons_of_ne_nil left_ne
  refine ⟨by simp, ?_, ?_⟩
  · simpa using left_head
  · rwa [List.getLast?_append_of_ne_nil _ right_ne]

theorem Trimmed.strip {value : Text} (trimmed : Trimmed value) :
    stripChars (· == '-') value = value := by
  simpa using @stripChars_hyphens value [] [] (by simp) (by simp)
    trimmed.2.1 trimmed.2.2 trimmed.1

theorem trimmed_of_isWord {word : Text} (is_word : IsWord word) : Trimmed word :=
  ⟨is_word.1,
    fun c member => isWordChar_ne_hyphen (is_word.2 c (List.mem_of_mem_head? member)),
    fun c member => isWordChar_ne_hyphen (is_word.2 c (List.mem_of_getLast? member))⟩

theorem normal_trimmed {value : Text} (value_ne : normal value ≠ []) : Trimmed (normal value) :=
  ⟨value_ne, fun _ member => isWordChar_ne_hyphen (normal_head? member),
    fun _ member => isWordChar_ne_hyphen (normal_getLast? member)⟩

end Slug

theorem slugStem_trimmed (value : Text) {lead : Text} (lead_word : lead = [] ∨ IsWord lead) :
    Trimmed (slugStem value lead) := by
  rw [slugStem_eq]
  dsimp only
  have base : Trimmed (if normal value = [] then ("item" : Text) else normal value) := by
    split_ifs with empty
    · exact trimmed_of_isWord (by decide)
    · exact normal_trimmed empty
  generalize (if normal value = [] then ("item" : Text) else normal value) = slug at base ⊢
  have lettered : Trimmed (if slug.head?.any isLetter then slug else ("id-" : Text) ++ slug) := by
    split_ifs
    · exact base
    · have id_word : IsWord ("id" : Text) := by decide
      exact (trimmed_of_isWord id_word).append base ['-']
  generalize (if slug.head?.any isLetter then slug else ("id-" : Text) ++ slug) = slug at lettered ⊢
  rcases lead_word with rfl | is_word
  · simpa using lettered
  · split_ifs
    · simpa using (trimmed_of_isWord is_word).append lettered ['-']
    · exact lettered

theorem slugId_eq_stem {value lead : Text} (lead_word : lead = [] ∨ IsWord lead)
    (fits : (slugStem value lead).length ≤ 96) : slugId value lead = slugStem value lead := by
  rw [slugId, List.take_of_length_le fits]
  exact (slugStem_trimmed value lead_word).strip

theorem slugId_ne_nil (value : Text) {lead : Text} (lead_word : lead = [] ∨ IsWord lead) :
    slugId value lead ≠ [] := by
  obtain ⟨stem_ne, stem_head, -⟩ := slugStem_trimmed value lead_word
  obtain ⟨first, rest, stem_eq⟩ := List.exists_cons_of_ne_nil stem_ne
  have first_ne : first ≠ '-' := stem_head first (by simp [stem_eq])
  intro empty
  rw [slugId, stem_eq, stripChars, List.take_succ_cons, List.dropWhile_cons,
    if_neg (by simpa using first_ne), List.rdropWhile_eq_nil_iff] at empty
  exact first_ne (by simpa using empty first (by simp))

/-- The identifier of attempt `n`, before the cut. -/
theorem slugStem_attempt {value lead : Text} (n : Nat) (lead_word : IsWord lead)
    (fresh : normal value ≠ [] ∨ lead ≠ ("attempt" : Text)) :
    slugStem (value ++ ("-attempt-" : Text) ++ decimal n) lead =
      joinStem value lead ++ ("-attempt-" : Text) ++ decimal n := by
  have lead_chars : '-' ∉ lead := fun member =>
    isWordChar_ne_hyphen (lead_word.2 _ member) rfl
  have suffix : value ++ ("-attempt-" : Text) ++ decimal n =
      value ++ '-' :: (("attempt-" : Text) ++ decimal n) := by
    rw [List.append_assoc]
    rfl
  rw [suffix, slugStem_append lead_word.1 lead_chars, normal_attempt, List.append_assoc]
  · rfl
  · rw [normal_attempt]
    rfl
  · refine fresh.imp id fun lead_ne starts => lead_ne ?_
    rw [normal_attempt, startsWith_iff, show ("attempt-" : Text) ++ decimal n =
      ("attempt" : Text) ++ '-' :: decimal n from rfl, hyphen_prefix_append lead_chars] at starts
    rcases starts with same | ⟨tail, longer⟩
    · exact same.symm
    · have hyphen : '-' ∈ ("attempt" : Text) := by
        rw [← longer]
        simp
      exact absurd hyphen (by decide)

theorem last_hyphen_split {before after front back : Text} (front_free : '-' ∉ front)
    (back_free : '-' ∉ back) (same : before ++ '-' :: front = after ++ '-' :: back) :
    before = after ∧ front = back := by
  rcases List.append_eq_append_iff.mp same with ⟨extra, rfl, tail⟩ | ⟨extra, rfl, tail⟩
  · cases extra with
    | nil => simpa using tail
    | cons c extra =>
        simp only [List.cons_append, List.cons.injEq] at tail
        exact (front_free (by simp [tail.2])).elim
  · cases extra with
    | nil => simpa [eq_comm] using tail
    | cons c extra =>
        simp only [List.cons_append, List.cons.injEq] at tail
        exact (back_free (by simp [tail.2])).elim

theorem hyphen_notMem_of_isWord {word : Text} (is_word : IsWord word) : '-' ∉ word :=
  fun member => isWordChar_ne_hyphen (is_word.2 _ member) rfl

theorem attempt_suffix_injective {left right : Text} {m n : Nat}
    (equal : left ++ ("-attempt-" : Text) ++ decimal m =
      right ++ ("-attempt-" : Text) ++ decimal n) : left = right ∧ m = n := by
  have reshape : ∀ (text : Text) (k : Nat), text ++ ("-attempt-" : Text) ++ decimal k =
      (text ++ ("-attempt" : Text)) ++ '-' :: decimal k := by
    intro text k
    simp
  rw [reshape, reshape] at equal
  obtain ⟨stems, digits⟩ := last_hyphen_split (hyphen_notMem_of_isWord (decimal_isWord m))
    (hyphen_notMem_of_isWord (decimal_isWord n)) equal
  exact ⟨List.append_cancel_right stems, decimal_injective digits⟩

end SkillCentric
