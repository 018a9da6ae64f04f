import Mathlib.Data.List.DropRight
import Mathlib.Tactic

/-!
# Cutting and rewriting words

Words are cut at their ends, at their last separator, and rewritten letter by letter.  A rewriting
that leaves a separator alone and makes no other one splits where the rewritten word splits; a
rewriting by a prefix code can be read back.
-/

namespace SkillCentric

namespace Word

variable {α β : Type} {drop : α → Bool} {word front back : List α}

theorem exists_rdropWhile (drop : α → Bool) (word : List α) :
    ∃ back, word = word.rdropWhile drop ++ back ∧ ∀ c ∈ back, drop c = true :=
  ⟨word.rtakeWhile drop, List.rdropWhile_append_rtakeWhile.symm, fun _ => List.mem_rtakeWhile_imp⟩

theorem exists_dropWhile (drop : α → Bool) (word : List α) :
    ∃ front, word = front ++ word.dropWhile drop ∧ ∀ c ∈ front, drop c = true :=
  ⟨word.takeWhile drop, List.takeWhile_append_dropWhile.symm, fun _ => List.mem_takeWhile_imp⟩

theorem rdropWhile_of_last (kept : ∀ c ∈ word.getLast?, drop c = false) :
    word.rdropWhile drop = word := by
  refine List.rdropWhile_eq_self_iff.mpr fun nonempty dropped => ?_
  rw [kept _ (List.getLast?_eq_some_getLast nonempty)] at dropped
  cases dropped

private theorem rdropWhile_append_of_all (dropped : ∀ c ∈ back, drop c = true) :
    (word ++ back).rdropWhile drop = word.rdropWhile drop := by
  induction back using List.reverseRecOn with
  | nil => rw [List.append_nil]
  | append_singleton rest last ih =>
      rw [← List.append_assoc, List.rdropWhile_concat_pos _ _ _ (dropped last (by simp))]
      exact ih fun c member => dropped c (List.mem_append_left _ member)

theorem rdropWhile_append (kept : ∀ c ∈ word.getLast?, drop c = false)
    (dropped : ∀ c ∈ back, drop c = true) : (word ++ back).rdropWhile drop = word :=
  (rdropWhile_append_of_all dropped).trans (rdropWhile_of_last kept)

theorem rdropWhile_congr {other : α → Bool} (same : ∀ c ∈ word, drop c = other c) :
    word.rdropWhile drop = word.rdropWhile other := by
  induction word using List.reverseRecOn with
  | nil => rfl
  | append_singleton rest last ih =>
      have agree : drop last = other last := same last (by simp)
      cases dropped : other last with
      | true =>
          rw [dropped] at agree
          rw [List.rdropWhile_concat_pos _ _ _ agree, List.rdropWhile_concat_pos _ _ _ dropped]
          exact ih fun c member => same c (List.mem_append_left _ member)
      | false =>
          rw [dropped] at agree
          rw [List.rdropWhile_concat_neg _ _ _ (by simp [agree]),
            List.rdropWhile_concat_neg _ _ _ (by simp [dropped])]

theorem rdropWhile_append_cons {letter : α} (kept : drop letter = false) :
    (front ++ letter :: back).rdropWhile drop = front ++ letter :: back.rdropWhile drop := by
  induction back using List.reverseRecOn with
  | nil => rw [List.rdropWhile_concat_neg _ _ _ (by simp [kept]), List.rdropWhile_nil]
  | append_singleton rest last ih =>
      rw [← List.cons_append, ← List.append_assoc]
      cases dropped : drop last with
      | true =>
          rw [List.rdropWhile_concat_pos _ _ _ dropped, List.rdropWhile_concat_pos _ _ _ dropped]
          exact ih
      | false =>
          rw [List.rdropWhile_concat_neg _ _ _ (by simp [dropped]),
            List.rdropWhile_concat_neg _ _ _ (by simp [dropped]), List.append_assoc,
            List.cons_append]

theorem getLast?_rdropWhile {c : α} (last : c ∈ (word.rdropWhile drop).getLast?) :
    drop c = false := by
  have nonempty : word.rdropWhile drop ≠ [] := by
    intro empty
    rw [empty] at last
    cases last
  rw [List.getLast?_eq_some_getLast nonempty] at last
  cases last
  exact Bool.eq_false_iff.mpr (List.rdropWhile_last_not drop word nonempty)

theorem head?_dropWhile {c : α} (head : c ∈ (word.dropWhile drop).head?) : drop c = false := by
  induction word with
  | nil => cases head
  | cons first rest ih =>
      cases kept : drop first with
      | true =>
          rw [List.dropWhile_cons_of_pos kept] at head
          exact ih head
      | false =>
          rw [List.dropWhile_cons_of_neg (by rw [kept]; exact Bool.false_ne_true)] at head
          cases head
          exact kept

theorem dropWhile_of_head (kept : ∀ c ∈ word.head?, drop c = false) :
    word.dropWhile drop = word := by
  cases word with
  | nil => rfl
  | cons first rest =>
      refine List.dropWhile_cons_of_neg ?_
      rw [kept first rfl]
      exact Bool.false_ne_true

theorem dropWhile_append_of_all (dropped : ∀ c ∈ front, drop c = true) :
    (front ++ word).dropWhile drop = word.dropWhile drop := by
  induction front with
  | nil => rfl
  | cons first rest ih =>
      rw [List.cons_append, List.dropWhile_cons_of_pos (dropped first List.mem_cons_self)]
      exact ih fun c member => dropped c (List.mem_cons_of_mem _ member)

variable {separator : α} {left right : List α}

theorem exists_last (member : separator ∈ word) :
    ∃ left right, word = left ++ separator :: right ∧ separator ∉ right := by
  obtain ⟨front, back, reversed, first⟩ :=
    List.eq_append_cons_of_mem (List.mem_reverse.mpr member)
  refine ⟨back.reverse, front.reverse, ?_, fun last => first (List.mem_reverse.mp last)⟩
  rw [← List.reverse_reverse word, reversed, List.reverse_append, List.reverse_cons,
    List.append_assoc, List.singleton_append]

theorem append_cons_inj {left right left' right' : List α}
    (last : separator ∉ right) (last' : separator ∉ right')
    (same : left ++ separator :: right = left' ++ separator :: right') :
    left = left' ∧ right = right' := by
  rcases List.append_eq_append_iff.mp same with ⟨middle, rfl, rest⟩ | ⟨middle, rfl, rest⟩
  · cases middle with
    | nil => exact ⟨(List.append_nil _).symm, (List.cons.inj rest).2⟩
    | cons first middle =>
        refine absurd ?_ last
        rw [(List.cons.inj rest).2]
        exact List.mem_append_right _ List.mem_cons_self
  · cases middle with
    | nil => exact ⟨List.append_nil _, (List.cons.inj rest).2.symm⟩
    | cons first middle =>
        refine absurd ?_ last'
        rw [(List.cons.inj rest).2]
        exact List.mem_append_right _ List.mem_cons_self

theorem append_cons_inj_first {left right left' right' : List α}
    (first : separator ∉ left) (first' : separator ∉ left')
    (same : left ++ separator :: right = left' ++ separator :: right') :
    left = left' ∧ right = right' := by
  rcases List.append_eq_append_iff.mp same with ⟨middle, rfl, rest⟩ | ⟨middle, rfl, rest⟩
  · cases middle with
    | nil => exact ⟨(List.append_nil _).symm, (List.cons.inj rest).2⟩
    | cons next middle =>
        obtain ⟨rfl, -⟩ := List.cons.inj rest
        exact absurd (List.mem_append_right _ List.mem_cons_self) first'
  · cases middle with
    | nil => exact ⟨List.append_nil _, (List.cons.inj rest).2.symm⟩
    | cons next middle =>
        obtain ⟨rfl, -⟩ := List.cons.inj rest
        exact absurd (List.mem_append_right _ List.mem_cons_self) first

theorem rdropWhile_separator [DecidableEq α] (last : separator ∉ right) :
    (left ++ separator :: right).rdropWhile (· != separator) = left ++ [separator] := by
  rw [List.append_cons]
  refine rdropWhile_append ?_ fun c member => bne_iff_ne.mpr fun same => last (same ▸ member)
  rw [List.getLast?_append_of_ne_nil _ (List.cons_ne_nil _ _)]
  rintro _ ⟨⟩
  exact bne_self_eq_false separator

theorem rtakeWhile_separator [DecidableEq α] (last : separator ∉ right) :
    (left ++ separator :: right).rtakeWhile (· != separator) = right := by
  have whole := List.rdropWhile_append_rtakeWhile (p := (· != separator))
    (l := left ++ separator :: right)
  rw [rdropWhile_separator last, List.append_assoc] at whole
  exact (List.cons.inj (List.append_cancel_left whole)).2

/-- The rewriting leaves the letter alone and makes it of no other one. -/
structure Fixes (rewrite : α → List α) (letter : α) : Prop where
  kept : rewrite letter = [letter]
  only : ∀ c, letter ∈ rewrite c → c = letter

variable {rewrite : α → List α} {letter : α}

theorem Fixes.mem_flatMap (fixes : Fixes rewrite letter) :
    letter ∈ word.flatMap rewrite ↔ letter ∈ word := by
  rw [List.mem_flatMap]
  constructor
  · rintro ⟨c, member, made⟩
    exact fixes.only c made ▸ member
  · exact fun member => ⟨letter, member, fixes.kept.symm ▸ List.mem_singleton.mpr rfl⟩

theorem Fixes.exists_split (fixes : Fixes rewrite letter)
    (same : word.flatMap rewrite = left ++ letter :: right) :
    ∃ left' right', word = left' ++ letter :: right' ∧ left'.flatMap rewrite = left ∧
      right'.flatMap rewrite = right := by
  induction word generalizing left with
  | nil => exact absurd same (by simp)
  | cons first rest ih =>
      rw [List.flatMap_cons] at same
      rcases List.append_eq_append_iff.mp same with ⟨middle, rfl, rest_eq⟩
        | ⟨middle, first_eq, rest_eq⟩
      · obtain ⟨left', right', rfl, made, made'⟩ := ih rest_eq
        exact ⟨first :: left', right', rfl, by rw [List.flatMap_cons, made], made'⟩
      · cases middle with
        | nil =>
            obtain ⟨left', right', split, made, made'⟩ :=
              ih (show rest.flatMap rewrite = [] ++ letter :: right from rest_eq.symm)
            refine ⟨first :: left', right', congrArg (first :: ·) split, ?_, made'⟩
            rw [List.flatMap_cons, made, first_eq, List.append_nil, List.append_nil]
        | cons other middle =>
            obtain ⟨rfl, rfl⟩ := List.cons.inj rest_eq
            obtain rfl : first = letter := fixes.only first (by rw [first_eq]; simp)
            rw [fixes.kept] at first_eq
            obtain ⟨rfl, rfl⟩ : left = [] ∧ middle = [] := by
              cases left with
              | nil => exact ⟨rfl, ((List.cons.inj first_eq).2).symm⟩
              | cons head tail => exact absurd (List.cons.inj first_eq).2 (by simp)
            exact ⟨[], rest, rfl, rfl, rfl⟩

theorem count_flatMap [DecidableEq α] (fixes : Fixes rewrite letter) :
    (word.flatMap rewrite).count letter = word.count letter := by
  induction word with
  | nil => rfl
  | cons first rest ih =>
      rw [List.flatMap_cons, List.count_append, ih, List.count_cons]
      by_cases same : first = letter
      · rw [same, fixes.kept]
        simp [Nat.add_comm]
      · have none : (rewrite first).count letter = 0 :=
          List.count_eq_zero.mpr fun made => same (fixes.only first made)
        simp [none, same]

/-- No code of a valid letter is the start of another one. -/
def PrefixCode (valid : α → Prop) (code : α → List β) : Prop :=
  ∀ a b, valid a → valid b → ∀ left right, code a ++ left = code b ++ right → a = b ∧ left = right

variable {valid : α → Prop} {code : α → List β}

theorem PrefixCode.of_read {read : List β → Option (α × List β)}
    (reads : ∀ a, valid a → ∀ rest, read (code a ++ rest) = some (a, rest)) :
    PrefixCode valid code := by
  intro a b a_valid b_valid left right same
  have read_same := reads a a_valid left
  rw [same, reads b b_valid right] at read_same
  obtain ⟨rfl, rfl⟩ := Prod.mk.inj (Option.some.inj read_same)
  exact ⟨rfl, rfl⟩

theorem PrefixCode.flatMap_append (prefix_code : PrefixCode valid code) {word other : List α}
    {left right : List β} (word_valid : ∀ a ∈ word, valid a) (other_valid : ∀ a ∈ other, valid a)
    (same : word.flatMap code ++ left = other.flatMap code ++ right) :
    (∃ rest, word = other ++ rest ∧ rest.flatMap code ++ left = right) ∨
      ∃ rest, other = word ++ rest ∧ left = rest.flatMap code ++ right := by
  induction word generalizing other with
  | nil => exact .inr ⟨other, rfl, same⟩
  | cons first word ih =>
      cases other with
      | nil => exact .inl ⟨first :: word, rfl, same⟩
      | cons second other =>
          rw [List.flatMap_cons, List.flatMap_cons, List.append_assoc, List.append_assoc] at same
          obtain ⟨rfl, rests⟩ := prefix_code first second (word_valid _ List.mem_cons_self)
            (other_valid _ List.mem_cons_self) _ _ same
          rcases ih (fun a member => word_valid a (List.mem_cons_of_mem _ member))
            (fun a member => other_valid a (List.mem_cons_of_mem _ member)) rests with
            ⟨rest, rfl, ends⟩ | ⟨rest, rfl, ends⟩
          · exact .inl ⟨rest, rfl, ends⟩
          · exact .inr ⟨rest, rfl, ends⟩

theorem PrefixCode.comp {γ : Type} {letters : γ → List α} (prefix_code : PrefixCode valid code)
    (outer : PrefixCode (fun _ => True) letters) (valid_letters : ∀ c, ∀ a ∈ letters c, valid a) :
    PrefixCode (fun _ => True) fun c => (letters c).flatMap code := by
  intro a b _ _ left right same
  rcases prefix_code.flatMap_append (valid_letters a) (valid_letters b) same with
    ⟨rest, split, ends⟩ | ⟨rest, split, ends⟩
  · obtain ⟨rfl, rfl⟩ := outer a b trivial trivial [] rest ((List.append_nil _).trans split)
    exact ⟨rfl, ends⟩
  · obtain ⟨rfl, rfl⟩ := outer b a trivial trivial [] rest ((List.append_nil _).trans split)
    exact ⟨rfl, ends⟩

theorem PrefixCode.terminated (prefix_code : PrefixCode (fun _ => True) code) {stop : β}
    (starts : ∀ a, ∃ first rest, code a = first :: rest ∧ first ≠ stop) {word other : List α}
    {left right : List β}
    (same : word.flatMap code ++ stop :: left = other.flatMap code ++ stop :: right) :
    word = other ∧ left = right := by
  have ended {rest : List α} {left right : List β}
      (ends : rest.flatMap code ++ stop :: left = stop :: right) : rest = [] ∧ left = right := by
    cases rest with
    | nil => exact ⟨rfl, (List.cons.inj ends).2⟩
    | cons a rest =>
        obtain ⟨first, tail, coded, other⟩ := starts a
        rw [List.flatMap_cons, coded] at ends
        exact absurd (List.cons.inj ends).1 other
  rcases prefix_code.flatMap_append (fun _ _ => trivial) (fun _ _ => trivial) same with
    ⟨rest, rfl, ends⟩ | ⟨rest, rfl, ends⟩
  · obtain ⟨rfl, rests⟩ := ended ends
    exact ⟨List.append_nil _, rests⟩
  · obtain ⟨rfl, rests⟩ := ended ends.symm
    exact ⟨(List.append_nil _).symm, rests.symm⟩

end Word

end SkillCentric
