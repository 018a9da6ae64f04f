import Mathlib.Data.List.DropRight
import Mathlib.Data.List.Infix
import Mathlib.Tactic

/-!
# Patterns with preferences

Regular expressions as a backtracking host runs them.  A pattern takes a prefix of the text, and the
prefixes it can take come in the order in which the host tries them; an assertion takes nothing and
looks at the characters on either side.  A sequence of patterns splits a match into its groups.  The
matches in a text are found from left to right and do not overlap.
-/

namespace SkillCentric

/-- A pattern. -/
inductive Pattern where
  /-- A condition on the characters before and after. -/
  | here (holds : Option Char → Option Char → Bool)
  /-- As many characters of a class as possible, but at least `least` and at most `most`. -/
  | run (accepts : Char → Bool) (least : Nat) (most : Option Nat)
  /-- As few characters of a class as possible. -/
  | short (accepts : Char → Bool)
  /-- One pattern after the other. -/
  | next (first second : Pattern)
  /-- The first pattern, or else the second. -/
  | orElse (first second : Pattern)

namespace Pattern

/-- The character before what follows a prefix. -/
def lastOf (previous : Option Char) (taken : List Char) : Option Char := taken.getLast?.or previous

@[simp] theorem lastOf_nil (previous : Option Char) : lastOf previous [] = previous := rfl

@[simp] theorem lastOf_append_cons (previous : Option Char) (before : List Char) (c : Char) :
    lastOf previous (before ++ [c]) = some c := by
  rw [lastOf, List.getLast?_append]
  rfl

/-- The longest run of a class in front of a text. -/
def longest (accepts : Char → Bool) (most : Option Nat) (text : List Char) : List Char :=
  match most with
  | none => text.takeWhile accepts
  | some bound => (text.takeWhile accepts).take bound

/-- The prefixes that a pattern takes, in the order of the search. -/
def takes : Pattern → Option Char → List Char → List (List Char)
  | here holds, previous, text => if holds previous text.head? then [[]] else []
  | run accepts least most, _, text =>
      ((longest accepts most text).inits.filter fun taken => least ≤ taken.length).reverse
  | short accepts, _, text => (text.takeWhile accepts).inits
  | next first second, previous, text =>
      (first.takes previous text).flatMap fun taken =>
        (second.takes (lastOf previous taken) (text.drop taken.length)).map (taken ++ ·)
  | orElse first second, previous, text => first.takes previous text ++ second.takes previous text

/-- One character of a class. -/
def one (accepts : Char → Bool) : Pattern := run accepts 1 (some 1)

/-- At least one character of a class. -/
def some1 (accepts : Char → Bool) : Pattern := run accepts 1 none

/-- Any number of characters of a class. -/
def many (accepts : Char → Bool) : Pattern := run accepts 0 none

/-- Nothing. -/
def nothing : Pattern := here fun _ _ => true

/-- A pattern, or else nothing. -/
def optional (pattern : Pattern) : Pattern := orElse pattern nothing

/-- Patterns one after another. -/
def inOrder : List Pattern → Pattern
  | [] => nothing
  | [pattern] => pattern
  | pattern :: rest => next pattern (inOrder rest)

/-- The first of several patterns that leads on. -/
def firstOf : List Pattern → Pattern
  | [] => here fun _ _ => false
  | [pattern] => pattern
  | pattern :: rest => orElse pattern (firstOf rest)

/-- Characters that agree with those of a text, one by one. -/
def spelled (agrees : Char → Char → Bool) (text : List Char) : Pattern :=
  inOrder (text.map fun c => one (agrees c))

/-- The characters of a text. -/
def literal (text : List Char) : Pattern := spelled (· == ·) text

/-- The splits of a match into what each pattern takes, in the order of the search. -/
def splits : List Pattern → Option Char → List Char → List (List (List Char))
  | [], _, _ => [[]]
  | pattern :: rest, previous, text =>
      (pattern.takes previous text).flatMap fun taken =>
        (splits rest (lastOf previous taken) (text.drop taken.length)).map (taken :: ·)

/-- The match at a place. -/
def matchAt (groups : List Pattern) (previous : Option Char) (text : List Char) :
    Option (List (List Char)) :=
  (splits groups previous text).head?

/-- The matches that take text, with their offsets; the first `skip`
characters are taken already. -/
def finds (groups : List Pattern) : Nat → Option Char → Nat → List Char →
    List (Nat × List (List Char))
  | _, _, _, [] => []
  | offset, _, skip + 1, c :: rest => finds groups (offset + 1) (some c) skip rest
  | offset, previous, 0, c :: rest =>
      match matchAt groups previous (c :: rest) with
      | none => finds groups (offset + 1) (some c) 0 rest
      | some parts =>
          if parts.flatten = [] then finds groups (offset + 1) (some c) 0 rest
          else (offset, parts) ::
            finds groups (offset + 1) (some c) (parts.flatten.length - 1) rest

/-- All matches in a text. -/
def findIter (groups : List Pattern) (text : List Char) : List (Nat × List (List Char)) :=
  finds groups 0 none 0 text

section Takes

variable {pattern : Pattern} {groups : List Pattern} {previous : Option Char}
  {text taken : List Char}
  {parts : List (List Char)} {accepts : Char → Bool}

theorem longest_isPrefix (accepts : Char → Bool) (most : Option Nat) (text : List Char) :
    longest accepts most text <+: text.takeWhile accepts := by
  cases most with
  | none => exact List.prefix_rfl
  | some bound => exact List.take_prefix bound _

theorem mem_takes_run {least : Nat} {most : Option Nat} :
    taken ∈ (run accepts least most).takes previous text ↔
      taken <+: longest accepts most text ∧ least ≤ taken.length := by
  rw [takes, List.mem_reverse, List.mem_filter, List.mem_inits, decide_eq_true_iff]

theorem mem_takes_next {first second : Pattern} :
    taken ∈ (next first second).takes previous text ↔
      ∃ front ∈ first.takes previous text,
        ∃ back ∈ second.takes (lastOf previous front) (text.drop front.length),
          front ++ back = taken := by
  simp only [takes, List.mem_flatMap, List.mem_map]

variable {patterns : List Pattern} {characters : Char → Prop}

theorem mem_takes_firstOf :
    taken ∈ (firstOf patterns).takes previous text ↔
      ∃ pattern ∈ patterns, taken ∈ pattern.takes previous text := by
  fun_induction firstOf patterns with
  | case1 => simp [takes]
  | case2 pattern => simp
  | case3 pattern rest _ ih => rw [takes, List.mem_append, ih, List.exists_mem_cons_iff]

theorem prefix_of_mem_takes (among : taken ∈ pattern.takes previous text) : taken <+: text := by
  induction pattern generalizing previous text taken with
  | here holds =>
      rw [takes] at among
      split at among
      next => rw [List.mem_singleton.mp among]; exact List.nil_prefix
      next => cases among
  | run accepts least most =>
      exact (mem_takes_run.mp among).1.trans
        ((longest_isPrefix accepts most text).trans (List.takeWhile_prefix accepts))
  | short accepts => exact (List.mem_inits _ _ |>.mp among).trans (List.takeWhile_prefix accepts)
  | next first second first_ih second_ih =>
      obtain ⟨front, inFront, back, inBack, rfl⟩ := mem_takes_next.mp among
      obtain ⟨rest, rfl⟩ := first_ih inFront
      have starts := second_ih inBack
      rw [List.drop_left] at starts
      exact (List.prefix_append_right_inj front).mpr starts
  | orElse first second first_ih second_ih =>
      obtain inFirst | inSecond := List.mem_append.mp among
      · exact first_ih inFirst
      · exact second_ih inSecond

/-- Every class of a pattern is within a set of characters. -/
def Within (characters : Char → Prop) : Pattern → Prop
  | here _ => True
  | run accepts _ _ => ∀ c, accepts c = true → characters c
  | short accepts => ∀ c, accepts c = true → characters c
  | next first second => first.Within characters ∧ second.Within characters
  | orElse first second => first.Within characters ∧ second.Within characters

theorem within_inOrder (each : ∀ pattern ∈ patterns, pattern.Within characters) :
    (inOrder patterns).Within characters := by
  fun_induction inOrder patterns with
  | case1 => trivial
  | case2 pattern => exact each pattern (List.mem_singleton.mpr rfl)
  | case3 pattern rest _ ih =>
      exact ⟨each pattern (List.mem_cons_self ..),
        ih fun other inRest => each other (List.mem_cons_of_mem _ inRest)⟩

theorem within_firstOf (each : ∀ pattern ∈ patterns, pattern.Within characters) :
    (firstOf patterns).Within characters := by
  fun_induction firstOf patterns with
  | case1 => trivial
  | case2 pattern => exact each pattern (List.mem_singleton.mpr rfl)
  | case3 pattern rest _ ih =>
      exact ⟨each pattern (List.mem_cons_self ..),
        ih fun other inRest => each other (List.mem_cons_of_mem _ inRest)⟩

private theorem within_spelled {agrees : Char → Char → Bool} {text : List Char}
    (each : ∀ c ∈ text, ∀ other, agrees c other = true → characters other) :
    (spelled agrees text).Within characters := by
  refine within_inOrder fun pattern among => ?_
  obtain ⟨c, inText, rfl⟩ := List.mem_map.mp among
  exact each c inText

theorem within_literal {text : List Char}
    (each : ∀ c ∈ text, characters c) : (literal text).Within characters :=
  within_spelled fun c inText _ same => beq_iff_eq.mp same ▸ each c inText

theorem all_of_mem_takes (within : pattern.Within characters)
    (among : taken ∈ pattern.takes previous text) : ∀ c ∈ taken, characters c := by
  induction pattern generalizing previous text taken with
  | here holds =>
      rw [takes] at among
      split at among
      next => rw [List.mem_singleton.mp among]; exact fun c inNil => absurd inNil (by simp)
      next => cases among
  | run accepts least most =>
      intro c inTaken
      have starts := (mem_takes_run.mp among).1.trans (longest_isPrefix accepts most text)
      exact within c (List.mem_takeWhile_imp (starts.subset inTaken))
  | short accepts =>
      intro c inTaken
      exact within c (List.mem_takeWhile_imp ((List.mem_inits _ _ |>.mp among).subset inTaken))
  | next first second first_ih second_ih =>
      obtain ⟨front, inFront, back, inBack, rfl⟩ := mem_takes_next.mp among
      intro c inTaken
      obtain inFirst | inSecond := List.mem_append.mp inTaken
      · exact first_ih within.1 inFront c inFirst
      · exact second_ih within.2 inBack c inSecond
  | orElse first second first_ih second_ih =>
      obtain inFirst | inSecond := List.mem_append.mp among
      · exact first_ih within.1 inFirst
      · exact second_ih within.2 inSecond

theorem mem_splits_cons : parts ∈ splits (pattern :: groups) previous text ↔
    ∃ taken ∈ pattern.takes previous text,
      ∃ others ∈ splits groups (lastOf previous taken) (text.drop taken.length),
        taken :: others = parts := by
  simp only [splits, List.mem_flatMap, List.mem_map]

theorem prefix_of_mem_splits (among : parts ∈ splits groups previous text) :
    parts.flatten <+: text := by
  induction groups generalizing previous text parts with
  | nil =>
      rw [List.mem_singleton.mp among]
      exact List.nil_prefix
  | cons pattern groups ih =>
      obtain ⟨taken, inTakes, others, inOthers, rfl⟩ := mem_splits_cons.mp among
      obtain ⟨rest, rfl⟩ := prefix_of_mem_takes inTakes
      have starts := ih inOthers
      rw [List.drop_left] at starts
      exact (List.prefix_append_right_inj taken).mpr starts

theorem all_of_mem_splits (within : ∀ pattern ∈ groups, pattern.Within characters)
    (among : parts ∈ splits groups previous text) : ∀ c ∈ parts.flatten, characters c := by
  induction groups generalizing previous text parts with
  | nil =>
      rw [List.mem_singleton.mp among]
      exact fun c inNil => absurd inNil (by simp)
  | cons pattern groups ih =>
      obtain ⟨taken, inTakes, others, inOthers, rfl⟩ := mem_splits_cons.mp among
      intro c inParts
      obtain inTaken | inRest := List.mem_append.mp inParts
      · exact all_of_mem_takes (within pattern (List.mem_cons_self ..)) inTakes c inTaken
      · exact ih (fun other inGroups => within other (List.mem_cons_of_mem _ inGroups))
          inOthers c inRest

theorem mem_takes_one : taken ∈ (one accepts).takes previous text ↔
    ∃ c rest, text = c :: rest ∧ accepts c = true ∧ taken = [c] := by
  rw [one, mem_takes_run, longest]
  cases text with
  | nil =>
      simp only [List.takeWhile_nil, List.take_nil, List.prefix_nil, reduceCtorEq, false_and,
        exists_false, iff_false, not_and]
      rintro rfl
      exact Nat.not_succ_le_zero 0
  | cons c rest =>
      by_cases accepted : accepts c = true
      · rw [List.takeWhile_cons_of_pos accepted]
        constructor
        · rintro ⟨starts, size⟩
          refine ⟨c, rest, rfl, accepted, (starts.eq_of_length (le_antisymm starts.length_le ?_))⟩
          exact size
        · rintro ⟨_, _, same, -, rfl⟩
          cases same
          exact ⟨List.prefix_rfl, le_rfl⟩
      · rw [List.takeWhile_cons_of_neg accepted]
        constructor
        · rintro ⟨starts, size⟩
          rw [List.take_nil, List.prefix_nil] at starts
          rw [starts] at size
          exact absurd size (Nat.not_succ_le_zero 0)
        · rintro ⟨_, _, same, other, -⟩
          cases same
          exact absurd other accepted

theorem eq_of_mem_takes_literal {word : List Char}
    (among : taken ∈ (literal word).takes previous text) :
    taken = word := by
  rw [literal, spelled] at among
  induction word generalizing previous text taken with
  | nil => exact List.mem_singleton.mp among
  | cons c word ih =>
      cases word with
      | nil =>
          obtain ⟨other, rest, -, same, rfl⟩ := mem_takes_one.mp among
          rw [beq_iff_eq.mp same]
      | cons next word =>
          obtain ⟨front, inFront, back, inBack, rfl⟩ := mem_takes_next.mp among
          obtain ⟨other, rest, -, same, rfl⟩ := mem_takes_one.mp inFront
          rw [ih inBack, beq_iff_eq.mp same]
          rfl

end Takes

section Found

variable {first second : Pattern} {previous : Option Char} {text taken : List Char}
  {accepts : Char → Bool}

/-- The prefix that a pattern takes first. -/
def found (pattern : Pattern) (previous : Option Char) (text : List Char) : Option (List Char) :=
  (pattern.takes previous text).head?

variable {pattern : Pattern}

theorem mem_takes_of_found (isFound : pattern.found previous text = some taken) :
    taken ∈ pattern.takes previous text :=
  List.mem_of_head? isFound

private theorem inits_eq_append (text : List Char) : ∃ front, text.inits = front ++ [text] := by
  induction text with
  | nil => exact ⟨[], rfl⟩
  | cons c text ih =>
      obtain ⟨front, shape⟩ := ih
      refine ⟨[] :: front.map (c :: ·), ?_⟩
      rw [List.inits_cons, shape, List.map_append, List.cons_append]
      rfl

theorem found_run {least : Nat} (whole : text.takeWhile accepts = taken)
    (enough : least ≤ taken.length) :
    (run accepts least none).found previous text = some taken := by
  obtain ⟨front, shape⟩ := inits_eq_append taken
  rw [found, takes, longest, whole, shape, List.filter_append, List.reverse_append,
    List.filter_cons_of_pos (by simpa using enough)]
  rfl

theorem found_next (isFound : (next first second).found previous text = some taken) :
    ∃ front ∈ first.takes previous text, ∃ back,
      second.found (lastOf previous front) (text.drop front.length) = some back ∧
        front ++ back = taken := by
  rw [found, takes, List.head?_flatMap] at isFound
  obtain ⟨front, among, leads⟩ := List.exists_of_findSome?_eq_some isFound
  rw [List.head?_map] at leads
  obtain ⟨back, isBack, same⟩ := Option.map_eq_some_iff.mp leads
  exact ⟨front, among, back, isBack, same⟩

theorem found_orElse :
    (orElse first second).found previous text =
      (first.found previous text).or (second.found previous text) := by
  rw [found, takes, List.head?_append]
  rfl

theorem found_eq_none :
    pattern.found previous text = none ↔ ∀ taken, taken ∉ pattern.takes previous text := by
  rw [found, List.head?_eq_none_iff, List.eq_nil_iff_forall_not_mem]

theorem matchAt_single :
    matchAt [pattern] previous text = (pattern.found previous text).map ([·]) := by
  have shape : splits [pattern] previous text = (pattern.takes previous text).map ([·]) := by
    rw [splits, List.map_eq_flatMap]
    rfl
  rw [matchAt, shape, List.head?_map]
  rfl

theorem matchAt_here {holds : Option Char → Option Char → Bool} {groups : List Pattern}
    (held : holds previous text.head? = true) :
    matchAt (here holds :: groups) previous text =
      (matchAt groups previous text).map ([] :: ·) := by
  have shape : splits (here holds :: groups) previous text =
      (splits groups previous text).map ([] :: ·) := by
    rw [splits, takes, if_pos held]
    exact List.flatMap_singleton _ _
  rw [matchAt, shape, List.head?_map]
  rfl

theorem mem_finds_of_matchAt {groups : List Pattern} {offset : Nat} {parts : List (List Char)}
    (matched : matchAt groups previous text = some parts) (nonempty : parts.flatten ≠ []) :
    (offset, parts) ∈ finds groups offset previous 0 text := by
  cases text with
  | nil =>
      exact absurd (List.prefix_nil.mp (prefix_of_mem_splits (List.mem_of_head? matched))) nonempty
  | cons c rest =>
      rw [finds, matched]
      simp only [if_neg nonempty]
      exact List.mem_cons_self

end Found

section Separated

variable {groups : List Pattern} {characters : Char → Prop}

theorem length_le_of_isPrefix {separator : Char} {taken before after : List Char}
    (separates : ¬ characters separator) (each : ∀ c ∈ taken, characters c)
    (starts : taken <+: before ++ separator :: after) : taken.length ≤ before.length := by
  by_contra long
  obtain ⟨rest, whole⟩ := starts
  have inTaken : (taken ++ rest)[before.length]? = taken[before.length]? :=
    List.getElem?_append_left (by omega)
  have reached : taken[before.length]? = some separator := by
    rw [← inTaken, whole, List.getElem?_append_right le_rfl, Nat.sub_self]
    rfl
  exact separates (each separator (List.mem_of_getElem? reached))

theorem finds_cons (offset : Nat) (previous : Option Char) (c : Char) (rest : List Char) :
    ∃ front taken, finds groups offset previous 0 (c :: rest) =
        front ++ finds groups (offset + 1) (some c) (taken - 1) rest ∧
      (taken = 0 ∨ ∃ parts ∈ splits groups previous (c :: rest), parts.flatten.length = taken) := by
  rw [finds]
  cases found : matchAt groups previous (c :: rest) with
  | none => exact ⟨[], 0, rfl, Or.inl rfl⟩
  | some parts =>
      by_cases empty : parts.flatten = []
      · exact ⟨[], 0, if_pos empty, Or.inl rfl⟩
      · refine ⟨[(offset, parts)], parts.flatten.length, if_neg empty, Or.inr ?_⟩
        exact ⟨parts, List.mem_of_head? found, rfl⟩

theorem finds_append_separator (within : ∀ pattern ∈ groups, pattern.Within characters)
    {separator : Char} (separates : ¬ characters separator) (before after : List Char)
    {offset skip : Nat} {previous : Option Char} (free : skip ≤ before.length) :
    ∃ front, finds groups offset previous skip (before ++ separator :: after) =
      front ++ finds groups (offset + (before.length + 1)) (some separator) 0 after := by
  induction before generalizing offset previous skip with
  | nil =>
      obtain rfl : skip = 0 := Nat.le_zero.mp free
      obtain ⟨front, taken, step, short⟩ := @finds_cons groups offset previous separator after
      have none : taken - 1 = 0 := by
        obtain zero | ⟨parts, among, size⟩ := short
        · omega
        · have bound := @length_le_of_isPrefix characters separator _ [] after separates
            (all_of_mem_splits within among) (prefix_of_mem_splits among)
          rw [List.length_nil] at bound
          omega
      rw [none] at step
      exact ⟨front, step⟩
  | cons c before ih =>
      have shift : offset + ((c :: before).length + 1) = offset + 1 + (before.length + 1) := by
        rw [List.length_cons]
        omega
      rw [shift, List.cons_append]
      cases skip with
      | succ skip => exact ih (Nat.le_of_succ_le_succ free)
      | zero =>
          obtain ⟨front, taken, step, short⟩ :=
            @finds_cons groups offset previous c (before ++ separator :: after)
          have within_before : taken - 1 ≤ before.length := by
            obtain zero | ⟨parts, among, size⟩ := short
            · omega
            · have bound :=
                @length_le_of_isPrefix characters separator _ (c :: before) after separates
                (all_of_mem_splits within among) (prefix_of_mem_splits among)
              rw [List.length_cons] at bound
              omega
          obtain ⟨others, rest⟩ := @ih (offset + 1) (taken - 1) (some c) within_before
          exact ⟨front ++ others, by rw [step, rest, List.append_assoc]⟩

end Separated

end Pattern

end SkillCentric
