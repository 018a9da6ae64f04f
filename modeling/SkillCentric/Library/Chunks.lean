import SkillCentric.Library.Words

/-!
# Trimmed pieces

A text cut after a number of letters, with the blanks around every cut removed, falls into trimmed
pieces with blanks between them.  Nothing but these blanks is lost.
-/

namespace SkillCentric

namespace Chunks

variable {α : Type}

/-- What is left of a text without the blanks around it. -/
def trim (blank : α → Bool) (text : List α) : List α := (text.dropWhile blank).rdropWhile blank

/-- A text that neither begins nor ends with a blank. -/
structure Trimmed (blank : α → Bool) (text : List α) : Prop where
  head : ∀ first ∈ text.head?, blank first = false
  last : ∀ final ∈ text.getLast?, blank final = false

/-- A text consists of pieces with blanks between them. -/
inductive Pieces (blank : α → Bool) : List (List α) → List α → Prop
  | last (piece : List α) : Pieces blank [piece] piece
  | more {piece gap text : List α} {rest : List (List α)}
      (blanks : ∀ letter ∈ gap, blank letter = true) (pieces : Pieces blank rest text) :
      Pieces blank (piece :: rest) (piece ++ (gap ++ text))

variable {blank : α → Bool} {text : List α} {pieces : List (List α)}

theorem Pieces.filter_flatten (consists : Pieces blank pieces text) :
    pieces.flatten.filter (fun letter => !blank letter) =
      text.filter fun letter => !blank letter := by
  induction consists with
  | last piece => rw [List.flatten_cons, List.flatten_nil, List.append_nil]
  | more blanks _ ih =>
      have gap_lost : ∀ letter ∈ _, ¬(!blank letter) = true := fun letter member => by
        rw [blanks letter member]
        exact Bool.false_ne_true
      rw [List.flatten_cons, List.filter_append, List.filter_append, List.filter_append, ih,
        List.filter_eq_nil_iff.mpr gap_lost, List.nil_append]

theorem trimmed_trim (blank : α → Bool) (text : List α) : Trimmed blank (trim blank text) where
  head first begins := by
    obtain ⟨rest, starts⟩ := List.rdropWhile_prefix blank (text.dropWhile blank)
    refine @Word.head?_dropWhile _ blank text first ?_
    rw [Option.mem_def, trim] at begins
    rw [← starts, List.head?_append, begins]
    rfl
  last _ ends := Word.getLast?_rdropWhile ends

private theorem exists_trim (blank : α → Bool) (text : List α) :
    ∃ front back, text = front ++ (trim blank text ++ back) ∧
      (∀ letter ∈ front, blank letter = true) ∧ ∀ letter ∈ back, blank letter = true := by
  obtain ⟨front, split, frontBlank⟩ := Word.exists_dropWhile blank text
  obtain ⟨back, kept, backBlank⟩ := Word.exists_rdropWhile blank (text.dropWhile blank)
  refine ⟨front, back, ?_, frontBlank, backBlank⟩
  rw [trim, ← kept, ← split]

theorem filter_trim (blank : α → Bool) (text : List α) :
    (trim blank text).filter (fun letter => !blank letter) =
      text.filter fun letter => !blank letter := by
  obtain ⟨front, back, split, frontBlank, backBlank⟩ := exists_trim blank text
  have lost : ∀ gap : List α, (∀ letter ∈ gap, blank letter = true) →
      gap.filter (fun letter => !blank letter) = [] := fun gap blanks =>
    List.filter_eq_nil_iff.mpr fun letter member => by
      rw [blanks letter member]
      exact Bool.false_ne_true
  conv_rhs => rw [split]
  rw [List.filter_append, List.filter_append, lost front frontBlank, lost back backBlank,
    List.nil_append, List.append_nil]

section Map

variable {β : Type} {f : α → β} {white : β → Bool}

theorem dropWhile_map_of (same : ∀ letter ∈ text, white (f letter) = blank letter) :
    (text.map f).dropWhile white = (text.dropWhile blank).map f := by
  induction text with
  | nil => rfl
  | cons first rest ih =>
      rw [List.map_cons, List.dropWhile_cons, List.dropWhile_cons, same first List.mem_cons_self]
      split
      · exact ih fun letter member => same letter (List.mem_cons_of_mem _ member)
      · rfl

theorem trim_map (same : ∀ letter ∈ text, white (f letter) = blank letter) :
    trim white (text.map f) = (trim blank text).map f := by
  have back : ∀ letter ∈ (text.dropWhile blank).reverse, white (f letter) = blank letter :=
    fun letter member => same letter ((List.dropWhile_sublist _).subset (List.mem_reverse.mp member))
  rw [trim, dropWhile_map_of same, List.rdropWhile, ← List.map_reverse, dropWhile_map_of back,
    ← List.map_reverse]
  rfl

end Map

section Cut

variable (trimmed : Trimmed blank text)

include trimmed

theorem Trimmed.trim_take (size : Nat) :
    ∃ back, text.take size = trim blank (text.take size) ++ back ∧
    ∀ letter ∈ back, blank letter = true := by
  have head : ∀ first ∈ (text.take size).head?, blank first = false := by
    intro first begins
    refine trimmed.head first ?_
    rw [List.head?_take] at begins
    split at begins
    · cases begins
    · exact begins
  rw [trim, Word.dropWhile_of_head head]
  exact Word.exists_rdropWhile blank _

theorem Trimmed.trim_drop (size : Nat) :
    ∃ front, text.drop size = front ++ trim blank (text.drop size) ∧
    ∀ letter ∈ front, blank letter = true := by
  obtain ⟨front, split, blanks⟩ := Word.exists_dropWhile blank (text.drop size)
  refine ⟨front, ?_, blanks⟩
  rw [trim, Word.rdropWhile_of_last, ← split]
  intro final ends
  refine trimmed.last final ?_
  rw [← List.take_append_drop size text, split, List.getLast?_append, List.getLast?_append]
  rw [Option.mem_def] at ends
  rw [ends]
  rfl

theorem Trimmed.trim_take_ne_nil {size : Nat} (filled : text ≠ []) (positive : 0 < size) :
    trim blank (text.take size) ≠ [] := by
  obtain ⟨first, rest, rfl⟩ := List.exists_cons_of_ne_nil filled
  obtain ⟨count, rfl⟩ := Nat.exists_eq_add_of_lt positive
  obtain ⟨back, split, blanks⟩ := trimmed.trim_take (0 + count + 1)
  intro empty
  rw [empty, List.nil_append, List.take_succ_cons] at split
  have blankFirst := blanks first (by rw [← split]; exact List.mem_cons_self)
  rw [trimmed.head first rfl] at blankFirst
  cases blankFirst

theorem Trimmed.cut (size : Nat) : ∃ gap, (∀ letter ∈ gap, blank letter = true) ∧
    text = trim blank (text.take size) ++ (gap ++ trim blank (text.drop size)) := by
  obtain ⟨back, before, backBlank⟩ := trimmed.trim_take size
  obtain ⟨front, after, frontBlank⟩ := trimmed.trim_drop size
  refine ⟨back ++ front, fun letter member => ?_, ?_⟩
  · exact (List.mem_append.mp member).elim (backBlank letter) (frontBlank letter)
  · conv_lhs => rw [← List.take_append_drop size text, before, after]
    rw [List.append_assoc, List.append_assoc]

theorem Trimmed.cut_last {size : Nat} (nothing : trim blank (text.drop size) = []) :
    trim blank (text.take size) = text := by
  obtain ⟨gap, blanks, split⟩ := trimmed.cut size
  rw [nothing, List.append_nil] at split
  cases gap using List.reverseRecOn with
  | nil => exact (split.trans (List.append_nil _)).symm
  | append_singleton gap final =>
      have ends : final ∈ text.getLast? := by
        rw [split, ← List.append_assoc, List.getLast?_concat]
        rfl
      have isBlank := blanks final (by simp)
      rw [trimmed.last final ends] at isBlank
      cases isBlank

theorem Trimmed.length_cut_lt {size : Nat} (filled : text ≠ []) (positive : 0 < size) :
    (trim blank (text.drop size)).length < text.length := by
  obtain ⟨gap, -, split⟩ := trimmed.cut size
  have piece := List.length_pos_iff.mpr (trimmed.trim_take_ne_nil filled positive)
  have lengths := congrArg List.length split
  rw [List.length_append, List.length_append] at lengths
  omega

end Cut

end Chunks

end SkillCentric
