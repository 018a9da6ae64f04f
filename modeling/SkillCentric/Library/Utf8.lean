import Mathlib.Tactic

/-!
# UTF-8 with replacement

Decoding with replacement never fails: a start of a character that is broken off becomes one
replacement character.  A word that is cut anywhere between its bytes decodes to a start of the
word, with one replacement character more when the cut goes through a character.
-/

namespace SkillCentric

namespace Utf8

/-- The replacement character. -/
def replacement : Char := Char.ofNat 0xFFFD

/-- A character whose first bytes are read: how many follow the next one, the value so far, and the
range of the next one. -/
structure Pending where
  needed : Nat
  value : Nat
  lower : Nat := 0x80
  upper : Nat := 0xBF

/-- What the first byte of a character leads to: the characters that are complete, and the one that
is under way. -/
def start (byte : Nat) : List Char × Option Pending :=
  if byte < 0x80 then ([Char.ofNat byte], none)
  else if byte < 0xC2 then ([replacement], none)
  else if byte < 0xE0 then ([], some { needed := 0, value := byte - 0xC0 })
  else if byte < 0xF0 then
    ([], some {
      needed := 1
      value := byte - 0xE0
      lower := if byte = 0xE0 then 0xA0 else 0x80
      upper := if byte = 0xED then 0x9F else 0xBF })
  else if byte < 0xF5 then
    ([], some {
      needed := 2
      value := byte - 0xF0
      lower := if byte = 0xF0 then 0x90 else 0x80
      upper := if byte = 0xF4 then 0x8F else 0xBF })
  else ([replacement], none)

/-- One more byte. -/
def next (state : Option Pending) (byte : Nat) : List Char × Option Pending :=
  match state with
  | none => start byte
  | some pending =>
      if pending.lower ≤ byte ∧ byte ≤ pending.upper then
        let value := 64 * pending.value + (byte - 0x80)
        match pending.needed with
        | 0 => ([Char.ofNat value], none)
        | needed + 1 => ([], some { needed, value })
      else (replacement :: (start byte).1, (start byte).2)

/-- Decoding from a state on. -/
def decodeFrom (state : Option Pending) : List UInt8 → List Char
  | [] => if state.isSome then [replacement] else []
  | byte :: rest =>
      (next state byte.toNat).1 ++ decodeFrom (next state byte.toNat).2 rest

/-- Decoding with replacement. -/
def decode (bytes : List UInt8) : List Char := decodeFrom none bytes

variable {c : Char} {state : Option Pending} {needed value lower upper byte : Nat}

theorem toNat_valid (c : Char) : c.toNat < 0xD800 ∨ 0xDFFF < c.toNat ∧ c.toNat < 0x110000 := c.valid

theorem next_last (in_range : lower ≤ byte ∧ byte ≤ upper) :
    next (some ⟨0, value, lower, upper⟩) byte =
      ([Char.ofNat (64 * value + (byte - 0x80))], none) := by
  simp only [next, if_pos in_range]

theorem next_more (in_range : lower ≤ byte ∧ byte ≤ upper) :
    next (some ⟨needed + 1, value, lower, upper⟩) byte =
      ([], some { needed, value := 64 * value + (byte - 0x80) }) := by
  simp only [next, if_pos in_range]

/-- The states that the bytes of a character go through: each of them but the last leaves the
character under way, and the last one completes it. -/
inductive Completes (c : Char) : Option Pending → List UInt8 → Prop
  | last {state : Option Pending} {byte : UInt8} (completes : next state byte.toNat = ([c], none)) :
      Completes c state [byte]
  | more {state : Option Pending} {byte : UInt8} {pending : Pending} {rest : List UInt8}
      (under_way : next state byte.toNat = ([], some pending))
      (completes : Completes c (some pending) rest) : Completes c state (byte :: rest)

theorem Completes.decodeFrom {bytes : List UInt8} (completes : Completes c state bytes)
    (rest : List UInt8) : decodeFrom state (bytes ++ rest) = c :: decodeFrom none rest := by
  induction completes with
  | last completed => simp [Utf8.decodeFrom, completed]
  | more under_way _ ih => simp [Utf8.decodeFrom, under_way, ih]

theorem Completes.decodeFrom_take {bytes : List UInt8} (completes : Completes c state bytes)
    {cut : Nat} (inside : cut < bytes.length) (begun : state.isSome ∨ 0 < cut) :
    Utf8.decodeFrom state (bytes.take cut) = [replacement] := by
  induction completes generalizing cut with
  | last completed =>
      obtain rfl : cut = 0 := by simpa using inside
      simp [Utf8.decodeFrom, begun.resolve_right (lt_irrefl 0)]
  | more under_way _ ih =>
      cases cut with
      | zero => simp [Utf8.decodeFrom, begun.resolve_right (lt_irrefl 0)]
      | succ cut =>
          rw [List.take_succ_cons, Utf8.decodeFrom, under_way,
            ih (Nat.lt_of_succ_lt_succ inside) (.inl rfl)]
          rfl

theorem ofNat_toNat_eq {n : Nat} (same : n = c.toNat) : Char.ofNat n = c := by
  rw [same, Char.ofNat_toNat]

theorem byte_toNat {n : Nat} (small : n < 256) : (UInt8.ofNat n).toNat = n := by
  simp [Nat.mod_eq_of_lt small]

theorem start_two (least : 0xC2 ≤ byte) (greatest : byte < 0xE0) :
    start byte = ([], some { needed := 0, value := byte - 0xC0 }) := by
  rw [start, if_neg (by omega), if_neg (by omega), if_pos greatest]

theorem start_three (least : 0xE0 ≤ byte) (greatest : byte < 0xF0) :
    start byte = ([], some {
      needed := 1
      value := byte - 0xE0
      lower := if byte = 0xE0 then 0xA0 else 0x80
      upper := if byte = 0xED then 0x9F else 0xBF }) := by
  rw [start, if_neg (by omega), if_neg (by omega), if_neg (by omega), if_pos greatest]

theorem start_four (least : 0xF0 ≤ byte) (greatest : byte < 0xF5) :
    start byte = ([], some {
      needed := 2
      value := byte - 0xF0
      lower := if byte = 0xF0 then 0x90 else 0x80
      upper := if byte = 0xF4 then 0x8F else 0xBF }) := by
  rw [start, if_neg (by omega), if_neg (by omega), if_neg (by omega), if_neg (by omega),
    if_pos greatest]

theorem completes (c : Char) : Completes c none (String.utf8EncodeChar c) := by
  have valid := toNat_valid c
  have value : c.val.toNat = c.toNat := rfl
  unfold String.utf8EncodeChar
  simp only [value]
  split_ifs with one two three
  · apply Completes.last
    rw [byte_toNat (by omega)]
    simp only [next, start, if_pos (show c.toNat < 0x80 by omega), Char.ofNat_toNat]
  · apply Completes.more
    · rw [byte_toNat (by omega)]
      exact start_two (by omega) (by omega)
    · apply Completes.last
      rw [byte_toNat (by omega), next_last (by omega), @ofNat_toNat_eq c _ (by omega)]
  · apply Completes.more
    · rw [byte_toNat (by omega)]
      exact start_three (by omega) (by omega)
    · apply Completes.more
      · rw [byte_toNat (by omega)]
        exact next_more (by split_ifs <;> omega)
      · apply Completes.last
        rw [byte_toNat (by omega), next_last (by omega), @ofNat_toNat_eq c _ (by omega)]
  · apply Completes.more
    · rw [byte_toNat (by omega)]
      exact start_four (by omega) (by omega)
    · apply Completes.more
      · rw [byte_toNat (by omega)]
        exact next_more (by split_ifs <;> omega)
      · apply Completes.more
        · rw [byte_toNat (by omega)]
          exact next_more (by omega)
        · apply Completes.last
          rw [byte_toNat (by omega), next_last (by omega), @ofNat_toNat_eq c _ (by omega)]

theorem decode_char (c : Char) (rest : List UInt8) :
    decode (String.utf8EncodeChar c ++ rest) = c :: decode rest :=
  (completes c).decodeFrom rest

/-- Where the bytes of a word are cut: the characters that are kept, and how many bytes of the next
one. -/
def cutAt : Nat → List Char → List Char × Nat
  | _, [] => ([], 0)
  | limit, c :: word =>
      let size := (String.utf8EncodeChar c).length
      if size ≤ limit then (c :: (cutAt (limit - size) word).1, (cutAt (limit - size) word).2)
      else ([], limit)

theorem cutAt_prefix (limit : Nat) (word : List Char) : (cutAt limit word).1 <+: word := by
  induction word generalizing limit with
  | nil => exact List.prefix_rfl
  | cons c word ih =>
      rw [cutAt]
      split_ifs with fits
      · exact (List.prefix_cons_inj c).mpr (ih _)
      · exact List.nil_prefix

theorem cutAt_lt_four (limit : Nat) (word : List Char) : (cutAt limit word).2 < 4 := by
  induction word generalizing limit with
  | nil => exact Nat.zero_lt_succ 3
  | cons c word ih =>
      rw [cutAt]
      split_ifs with fits
      · exact ih _
      · have size := Char.utf8Size_le_four c
        rw [String.length_utf8EncodeChar] at fits
        simp only
        omega

theorem cutAt_next {limit : Nat} {word : List Char} (through : (cutAt limit word).2 ≠ 0) :
    ∃ c, (cutAt limit word).1 ++ [c] <+: word := by
  induction word generalizing limit with
  | nil => exact (through rfl).elim
  | cons c word ih =>
      rw [cutAt] at through ⊢
      split_ifs at through ⊢ with fits
      · obtain ⟨next, begins⟩ := ih through
        exact ⟨next, (List.prefix_cons_inj c).mpr begins⟩
      · exact ⟨c, (List.prefix_cons_inj c).mpr List.nil_prefix⟩

theorem decode_take (limit : Nat) (word : List Char) :
    decode ((word.flatMap String.utf8EncodeChar).take limit) =
      (cutAt limit word).1 ++ if (cutAt limit word).2 = 0 then [] else [replacement] := by
  induction word generalizing limit with
  | nil => simp [cutAt, decode, decodeFrom]
  | cons c word ih =>
      rw [List.flatMap_cons, List.take_append, cutAt]
      by_cases fits : (String.utf8EncodeChar c).length ≤ limit
      · rw [List.take_of_length_le fits, decode_char, ih, if_pos fits, List.cons_append]
      · have inside : limit < (String.utf8EncodeChar c).length := by omega
        have rest : limit - (String.utf8EncodeChar c).length = 0 := by omega
        rw [rest, List.take_zero, List.append_nil, if_neg fits]
        by_cases none_kept : limit = 0
        · subst none_kept
          rfl
        · rw [if_neg none_kept, decode, (completes c).decodeFrom_take inside (.inr (by omega))]
          rfl

theorem cutAt_length {limit : Nat} {word : List Char}
    (longer : limit < (word.flatMap String.utf8EncodeChar).length) :
    ((cutAt limit word).1.flatMap String.utf8EncodeChar).length + (cutAt limit word).2 = limit := by
  induction word generalizing limit with
  | nil => simp at longer
  | cons c word ih =>
      rw [List.flatMap_cons, List.length_append] at longer
      rw [cutAt]
      split_ifs with fits
      · have rest := @ih (limit - (String.utf8EncodeChar c).length) (by omega)
        simp only [List.flatMap_cons, List.length_append]
        omega
      · simp

end Utf8

end SkillCentric
