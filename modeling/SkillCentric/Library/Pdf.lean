import Mathlib.Data.List.Basic
import Mathlib.Tactic

/-!
# Bytes of a PDF file

Parts of a file lie at their offsets, whatever is appended later.  The literal strings of a content
stream are read by a scanner with one transition per byte: escapes, octal codes, nested parentheses,
comments and ends of lines, which count as one line feed however they are written.  An escaped text
between parentheses is read back up to its ends of lines.
-/

namespace SkillCentric

namespace Pdf

/-- A part lies at an offset. -/
def At (bytes : List UInt8) (offset : Nat) (part : List UInt8) : Prop := part <+: bytes.drop offset

variable {bytes part more : List UInt8} {offset : Nat}

theorem At.append (placed : At bytes offset part) (more : List UInt8) :
    At (bytes ++ more) offset part := by
  rw [At, List.drop_append]
  exact placed.trans (List.prefix_append _ _)

theorem At.of_prefix (placed : At bytes offset part) (start : more <+: part) :
    At bytes offset more := start.trans placed

theorem at_length (bytes part : List UInt8) : At (bytes ++ part) bytes.length part := by
  rw [At, List.drop_left]

theorem At.append_right (placed : At bytes offset (part ++ more)) :
    At bytes (offset + part.length) more := by
  obtain ⟨rest, whole⟩ := placed
  rw [At, ← List.drop_drop, ← whole, List.append_assoc, List.drop_left]
  exact List.prefix_append _ _

theorem At.flatMap {α : Type} {items : List α} {write : α → List UInt8} {width : Nat}
    (widths : ∀ item ∈ items, (write item).length = width)
    (placed : At bytes offset (items.flatMap write)) {index : Nat} {item : α}
    (found : items[index]? = some item) : At bytes (offset + width * index) (write item) := by
  induction items generalizing index offset with
  | nil => cases found
  | cons first rest ih =>
      rw [List.flatMap_cons] at placed
      cases index with
      | zero =>
          obtain rfl : first = item := by simpa using found
          exact placed.of_prefix (List.prefix_append _ _)
      | succ index =>
          have later := placed.append_right
          rw [widths first (by simp)] at later
          have at_item := ih (fun item member => widths item (by simp [member])) later
            (by simpa using found)
          rwa [Nat.mul_succ, Nat.add_comm (width * index), ← Nat.add_assoc]

/-- Where a scanner is, with the depth of nested parentheses inside of a string. -/
inductive Mode where
  | outside
  | comment
  | plain (depth : Nat)
  /-- After a carriage return: a line feed belongs to it. -/
  | returned (depth : Nat)
  /-- After a backslash. -/
  | escaped (depth : Nat)
  /-- After a backslash and a carriage return. -/
  | continued (depth : Nat)
  /-- After a backslash and some octal digits. -/
  | octal (depth value digits : Nat)

/-- A scanner, with the bytes of the string at hand and the strings that are read. -/
structure Scanner where
  mode : Mode := .outside
  current : List UInt8 := []
  done : List (List UInt8) := []

namespace Scanner

/-- A byte of the string. -/
def push (scanner : Scanner) (mode : Mode) (byte : UInt8) : Scanner :=
  { scanner with mode, current := scanner.current ++ [byte] }

/-- A byte of a string that stands for itself or delimits. -/
def readPlain (scanner : Scanner) (depth : Nat) (byte : UInt8) : Scanner :=
  if byte = 92 then { scanner with mode := .escaped depth }
  else if byte = 40 then scanner.push (.plain (depth + 1)) byte
  else if byte = 41 then
    match depth with
    | 0 => { mode := .outside, current := [], done := scanner.done ++ [scanner.current] }
    | outer + 1 => scanner.push (.plain outer) byte
  else if byte = 13 then scanner.push (.returned depth) 10
  else scanner.push (.plain depth) byte

/-- The byte that an escape of one character stands for. -/
def escapeCode (byte : UInt8) : UInt8 :=
  if byte = 110 then 10
  else if byte = 114 then 13
  else if byte = 116 then 9
  else if byte = 98 then 8
  else if byte = 102 then 12
  else byte

/-- An octal digit. -/
def isOctal (byte : UInt8) : Bool := 48 ≤ byte && byte ≤ 55

/-- A byte after a backslash. -/
def readEscaped (scanner : Scanner) (depth : Nat) (byte : UInt8) : Scanner :=
  if isOctal byte then { scanner with mode := .octal depth (byte.toNat - 48) 1 }
  else if byte = 13 then { scanner with mode := .continued depth }
  else if byte = 10 then { scanner with mode := .plain depth }
  else scanner.push (.plain depth) (escapeCode byte)

/-- One byte of a content stream. -/
def readByte (scanner : Scanner) (byte : UInt8) : Scanner :=
  match scanner.mode with
  | .outside =>
      if byte = 40 then { scanner with mode := .plain 0, current := [] }
      else if byte = 37 then { scanner with mode := .comment }
      else scanner
  | .comment => if byte = 10 ∨ byte = 13 then { scanner with mode := .outside } else scanner
  | .plain depth => scanner.readPlain depth byte
  | .returned depth =>
      if byte = 10 then { scanner with mode := .plain depth } else scanner.readPlain depth byte
  | .escaped depth => scanner.readEscaped depth byte
  | .continued depth =>
      if byte = 10 then { scanner with mode := .plain depth } else scanner.readPlain depth byte
  | .octal depth value digits =>
      if isOctal byte ∧ digits < 3 then
        { scanner with mode := .octal depth (value * 8 + (byte.toNat - 48)) (digits + 1) }
      else (scanner.push (.plain depth) (UInt8.ofNat value)).readPlain depth byte

/-- A row of bytes. -/
def readAll (scanner : Scanner) (bytes : List UInt8) : Scanner := bytes.foldl readByte scanner

theorem readAll_append (scanner : Scanner) (left right : List UInt8) :
    scanner.readAll (left ++ right) = (scanner.readAll left).readAll right := List.foldl_append

/-- The scanner between two strings. -/
def between (done : List (List UInt8)) : Scanner := { done }

theorem readAll_between {done : List (List UInt8)} {bytes : List UInt8}
    (operators : (bytes.all fun byte => byte ≠ 40 ∧ byte ≠ 37) = true) :
    (between done).readAll bytes = between done := by
  induction bytes with
  | nil => rfl
  | cons byte rest ih =>
      rw [List.all_cons, Bool.and_eq_true, decide_eq_true_eq] at operators
      obtain ⟨⟨no_string, no_comment⟩, operators⟩ := operators
      have same : (between done).readByte byte = between done := by
        simp only [between, readByte, if_neg no_string, if_neg no_comment]
      rw [readAll, List.foldl_cons, same]
      exact ih operators

end Scanner

open Scanner

/-- The literal strings of a content stream. -/
def strings (stream : List UInt8) : List (List UInt8) := (readAll {} stream).done

/-- A byte as it is escaped. -/
def escapeByte (byte : UInt8) : List UInt8 :=
  if byte = 92 ∨ byte = 40 ∨ byte = 41 then [92, byte] else [byte]

/-- A text as it is escaped. -/
def escape (text : List UInt8) : List UInt8 := text.flatMap escapeByte

/-- A text with one line feed for each end of a line; `after` tells that a carriage return stands
before it. -/
def unified : Bool → List UInt8 → List UInt8
  | _, [] => []
  | after, byte :: rest =>
      if byte = 13 then 10 :: unified true rest
      else if after = true ∧ byte = 10 then unified false rest
      else byte :: unified false rest

/-- A text ends with a carriage return. -/
def endsReturned : Bool → List UInt8 → Bool
  | after, [] => after
  | _, byte :: rest => endsReturned (byte = 13) rest

theorem unified_of_no_return {text : List UInt8} (no_return : (13 : UInt8) ∉ text) :
    unified false text = text := by
  induction text with
  | nil => rfl
  | cons byte rest ih =>
      have other : byte ≠ 13 := fun same => no_return (by simp [same])
      rw [unified, if_neg other, if_neg (by simp),
        ih fun member => no_return (List.mem_cons_of_mem _ member)]

/-- The scanner inside of a string. -/
def inside (after : Bool) (current : List UInt8) (done : List (List UInt8)) : Scanner where
  mode := if after then .returned 0 else .plain 0
  current
  done

variable {after : Bool} {current : List UInt8} {done : List (List UInt8)}

theorem readByte_inside {byte : UInt8} (no_feed : byte ≠ 10) :
    (inside after current done).readByte byte = (inside false current done).readPlain 0 byte := by
  cases after with
  | false => rfl
  | true =>
      simp only [inside, readByte, if_neg no_feed, if_true]
      unfold readPlain push
      rfl

theorem readAll_escapeByte (byte : UInt8) : (inside after current done).readAll (escapeByte byte) =
    inside (byte = 13) (current ++ unified after [byte]) done := by
  unfold escapeByte
  by_cases special : byte = 92 ∨ byte = 40 ∨ byte = 41
  · rw [if_pos special, readAll, List.foldl_cons, List.foldl_cons, List.foldl_nil,
      readByte_inside (by decide)]
    rcases special with rfl | rfl | rfl
    · cases after <;> rfl
    · cases after <;> rfl
    · cases after <;> rfl
  · rw [if_neg special, readAll, List.foldl_cons, List.foldl_nil]
    push Not at special
    by_cases feed : byte = 10
    · subst feed
      cases after with
      | false => rfl
      | true =>
          simp only [inside, readByte, unified]
          simp
    · rw [readByte_inside feed, readPlain, if_neg special.1, if_neg special.2.1, if_neg special.2.2]
      by_cases returns : byte = 13
      · subst returns
        cases after <;> rfl
      · rw [if_neg returns, unified, if_neg returns, if_neg (by simp [feed])]
        simp [inside, push, returns, unified]

private theorem unified_cons (after : Bool) (byte : UInt8) (rest : List UInt8) :
    unified after (byte :: rest) = unified after [byte] ++ unified (byte = 13) rest := by
  by_cases returns : byte = 13
  · simp [unified, returns]
  · by_cases feed : after = true ∧ byte = 10
    · simp [unified, feed]
    · simp [unified, returns, feed]

theorem readAll_escape (text : List UInt8) : (inside after current done).readAll (escape text) =
    inside (endsReturned after text) (current ++ unified after text) done := by
  induction text generalizing after current with
  | nil => rw [unified, List.append_nil]; rfl
  | cons byte rest ih =>
      rw [escape, List.flatMap_cons, readAll_append, readAll_escapeByte]
      change (inside _ _ _).readAll (escape rest) = _
      rw [ih, unified_cons after byte rest, endsReturned, List.append_assoc]

/-- A text as a literal string. -/
def literal (text : List UInt8) : List UInt8 := 40 :: escape text ++ [41]

theorem readAll_literal (done : List (List UInt8)) (text : List UInt8) :
    (between done).readAll (literal text) = between (done ++ [unified false text]) := by
  rw [literal, List.cons_append, readAll, List.foldl_cons]
  change (inside false [] done).readAll (escape text ++ [41]) = _
  rw [readAll_append, readAll_escape, List.nil_append, readAll, List.foldl_cons, List.foldl_nil,
    readByte_inside (by decide)]
  rfl

end Pdf

end SkillCentric
