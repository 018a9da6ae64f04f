import SkillCentric.Library.Words
import SkillCentric.Runtime.Slug

/-!
# JSON texts

Objects of strings as `json.dumps` writes them with sorted keys and without white space: characters
outside printable ASCII are escaped by their UTF-16 code units.
-/

namespace SkillCentric

open Slug

/-- The UTF-16 code units of a character. -/
def charUnits (c : Char) : List Nat :=
  if c.toNat < 0x10000 then [c.toNat]
  else [0xD800 + (c.toNat - 0x10000) / 0x400, 0xDC00 + (c.toNat - 0x10000) % 0x400]

/-- The UTF-16 code units of a text. -/
def codeUnits (text : Text) : List Nat := text.flatMap charUnits

namespace JsonText

/-- Four hexadecimal digits. -/
def hexUnit (n : Nat) : Text :=
  [Nat.digitChar (n / 4096), Nat.digitChar (n / 256 % 16), Nat.digitChar (n / 16 % 16),
    Nat.digitChar (n % 16)]

/-- A code unit inside a string literal. -/
def escapeUnit (n : Nat) : Text :=
  match n with
  | 8 => ['\\', 'b']
  | 9 => ['\\', 't']
  | 10 => ['\\', 'n']
  | 12 => ['\\', 'f']
  | 13 => ['\\', 'r']
  | 34 => ['\\', '"']
  | 92 => ['\\', '\\']
  | n => if 32 ≤ n && n ≤ 126 then [Char.ofNat n] else '\\' :: 'u' :: hexUnit n

/-- `json.dumps` of a string. -/
def dumpString (value : Text) : Text := '"' :: (codeUnits value).flatMap escapeUnit ++ ['"']

/-- A field of an object whose value is written already. -/
def dumpField (name value : Text) : Text := dumpString name ++ ':' :: value

/-- `json.dumps(fields, sort_keys=True, separators=(",", ":"))` of an object whose values are
written already. -/
def dumpObject (fields : List (Text × Text)) : Text :=
  let sorted := fields.insertionSort fun left right => left.1 ≤ right.1
  Char.ofNat 0x7b :: [','].intercalate (sorted.map fun field => dumpField field.1 field.2) ++
    [Char.ofNat 0x7d]

/-- The value of a hexadecimal digit. -/
def hexValue (c : Char) : Nat := if c.toNat < 58 then c.toNat - 48 else c.toNat - 87

/-- The code unit at the start of the inside of a string literal. -/
def readUnit : Text → Option (Nat × Text)
  | '\\' :: 'u' :: a :: b :: c :: d :: rest =>
      some (4096 * hexValue a + 256 * hexValue b + 16 * hexValue c + hexValue d, rest)
  | '\\' :: 'b' :: rest => some (8, rest)
  | '\\' :: 't' :: rest => some (9, rest)
  | '\\' :: 'n' :: rest => some (10, rest)
  | '\\' :: 'f' :: rest => some (12, rest)
  | '\\' :: 'r' :: rest => some (13, rest)
  | '\\' :: c :: rest => some (c.toNat, rest)
  | c :: rest => some (c.toNat, rest)
  | [] => none

theorem hexValue_digitChar : ∀ digit < 16, hexValue (Nat.digitChar digit) = digit := by decide

theorem toNat_ofNat {n : Nat} (small : n < 0xD800) : (Char.ofNat n).toNat = n := by
  unfold Char.ofNat
  rw [dif_pos (Or.inl small)]
  rfl

theorem readUnit_cons {c : Char} (plain : c ≠ '\\') (rest : Text) :
    readUnit (c :: rest) = some (c.toNat, rest) := by
  unfold readUnit
  split <;> simp_all

theorem readUnit_escapeUnit {n : Nat} (bound : n < 0x10000) (rest : Text) :
    readUnit (escapeUnit n ++ rest) = some (n, rest) := by
  unfold escapeUnit
  split
  · rfl
  · rfl
  · rfl
  · rfl
  · rfl
  · rfl
  · rfl
  · rename_i backslash
    split
    · rename_i printable
      have small : n ≤ 126 := of_decide_eq_true (Bool.and_eq_true_iff.mp printable).2
      rw [List.singleton_append, readUnit_cons, toNat_ofNat (by omega)]
      intro same
      have code := congrArg Char.toNat same
      rw [toNat_ofNat (by omega)] at code
      exact backslash code
    · simp only [hexUnit, List.cons_append, List.nil_append, readUnit]
      rw [hexValue_digitChar _ (by omega), hexValue_digitChar _ (by omega),
        hexValue_digitChar _ (by omega), hexValue_digitChar _ (by omega)]
      congr 2
      omega

theorem escapeUnit_prefixCode : Word.PrefixCode (· < 0x10000) escapeUnit :=
  .of_read fun _ bound => readUnit_escapeUnit bound

theorem toNat_valid (c : Char) : c.toNat < 0xD800 ∨ 0xDFFF < c.toNat ∧ c.toNat < 0x110000 := c.valid

theorem charUnits_lt (c : Char) : ∀ n ∈ charUnits c, n < 0x10000 := by
  have valid := toNat_valid c
  unfold charUnits
  split <;> intro n member
  · rwa [List.mem_singleton.mp member]
  · rcases List.mem_pair.mp member with same | same <;> omega

theorem charUnits_prefixCode : Word.PrefixCode (fun _ => True) charUnits := by
  intro a b _ _ left right same
  have a_valid := toNat_valid a
  have b_valid := toNat_valid b
  unfold charUnits at same
  split at same <;> split at same <;>
    simp only [List.cons_append, List.nil_append, List.cons.injEq] at same
  · exact ⟨Char.toNat_inj.mp same.1, same.2⟩
  · omega
  · omega
  · exact ⟨Char.toNat_inj.mp (by omega), same.2.2⟩

theorem escapeUnit_starts {n : Nat} (bound : n < 0x10000) :
    ∃ first rest, escapeUnit n = first :: rest ∧ first ≠ '"' := by
  have read := readUnit_escapeUnit bound []
  cases escaped : escapeUnit n with
  | nil =>
      rw [escaped] at read
      cases read
  | cons first rest =>
      refine ⟨first, rest, rfl, ?_⟩
      rintro rfl
      rw [escaped, List.append_nil, readUnit_cons (by decide)] at read
      obtain rfl : ('"' : Char).toNat = n := congrArg Prod.fst (Option.some.inj read)
      exact absurd (List.cons.inj escaped).1 (by decide)

theorem escaped_starts (c : Char) :
    ∃ first rest, (charUnits c).flatMap escapeUnit = first :: rest ∧ first ≠ '"' := by
  cases units : charUnits c with
  | nil =>
      unfold charUnits at units
      split at units <;> cases units
  | cons unit units' =>
      obtain ⟨first, rest, escaped, other⟩ :=
        escapeUnit_starts (charUnits_lt c unit (units ▸ List.mem_cons_self))
      exact ⟨first, _, by rw [List.flatMap_cons, escaped, List.cons_append], other⟩

theorem dumpString_append_inj {value other left right : Text}
    (same : dumpString value ++ left = dumpString other ++ right) :
    value = other ∧ left = right := by
  have characters := escapeUnit_prefixCode.comp charUnits_prefixCode charUnits_lt
  unfold dumpString codeUnits at same
  rw [List.cons_append, List.cons_append, List.append_assoc, List.append_assoc, List.flatMap_assoc,
    List.flatMap_assoc] at same
  exact characters.terminated escaped_starts (List.cons.inj same).2

theorem dumpField_append_inj {name value other left right : Text}
    (same : dumpField name (dumpString value) ++ left =
      dumpField name (dumpString other) ++ right) :
    value = other ∧ left = right := by
  unfold dumpField at same
  rw [List.append_assoc, List.append_assoc, List.append_cancel_left_eq, List.cons_append,
    List.cons_append] at same
  exact dumpString_append_inj (List.cons.inj same).2

end JsonText

end SkillCentric
