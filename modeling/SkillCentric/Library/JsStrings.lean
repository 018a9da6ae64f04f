import Mathlib.Data.List.DropRight
import Mathlib.Tactic

/-!
# Strings of 16-bit code units

Strings as a JavaScript host has them: sequences of UTF-16 code units, of a length that the host
bounds.  Trimming, line terminators, the comparison of letters without case, and the UTF-8 bytes, in
which an unpaired surrogate becomes the replacement character.
-/

namespace SkillCentric

/-- The longest string of the host. -/
def maxUnits : Nat := 2 ^ 29 - 24

/-- A string of the host. -/
@[ext]
structure JsString where
  units : List UInt16
  bounded : units.length ≤ maxUnits
  deriving DecidableEq

namespace JsString

/-- The code units of a text. -/
def unitsOf (text : String) : List UInt16 :=
  text.toList.flatMap fun c =>
    if c.toNat < 0x10000 then [UInt16.ofNat c.toNat]
    else [UInt16.ofNat (0xD800 + (c.toNat - 0x10000) / 0x400),
      UInt16.ofNat (0xDC00 + (c.toNat - 0x10000) % 0x400)]

/-- White space and line terminators: what `trim` removes and `\s` matches. -/
def isSpace (unit : UInt16) : Bool :=
  let n := unit.toNat
  (9 ≤ n && n ≤ 13) || n == 0x20 || n == 0xA0 || n == 0x1680 || (0x2000 ≤ n && n ≤ 0x200A) ||
    n == 0x2028 || n == 0x2029 || n == 0x202F || n == 0x205F || n == 0x3000 || n == 0xFEFF

/-- What `.` does not match. -/
def isLineTerminator (unit : UInt16) : Bool :=
  let n := unit.toNat
  n == 10 || n == 13 || n == 0x2028 || n == 0x2029

/-- The canonical form of a unit where case is ignored, as far as ASCII letters go. -/
def canonicalize (unit : UInt16) : UInt16 :=
  if 97 ≤ unit.toNat && unit.toNat ≤ 122 then unit - 32 else unit

/-- `trim` on code units. -/
def trimUnits (units : List UInt16) : List UInt16 := (units.dropWhile isSpace).rdropWhile isSpace

theorem length_trimUnits_le (units : List UInt16) : (trimUnits units).length ≤ units.length :=
  ((List.rdropWhile_prefix isSpace _).length_le).trans (List.dropWhile_sublist isSpace).length_le

/-- `trim`. -/
def trim (string : JsString) : JsString :=
  ⟨trimUnits string.units, (length_trimUnits_le _).trans string.bounded⟩

/-- `string.slice(count)`. -/
def drop (string : JsString) (count : Nat) : JsString :=
  ⟨string.units.drop count, (List.drop_sublist count string.units).length_le.trans string.bounded⟩

/-- The empty string. -/
def empty : JsString := ⟨[], Nat.zero_le _⟩

/-- White space in front does not matter to `trim`. -/
theorem trimUnits_append {gap : List UInt16} (spaces : ∀ unit ∈ gap, isSpace unit = true)
    (units : List UInt16) : trimUnits (gap ++ units) = trimUnits units := by
  rw [trimUnits, List.dropWhile_append_of_pos spaces, trimUnits]

/-- What an unpaired surrogate becomes. -/
def replacementChar : Char := Char.ofNat 0xFFFD

/-- The first unit of a pair. -/
def isHigh (unit : UInt16) : Bool := 0xD800 ≤ unit.toNat && unit.toNat < 0xDC00

/-- The second unit of a pair. -/
def isLow (unit : UInt16) : Bool := 0xDC00 ≤ unit.toNat && unit.toNat < 0xE000

/-- The character of a unit of its own. -/
def single (unit : UInt16) : Char :=
  if isHigh unit || isLow unit then replacementChar else Char.ofNat unit.toNat

/-- The character of a pair. -/
def paired (high low : UInt16) : Char :=
  Char.ofNat (0x10000 + (high.toNat - 0xD800) * 0x400 + (low.toNat - 0xDC00))

/-- The characters of code units. -/
def scalars : List UInt16 → List Char
  | [] => []
  | [unit] => [single unit]
  | first :: second :: rest =>
      if isHigh first && isLow second then paired first second :: scalars rest
      else single first :: scalars (second :: rest)

/-- `new TextEncoder().encode(string)`. -/
def encode (string : JsString) : List UInt8 := (scalars string.units).flatMap String.utf8EncodeChar

theorem length_scalars_le (units : List UInt16) : (scalars units).length ≤ units.length := by
  fun_induction scalars units with
  | case1 => exact le_rfl
  | case2 => exact le_rfl
  | case3 first second rest _ ih =>
      simp only [List.length_cons]
      omega
  | case4 first second rest _ ih =>
      simp only [List.length_cons] at ih ⊢
      omega

theorem length_encode_lt (string : JsString) : (encode string).length < 2 ^ 32 := by
  have each : ∀ c ∈ scalars string.units, (String.utf8EncodeChar c).length ≤ 4 := by
    intro c _
    rw [String.length_utf8EncodeChar]
    exact c.utf8Size_le_four
  have bytes : (encode string).length ≤ (scalars string.units).length * 4 := by
    rw [encode, List.length_flatMap]
    exact (List.sum_le_card_nsmul _ 4 (by simpa using each)).trans (by simp)
  have units := (length_scalars_le string.units).trans string.bounded
  rw [maxUnits] at units
  omega

/-- The differences of two byte strings, the shorter one padded with zeros, from a position on. -/
def differences (left right : List UInt8) : List Nat → BitVec 32 → BitVec 32
  | [], diff => diff
  | index :: rest, diff =>
      differences left right rest
        (diff ||| (BitVec.ofNat 32 (left[index]?.getD 0).toNat ^^^
          BitVec.ofNat 32 (right[index]?.getD 0).toNat))

/-- The comparison that looks at every byte: `^` and `|` on 32-bit integers. -/
def bytesEqual (left right : List UInt8) : Bool :=
  differences left right (List.range (max left.length right.length))
    (BitVec.ofNat 32 left.length ^^^ BitVec.ofNat 32 right.length) == 0#32

theorem ofNat_byte_inj {left right : UInt8}
    (same : BitVec.ofNat 32 left.toNat = BitVec.ofNat 32 right.toNat) : left = right := by
  have value := congrArg BitVec.toNat same
  rw [BitVec.toNat_ofNat, BitVec.toNat_ofNat] at value
  have leftBound := left.toNat_lt
  have rightBound := right.toNat_lt
  exact UInt8.toNat_inj.mp (by omega)

theorem differences_eq_zero {left right : List UInt8} {indices : List Nat} {diff : BitVec 32} :
    differences left right indices diff = 0#32 ↔
      diff = 0#32 ∧ ∀ index ∈ indices, left[index]?.getD 0 = right[index]?.getD 0 := by
  induction indices generalizing diff with
  | nil => simp [differences]
  | cons index rest ih =>
      rw [differences, ih, BitVec.or_eq_zero_iff, BitVec.xor_eq_zero_iff, and_assoc,
        List.forall_mem_cons]
      exact and_congr_right fun _ => and_congr_left fun _ =>
        ⟨ofNat_byte_inj, fun same => by rw [same]⟩

theorem bytesEqual_iff {left right : List UInt8} (leftShort : left.length < 2 ^ 32)
    (rightShort : right.length < 2 ^ 32) : bytesEqual left right = true ↔ left = right := by
  rw [bytesEqual, beq_iff_eq, differences_eq_zero, BitVec.xor_eq_zero_iff]
  constructor
  · rintro ⟨lengths, bytes⟩
    have value := congrArg BitVec.toNat lengths
    rw [BitVec.toNat_ofNat, BitVec.toNat_ofNat, Nat.mod_eq_of_lt leftShort,
      Nat.mod_eq_of_lt rightShort] at value
    refine List.ext_getElem value fun index inLeft inRight => ?_
    have same := bytes index (List.mem_range.mpr (lt_max_of_lt_left inLeft))
    rw [List.getElem?_eq_getElem inLeft, List.getElem?_eq_getElem inRight] at same
    exact same
  · rintro rfl
    exact ⟨rfl, fun _ _ => rfl⟩

end JsString

end SkillCentric
