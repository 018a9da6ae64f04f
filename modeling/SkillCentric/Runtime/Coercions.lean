import SkillCentric.Runtime.TaskAnalyzer

/-!
# Coercions of JSON values

How the host language reads a value of unknown type: `in`, `int`, lookups with a default, and the
sets of strings the authority checks work with.
-/

namespace SkillCentric

namespace Json

/-- The type name in error messages. -/
def typeName : Json → Text
  | .null => "NoneType"
  | .bool _ => "bool"
  | .int _ => "int"
  | .float _ => "float"
  | .str _ => "str"
  | .arr _ => "list"
  | .obj _ => "dict"

/-- `value.get(key, default)` on a mapping. -/
def item (value : Json) (key : Text) (default : Json := .null) : Json :=
  (value.get? key).getD default

/-- Zero digits of the decimal systems of Unicode. -/
def zeroDigits : List Nat :=
  [0x30, 0x660, 0x6f0, 0x7c0, 0x966, 0x9e6, 0xa66, 0xae6, 0xb66, 0xbe6, 0xc66, 0xce6, 0xd66, 0xde6,
    0xe50, 0xed0, 0xf20, 0x1040, 0x1090, 0x17e0, 0x1810, 0x1946, 0x19d0, 0x1a80, 0x1a90, 0x1b50,
    0x1bb0, 0x1c40, 0x1c50, 0xa620, 0xa8d0, 0xa900, 0xa9d0, 0xa9f0, 0xaa50, 0xabf0, 0xff10,
    0x104a0, 0x10d30, 0x11066, 0x110f0, 0x11136, 0x111d0, 0x112f0, 0x11450, 0x114d0, 0x11650,
    0x116c0, 0x11730, 0x118e0, 0x11950, 0x11c50, 0x11d50, 0x11da0, 0x16a60, 0x16ac0, 0x16b50,
    0x1d7ce, 0x1d7d8, 0x1d7e2, 0x1d7ec, 0x1d7f6, 0x1e140, 0x1e2f0, 0x1e950, 0x1fbf0]

/-- Value of a decimal digit. -/
def digit? (c : Char) : Option Nat :=
  (zeroDigits.find? fun first => first ≤ c.toNat && c.toNat < first + 10).map (c.toNat - ·)

/-- Digits with single underscores between them. -/
def intDigits : Text → Option (List Nat)
  | [] => none
  | [c] => (digit? c).map ([·])
  | c :: '_' :: rest => do return (← digit? c) :: (← intDigits rest)
  | c :: rest => do return (← digit? c) :: (← intDigits rest)

/-- `int(text)`. -/
def intOfText (text : Text) : Except PyError Int :=
  let body := strip text
  let (negative, body) := match body with
    | '-' :: rest => (true, rest)
    | '+' :: rest => (false, rest)
    | _ => (false, body)
  match intDigits body with
  | none => .error ⟨.valueError,
      ("invalid literal for int() with base 10: " : Text) ++ quoteText text, none⟩
  | some digits =>
      if 4300 < digits.length then
        .error ⟨.valueError,
          ("Exceeds the limit (4300 digits) for integer string conversion: value has " : Text) ++
            decimal digits.length ++
            (" digits; use sys.set_int_max_str_digits() to increase the limit" : Text), none⟩
      else
        let value : Int := digits.foldl (fun value digit => 10 * value + digit) 0
        .ok (if negative then -value else value)

/-- `int(value)`. -/
def toInt : Json → Except PyError Int
  | .int value => .ok value
  | .bool value => .ok (if value then 1 else 0)
  | .float digits =>
      if digits = ("nan" : Text) then
        .error ⟨.valueError, "cannot convert float NaN to integer", none⟩
      else if digits = ("inf" : Text) ∨ digits = ("-inf" : Text) then
        .error ⟨.overflowError, "cannot convert float infinity to integer", none⟩
      else .ok (floatInt digits).1
  | .str text => intOfText text
  | value => .error ⟨.typeError,
      ("int() argument must be a string, a bytes-like object or a real number, not '" : Text) ++
        value.typeName ++ ("'" : Text), none⟩

/-- `needle in value`. -/
def contains (value : Json) (needle : Text) : Except PyError Bool :=
  match value with
  | .arr items => .ok (items.any fun item => equal item (.str needle))
  | .str text => .ok (decide (needle <:+: text))
  | .obj fields => .ok (fields.any fun entry => entry.1 == needle)
  | value => .error ⟨.typeError,
      ("argument of type '" : Text) ++ value.typeName ++ ("' is not iterable" : Text), none⟩

/-- `value in frozenset(...)` of strings. -/
def isOneOf (value : Json) (allowed : List Text) : Except PyError Bool :=
  match value with
  | .str text => .ok (allowed.contains text)
  | .arr _ | .obj _ => .error ⟨.typeError,
      ("unhashable type: '" : Text) ++ value.typeName ++ ("'" : Text), none⟩
  | _ => .ok false

/-- `_string_set`. -/
def stringSet : Json → List Text
  | .arr items => ((items.map pyStr).filter fun text => strip text ≠ []).eraseDups
  | _ => []

/-- `_mappings`. -/
def mappings : Json → List Json
  | .arr items => items.filter isMapping
  | _ => []

/-- `{value["id"]: value for value in values if ...}.get(id)`: the last mapping with the id. -/
def lastById (values : List Json) (id : Text) : Option Json :=
  values.reverse.find? fun value => value.get? "id" == some (.str id)

/-- `sorted(requested - allowed)`. -/
def missing (requested allowed : List Text) : List Text :=
  ((requested.filter fun text => !allowed.contains text).eraseDups).insertionSort (· ≤ ·)

/-- `", ".join(texts)`. -/
def join (texts : List Text) : Text := List.intercalate (", " : Text) texts

theorem get?_of_item {value found : Json} {key : Text} (read : value.item key = found)
    (present : found ≠ .null) : value.get? key = some found := by
  unfold item at read
  cases stored : value.get? key with
  | none =>
      rw [stored] at read
      exact (present read.symm).elim
  | some other =>
      rw [stored] at read
      exact congrArg some read

theorem item_default {value found : Json} {key : Text} (default : Json)
    (read : value.item key = found) (present : found ≠ .null) : value.item key default = found := by
  rw [item, get?_of_item read present, Option.getD_some]

theorem contains_arr (items : List Json) (needle : Text) :
    contains (.arr items) needle = .ok true ↔ .str needle ∈ items := by
  simp [contains]

theorem contains_str (text needle : Text) :
    contains (.str text) needle = .ok true ↔ needle <:+: text := by
  simp [contains]

theorem contains_obj (fields : List (Text × Json)) (needle : Text) :
    contains (.obj fields) needle = .ok true ↔ needle ∈ fields.map Prod.fst := by
  simp [contains]

theorem mem_stringSet {value : Json} {text : Text} :
    text ∈ stringSet value ↔
      ∃ items, value = .arr items ∧ text ∈ items.map pyStr ∧ strip text ≠ [] := by
  cases value with
  | arr items => simp [stringSet]
  | _ => simp [stringSet]

theorem missing_eq_nil {requested allowed : List Text} :
    missing requested allowed = [] ↔ ∀ text ∈ requested, text ∈ allowed := by
  have sorted : missing requested allowed = [] ↔
      (requested.filter fun text => !allowed.contains text).eraseDups = [] := by
    rw [missing]
    exact ⟨fun empty => List.eq_nil_of_length_eq_zero (by
      rw [← List.length_insertionSort (· ≤ ·), empty, List.length_nil]),
      fun empty => by rw [empty]; rfl⟩
  rw [sorted, List.eq_nil_iff_forall_not_mem]
  simp only [List.mem_eraseDups, List.mem_filter, Bool.not_eq_true', List.contains_eq_mem,
    decide_eq_false_iff_not, not_and, not_not]

theorem lastById_mem {values : List Json} {id : Text} {value : Json}
    (found : lastById values id = some value) :
    value ∈ values ∧ value.get? "id" = some (.str id) := by
  refine ⟨List.mem_reverse.mp (List.mem_of_find?_eq_some found), ?_⟩
  simpa using List.find?_some found

end Json

end SkillCentric
