import SkillCentric.Runtime.Slug

/-!
# JSON values and raised errors

Tasks, context responses and profiles are JSON values.  `pyStr`, `truthy`, `equal` and `iterate` are
the host language's `str`, truth test, `==` and iteration on them.  Raised errors carry their class,
message and, where the class has one, the `stop_reason` attribute.
-/

namespace SkillCentric

/-- JSON values; a float is kept as its shortest decimal notation. -/
inductive Json where
  | null
  | bool (value : Bool)
  | int (value : Int)
  | float (digits : Text)
  | str (value : Text)
  | arr (items : List Json)
  | obj (fields : List (Text × Json))

namespace Json

instance : Inhabited Json := ⟨.null⟩

mutual

/-- Structural equality. -/
def same : Json → Json → Bool
  | .null, .null => true
  | .bool left, .bool right => left == right
  | .int left, .int right => left == right
  | .float left, .float right => left == right
  | .str left, .str right => left == right
  | .arr left, .arr right => sameItems left right
  | .obj left, .obj right => sameFields left right
  | _, _ => false

/-- Structural equality of lists. -/
def sameItems : List Json → List Json → Bool
  | [], [] => true
  | left :: lefts, right :: rights => same left right && sameItems lefts rights
  | _, _ => false

/-- Structural equality of fields. -/
def sameFields : List (Text × Json) → List (Text × Json) → Bool
  | [], [] => true
  | (leftName, left) :: lefts, (rightName, right) :: rights =>
      leftName == rightName && same left right && sameFields lefts rights
  | _, _ => false

end

mutual

theorem same_iff : (left right : Json) → (same left right = true ↔ left = right)
  | .arr left, .arr right => by simp [same, sameItems_iff left right]
  | .obj left, .obj right => by simp [same, sameFields_iff left right]
  | .null, right => by cases right <;> simp [same]
  | .bool left, right => by cases right <;> simp [same]
  | .int left, right => by cases right <;> simp [same]
  | .float left, right => by cases right <;> simp [same]
  | .str left, right => by cases right <;> simp [same]
  | .arr left, .null | .arr left, .bool _ | .arr left, .int _ | .arr left, .float _
  | .arr left, .str _ | .arr left, .obj _ => by simp [same]
  | .obj left, .null | .obj left, .bool _ | .obj left, .int _ | .obj left, .float _
  | .obj left, .str _ | .obj left, .arr _ => by simp [same]

theorem sameItems_iff : (left right : List Json) → (sameItems left right = true ↔ left = right)
  | [], [] => by simp [sameItems]
  | [], _ :: _ => by simp [sameItems]
  | _ :: _, [] => by simp [sameItems]
  | left :: lefts, right :: rights => by
      simp [sameItems, same_iff left right, sameItems_iff lefts rights]

theorem sameFields_iff :
    (left right : List (Text × Json)) → (sameFields left right = true ↔ left = right)
  | [], [] => by simp [sameFields]
  | [], _ :: _ => by simp [sameFields]
  | _ :: _, [] => by simp [sameFields]
  | (leftName, left) :: lefts, (rightName, right) :: rights => by
      simp [sameFields, same_iff left right, sameFields_iff lefts rights, and_assoc]

end

instance : DecidableEq Json := fun left right => decidable_of_iff _ (same_iff left right)

/-- `mapping.get(key)` on the fields of an object. -/
def field? (key : Text) : List (Text × Json) → Option Json
  | [] => none
  | (name, value) :: rest => if name = key then some value else field? key rest

/-- `value.get(key)` when the value is an object. -/
def get? (value : Json) (key : Text) : Option Json :=
  match value with
  | .obj fields => field? key fields
  | _ => none

/-- `isinstance(value, Mapping)`. -/
def isMapping : Json → Bool
  | .obj _ => true
  | _ => false

/-- The truth test. -/
def truthy : Json → Bool
  | .null => false
  | .bool value => value
  | .int value => value ≠ 0
  -- a digit other than zero, or `nan` or `inf`
  | .float digits => digits.any fun c => ('1' ≤ c && c ≤ '9') || c == 'n'
  | .str value => value ≠ []
  | .arr items => !items.isEmpty
  | .obj fields => !fields.isEmpty

/-- `value or default` on an optional JSON value. -/
def orElse (value : Option Json) (default : Json) : Json :=
  match value with
  | some found => if found.truthy then found else default
  | none => default

/-- Decimal notation of an integer. -/
def intText (value : Int) : Text :=
  if value < 0 then '-' :: decimal value.natAbs else decimal value.natAbs

/-- One character inside a quoted string literal. -/
def escapeChar (quote c : Char) : Text :=
  let hex (n : Nat) : Text :=
    let digits := Nat.toDigits 16 n
    if digits.length < 2 then '0' :: digits else digits
  if c = '\\' then ['\\', '\\']
  else if c = quote then ['\\', c]
  else if c = '\n' then ['\\', 'n']
  else if c = '\r' then ['\\', 'r']
  else if c = '\t' then ['\\', 't']
  else if c.toNat < 32 ∨ (127 ≤ c.toNat ∧ c.toNat ≤ 160) ∨ c.toNat = 173 then
    ['\\', 'x'] ++ hex c.toNat
  else [c]

/-- `repr` of a string. -/
def quoteText (value : Text) : Text :=
  let quote := if value.contains '\'' && !value.contains '"' then '"' else '\''
  quote :: value.flatMap (escapeChar quote) ++ [quote]

mutual

/-- `repr` of a value read from JSON. -/
def repr : Json → Text
  | .null => "None"
  | .bool true => "True"
  | .bool false => "False"
  | .int value => intText value
  | .float digits => digits
  | .str value => quoteText value
  | .arr items => '[' :: reprItems items ++ [']']
  | .obj fields => Char.ofNat 0x7b :: reprFields fields ++ [Char.ofNat 0x7d]

/-- Comma-separated items. -/
def reprItems : List Json → Text
  | [] => []
  | [item] => repr item
  | item :: rest => repr item ++ ", ".toList ++ reprItems rest

/-- Comma-separated fields. -/
def reprFields : List (Text × Json) → Text
  | [] => []
  | [(name, value)] => quoteText name ++ ": ".toList ++ repr value
  | (name, value) :: rest =>
      quoteText name ++ ": ".toList ++ repr value ++ ", ".toList ++ reprFields rest

end

/-- `str(value)`. -/
def pyStr : Json → Text
  | .str value => value
  | value => repr value

/-- Value of a run of decimal digits. -/
def digitsValue (digits : Text) : Nat :=
  digits.foldl (fun value c => 10 * value + (c.toNat - 48)) 0

/-- The double nearest to a natural number, ties to even. -/
def nearestDouble (value : Nat) : Nat :=
  let unit := 2 ^ (value.log2 - 52)
  let kept := value / unit
  let rest := value % unit
  if unit < 2 * rest ∨ (2 * rest = unit ∧ kept % 2 = 1) then (kept + 1) * unit else kept * unit

/-- The integral part of a finite float in shortest notation, sign left out, and whether the float
is integral.  Notation with a positive exponent starts at `1e+16`, where
every double is integral. -/
def floatIntegral (digits : Text) : Nat × Bool :=
  let (mantissa, exponent) := digits.span (· ≠ 'e')
  let (whole, fraction) := mantissa.span (· ≠ '.')
  let fraction := fraction.drop 1
  match exponent with
  | [] => (digitsValue whole, fraction.all (· == '0'))
  | _ :: '-' :: _ => (0, false)
  | _ :: exponent =>
      let shift := digitsValue (exponent.dropWhile (· == '+')) - fraction.length
      (nearestDouble (digitsValue (whole ++ fraction) * 10 ^ shift), true)

/-- `int(value)` of a finite float, with whether nothing was cut off. -/
def floatInt (digits : Text) : Int × Bool :=
  match digits with
  | '-' :: rest => (-(floatIntegral rest).1, (floatIntegral rest).2)
  | _ => ((floatIntegral digits).1, (floatIntegral digits).2)

/-- What a number is compared by: its integer, or its notation when it is not integral. -/
def number? : Json → Option (Int ⊕ Text)
  | .bool value => some (.inl (if value then 1 else 0))
  | .int value => some (.inl value)
  | .float digits =>
      if digits = ("nan" : Text) then none
      else if digits = ("inf" : Text) ∨ digits = ("-inf" : Text) then some (.inr digits)
      else if (floatInt digits).2 then some (.inl (floatInt digits).1)
      else some (.inr digits)
  | _ => none

mutual

/-- `left == right`. -/
def equal : Json → Json → Bool
  | .null, .null => true
  | .str left, .str right => left == right
  | .arr left, .arr right => equalItems left right
  | .obj left, .obj right => left.length == right.length && equalFields left right
  | left, right => left.number?.isSome && left.number? == right.number?

/-- `==` on lists. -/
def equalItems : List Json → List Json → Bool
  | [], [] => true
  | left :: lefts, right :: rights => equal left right && equalItems lefts rights
  | _, _ => false

/-- Every field is found with an equal value. -/
def equalFields : List (Text × Json) → List (Text × Json) → Bool
  | [], _ => true
  | (name, left) :: rest, fields =>
      (match field? name fields with
        | some right => equal left right
        | none => false) && equalFields rest fields

end

@[simp]
theorem equal_str (value : Json) (text : Text) :
    equal value (.str text) = true ↔ value = .str text := by
  cases value with
  | float digits =>
      simp only [equal, number?, reduceCtorEq, iff_false]
      split_ifs <;> simp
  | _ => simp [equal, number?]

@[simp]
theorem str_equal (text : Text) (value : Json) :
    equal (.str text) value = true ↔ value = .str text := by
  cases value with
  | str other => rw [equal, beq_iff_eq, Json.str.injEq, eq_comm]
  | _ => simp [equal, number?]

@[simp]
theorem equal_null (value : Json) : equal value .null = true ↔ value = .null := by
  cases value with
  | float digits =>
      simp only [equal, number?, reduceCtorEq, iff_false]
      split_ifs <;> simp
  | _ => simp [equal, number?]

end Json

/-- Classes of the errors the runtime raises or handles. -/
inductive ErrorClass where
  | compositionError
  | runtimeLoopError
  | runtimeQueueError
  | runtimeQuotaError
  | runtimeTenantStatusError
  | runtimeEntryPointError
  | runtimeApiError
  | runtimeCancellationError
  | profileEnforcementError
  | runtimeValidationError
  | toolDeniedError
  | toolExecutionError
  | valueError
  | keyError
  | indexError
  | typeError
  | osError
  | overflowError
  deriving DecidableEq, Repr

namespace ErrorClass

/-- `type(error).__name__`. -/
def name : ErrorClass → Text
  | .compositionError => "CompositionError"
  | .runtimeLoopError => "RuntimeLoopError"
  | .runtimeQueueError => "RuntimeQueueError"
  | .runtimeQuotaError => "RuntimeQuotaError"
  | .runtimeTenantStatusError => "RuntimeTenantStatusError"
  | .runtimeEntryPointError => "RuntimeEntryPointError"
  | .runtimeApiError => "RuntimeApiError"
  | .runtimeCancellationError => "RuntimeCancellationError"
  | .profileEnforcementError => "ProfileEnforcementError"
  | .runtimeValidationError => "RuntimeValidationError"
  | .toolDeniedError => "ToolDeniedError"
  | .toolExecutionError => "ToolExecutionError"
  | .valueError => "ValueError"
  | .keyError => "KeyError"
  | .indexError => "IndexError"
  | .typeError => "TypeError"
  | .osError => "OSError"
  | .overflowError => "OverflowError"

end ErrorClass

/-- A raised error. -/
structure PyError where
  cls : ErrorClass
  /-- `str(error)`. -/
  message : Text
  /-- The `stop_reason` attribute: absent, or present and possibly null. -/
  stopReason : Option (Option Text) := none
  deriving DecidableEq

namespace PyError

/-- `getattr(error, "stop_reason", default)`. -/
def stopReasonOr (error : PyError) (default : Text) : Option Text :=
  error.stopReason.getD (some default)

end PyError

namespace Json

/-- `for item in value`: lists, characters of strings and keys of objects. -/
def iterate : Json → Except PyError (List Json)
  | .arr items => .ok items
  | .str value => .ok (value.map fun c => .str [c])
  | .obj fields => .ok (fields.map fun entry => .str entry.1)
  | .null => .error ⟨.typeError, "'NoneType' object is not iterable", none⟩
  | .bool _ => .error ⟨.typeError, "'bool' object is not iterable", none⟩
  | .int _ => .error ⟨.typeError, "'int' object is not iterable", none⟩
  | .float _ => .error ⟨.typeError, "'float' object is not iterable", none⟩

end Json

end SkillCentric
