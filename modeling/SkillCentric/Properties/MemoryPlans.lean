import SkillCentric.Runtime.MemoryInvariants

/-!
# Memory-influenced plans

The rule for a plan that carries memory, field by field and in any shape, and the plans on which the
validator keeps it.  The validator reads lists of strings and some single values; what comes in
another shape counts as empty.
-/

namespace SkillCentric

namespace MemoryPlans

open PostPlanningMemoryInvariantValidator

variable {lower : Text → Text} {plan runtimeProfile : JsonObject}
  {plannedRuntimeProfile : Option JsonObject} {value : Json}

/-- Null, a blank string, or a list or object without items. -/
inductive IsEmpty : Json → Prop
  | null : IsEmpty .null
  | blank {text : Text} (blank : strip text = []) : IsEmpty (.str text)
  | noItems : IsEmpty (.arr [])
  | noFields : IsEmpty (.obj [])

def alternatives : Json → List Json
  | .null => []
  | .arr values => values
  | value => [value]

/-- The source names a memory. -/
def NamesMemory (lower : Text → Text) (source : Json) : Prop :=
  ∃ name ∈ alternatives source, lower name.pyStr ∈ memorySources

/-- The justification cites memory identifiers. -/
def CitesMemory (justification : Json) : Prop :=
  ∃ reason ∈ alternatives justification, ¬IsEmpty (reason.item "memory_ids")

/-- The planned profile has the authority of the runtime profile. -/
def SameAuthority (runtimeProfile : JsonObject)
    (plannedRuntimeProfile : Option JsonObject) : Prop :=
  ∀ planned, plannedRuntimeProfile = some planned → ∀ field ∈ profileAuthorityFields,
    ((Json.obj runtimeProfile).item field).equal ((Json.obj planned).item field) = true

/-- The rule for a plan that carries memory. -/
structure Compliant (lower : Text → Text) (plan runtimeProfile : JsonObject)
    (plannedRuntimeProfile : Option JsonObject) : Prop where
  effects : ∀ effect ∈ alternatives ((Json.obj plan).item "effect"),
    ∃ name ∈ nonAuthoritativeMemoryEffects, effect = .str name
  reason : ¬IsEmpty ((Json.obj plan).item "selection_reason")
  delta : IsEmpty ((Json.obj plan).item "authority_delta")
  fields : ∀ field ∈ authorityPlanFields, IsEmpty ((Json.obj plan).item field.1)
  source : ¬NamesMemory lower ((Json.obj plan).item "authority_source")
  justification : ¬CitesMemory ((Json.obj plan).item "authority_justification")
  profile : SameAuthority runtimeProfile plannedRuntimeProfile

/-- The plan names memory, in whatever shape. -/
def CarriesMemory (plan : JsonObject) : Prop :=
  (Json.obj plan).item "used_memory_ids" ∉ [.null, .str [], .arr [], .obj []]

instance : Decidable (CarriesMemory plan) := inferInstanceAs (Decidable (_ ∉ _))

/-- A text that is not blank. -/
def IsName (value : Json) : Prop := ∃ text, value = .str text ∧ strip text ≠ []

/-- The memory IDs are a list with a name. -/
def Readable (plan : JsonObject) : Prop :=
  ∃ ids, (Json.obj plan).item "used_memory_ids" = .arr ids ∧ ∃ id ∈ ids, IsName id

/-- No field breaks the rule in the shape in which it is read. -/
structure Unobjectionable (lower : Text → Text) (plan runtimeProfile : JsonObject)
    (plannedRuntimeProfile : Option JsonObject) : Prop where
  named : checkedEffects ((Json.obj plan).item "effect") ≠ []
  effects : ∀ effect ∈ checkedEffects ((Json.obj plan).item "effect"),
    effect ∈ nonAuthoritativeMemoryEffects
  reason : strip ((Json.obj plan).item "selection_reason" (.str [])).pyStr ≠ []
  delta : stringTuple ((Json.obj plan).item "authority_delta") = []
  fields : ∀ field ∈ authorityPlanFields, hasValue ((Json.obj plan).item field.1) = false
  source : lower ((Json.obj plan).item "authority_source" (.str [])).pyStr ∉ memorySources
  justification :
    hasValue (((Json.obj plan).item "authority_justification").item "memory_ids") = false
  profile : SameAuthority runtimeProfile plannedRuntimeProfile

/-- Nothing stands in a shape that is not read. -/
structure Plain (lower : Text → Text) (plan : JsonObject) : Prop where
  effects : ∀ effect ∈ alternatives ((Json.obj plan).item "effect"), IsName effect
  reason : (Json.obj plan).item "selection_reason" ∉ [.null, .arr [], .obj []]
  delta : IsEmpty ((Json.obj plan).item "authority_delta") ∨
    stringTuple ((Json.obj plan).item "authority_delta") ≠ []
  source : ∀ names, (Json.obj plan).item "authority_source" = .arr names →
    ∀ name ∈ names, lower name.pyStr ∉ memorySources
  justification : ∀ reasons, (Json.obj plan).item "authority_justification" = .arr reasons →
    ∀ reason ∈ reasons, IsEmpty (reason.item "memory_ids")

theorem hasValue_eq_false : hasValue value = false ↔ IsEmpty value := by
  constructor
  · intro empty
    cases value with
    | null => exact .null
    | str text => exact .blank (by simpa [hasValue] using empty)
    | arr items =>
        obtain rfl : items = [] := by simpa [hasValue] using empty
        exact .noItems
    | obj fields =>
        obtain rfl : fields = [] := by simpa [hasValue] using empty
        exact .noFields
    | _ => cases empty
  · rintro (_ | blank | _ | _)
    · rfl
    · simp [hasValue, blank]
    · rfl
    · rfl

private theorem tupleItem_eq_none : tupleItem value = none ↔ ¬IsName value := by
  cases value with
  | str text =>
      by_cases blank : strip text = []
      · simp [tupleItem, IsName, blank]
      · simp [tupleItem, IsName, blank]
  | _ => simp [tupleItem, IsName]

theorem stringTuple_eq_nil :
    stringTuple value = [] ↔ ∀ items, value = .arr items → ∀ item ∈ items, ¬IsName item := by
  cases value with
  | arr items =>
      simp only [stringTuple, List.filterMap_eq_nil_iff, tupleItem_eq_none]
      exact ⟨fun none other same => by cases same; exact none, fun none => none items rfl⟩
  | _ => simp [stringTuple]

theorem violationIf_eq_nil {condition : Bool} {violation : Text} :
    violationIf condition violation = [] ↔ condition = false := by
  cases condition with
  | true => simp [violationIf]
  | false => simp [violationIf]

theorem memoryEffectViolations_eq_nil :
    memoryEffectViolations plan = [] ↔
      (checkedEffects ((Json.obj plan).item "effect") ≠ [] ∧
        ∀ effect ∈ checkedEffects ((Json.obj plan).item "effect"),
          effect ∈ nonAuthoritativeMemoryEffects) ∧
      strip ((Json.obj plan).item "selection_reason" (.str [])).pyStr ≠ [] ∧
      stringTuple ((Json.obj plan).item "authority_delta") = [] := by
  simp only [memoryEffectViolations, List.append_eq_nil_iff, violationIf_eq_nil,
    Bool.or_eq_false_iff, List.isEmpty_eq_false_iff, List.any_eq_false, Bool.not_eq_true',
    Bool.not_eq_false, List.contains_iff_mem, decide_eq_false_iff_not, Bool.not_eq_false',
    List.isEmpty_iff, and_assoc]

theorem violations_eq_nil :
    violations lower plan runtimeProfile plannedRuntimeProfile = [] ↔
      Unobjectionable lower plan runtimeProfile plannedRuntimeProfile := by
  have fields : authorityFieldViolations plan = [] ↔
      ∀ field ∈ authorityPlanFields, hasValue ((Json.obj plan).item field.1) = false := by
    simp only [authorityFieldViolations, List.flatMap_eq_nil_iff, violationIf_eq_nil]
  have justification : memoryAuthorityJustificationViolations lower plan = [] ↔
      lower ((Json.obj plan).item "authority_source" (.str [])).pyStr ∉ memorySources ∧
        hasValue (((Json.obj plan).item "authority_justification").item "memory_ids") = false := by
    simp only [memoryAuthorityJustificationViolations, violationIf_eq_nil, Bool.or_eq_false_iff,
      List.contains_eq_mem, decide_eq_false_iff_not]
  have profile : plannedRuntimeProfile.elim [] (runtimeProfileDeltaViolations runtimeProfile) = [] ↔
      SameAuthority runtimeProfile plannedRuntimeProfile := by
    cases plannedRuntimeProfile with
    | none => exact ⟨fun _ => nofun, fun _ => rfl⟩
    | some planned =>
        simp only [Option.elim, runtimeProfileDeltaViolations, List.flatMap_eq_nil_iff,
          violationIf_eq_nil, Bool.not_eq_false', SameAuthority, Option.some.injEq, forall_eq']
  rw [violations, List.append_eq_nil_iff, List.append_eq_nil_iff, List.append_eq_nil_iff,
    memoryEffectViolations_eq_nil, fields, justification, profile]
  exact ⟨fun ⟨⟨⟨⟨⟨named, effects⟩, reason, delta⟩, fields⟩, source, justification⟩, profile⟩ =>
      ⟨named, effects, reason, delta, fields, source, justification, profile⟩,
    fun ⟨named, effects, reason, delta, fields, source, justification, profile⟩ =>
      ⟨⟨⟨⟨⟨named, effects⟩, reason, delta⟩, fields⟩, source, justification⟩, profile⟩⟩

theorem approved_iff :
    (validate lower plan runtimeProfile plannedRuntimeProfile).approved = true ↔
      (Readable plan → Unobjectionable lower plan runtimeProfile plannedRuntimeProfile) := by
  have unread : stringTuple ((Json.obj plan).item "used_memory_ids") = [] ↔ ¬Readable plan := by
    rw [stringTuple_eq_nil, Readable]
    simp only [not_exists, not_and]
  unfold validate
  split_ifs with empty
  · exact ⟨fun _ readable => (unread.mp empty readable).elim, fun _ => rfl⟩
  · have readable : Readable plan := not_not.mp (unread.not.mp empty)
    by_cases clean : violations lower plan runtimeProfile plannedRuntimeProfile = []
    · simp only [if_pos clean]
      exact ⟨fun _ _ => violations_eq_nil.mp clean, fun _ => rfl⟩
    · simp only [if_neg clean]
      refine ⟨fun approved => ?_, fun allowed => ?_⟩
      · have other : ("rejected" : Text) ≠ "approved" := by decide
        exact (other (of_decide_eq_true approved)).elim
      · exact (clean (violations_eq_nil.mpr (allowed readable))).elim

theorem effect_names : ∀ name ∈ nonAuthoritativeMemoryEffects, strip name ≠ [] := by decide

theorem effects_of_names {effect : Json} (names : ∀ found ∈ alternatives effect, IsName found)
    (checked : ∀ name ∈ checkedEffects effect, name ∈ nonAuthoritativeMemoryEffects) :
    ∀ found ∈ alternatives effect, ∃ name ∈ nonAuthoritativeMemoryEffects, found = .str name := by
  intro found listed
  obtain ⟨name, rfl, filled⟩ := names found listed
  refine ⟨name, checked name ?_, rfl⟩
  cases effect with
  | null => cases listed
  | arr items =>
      refine List.mem_filterMap.mpr ⟨.str name, listed, ?_⟩
      rw [tupleItem, if_neg filled]
  | str text =>
      cases List.mem_singleton.mp listed
      exact List.mem_singleton.mpr rfl
  | _ => cases List.mem_singleton.mp listed

theorem reason_given (shape : (Json.obj plan).item "selection_reason" ∉ [.null, .arr [], .obj []])
    (read : strip ((Json.obj plan).item "selection_reason" (.str [])).pyStr ≠ []) :
    ¬IsEmpty ((Json.obj plan).item "selection_reason") := by
  have present : (Json.obj plan).item "selection_reason" ≠ .null := by
    intro null
    rw [null] at shape
    exact shape List.mem_cons_self
  rw [Json.item_default _ rfl present] at read
  intro empty
  generalize (Json.obj plan).item "selection_reason" = reason at shape read empty
  cases empty with
  | null => exact shape (by simp)
  | blank blank => exact read blank
  | noItems => exact shape (by simp)
  | noFields => exact shape (by simp)

theorem source_named
    (read : lower ((Json.obj plan).item "authority_source" (.str [])).pyStr ∉ memorySources)
    (listed : ∀ names, (Json.obj plan).item "authority_source" = .arr names →
      ∀ name ∈ names, lower name.pyStr ∉ memorySources) :
    ¬NamesMemory lower ((Json.obj plan).item "authority_source") := by
  rintro ⟨name, alternative, memory⟩
  by_cases present : (Json.obj plan).item "authority_source" = .null
  · rw [present] at alternative
    cases alternative
  · rw [Json.item_default _ rfl present] at read
    cases source : (Json.obj plan).item "authority_source" with
    | null => exact present source
    | arr names =>
        rw [source] at alternative
        exact listed names source name alternative memory
    | _ =>
        rw [source] at alternative read
        cases List.mem_singleton.mp alternative
        exact read memory

theorem justification_cites {justification : Json}
    (own : IsEmpty (justification.item "memory_ids"))
    (listed : ∀ reasons, justification = .arr reasons →
      ∀ reason ∈ reasons, IsEmpty (reason.item "memory_ids")) : ¬CitesMemory justification := by
  rintro ⟨reason, alternative, cites⟩
  cases justification with
  | null => cases alternative
  | arr reasons => exact cites (listed reasons rfl reason alternative)
  | _ =>
      cases List.mem_singleton.mp alternative
      exact cites own

theorem Compliant.plain (compliant : Compliant lower plan runtimeProfile plannedRuntimeProfile) :
    Plain lower plan where
  effects := by
    intro effect listed
    obtain ⟨name, known, rfl⟩ := compliant.effects effect listed
    exact ⟨name, rfl, effect_names name known⟩
  reason := by
    intro shape
    apply compliant.reason
    rcases List.mem_cons.mp shape with null | shape
    · rw [null]
      exact .null
    · rcases List.mem_cons.mp shape with items | shape
      · rw [items]
        exact .noItems
      · rw [List.mem_singleton.mp shape]
        exact .noFields
  delta := .inl compliant.delta
  source := fun names source name listed memory =>
    compliant.source ⟨name, by rw [source]; exact listed, memory⟩
  justification := fun reasons justification reason listed => by
    by_contra cites
    exact compliant.justification ⟨reason, by rw [justification]; exact listed, cites⟩

theorem Unobjectionable.compliant
    (unobjectionable : Unobjectionable lower plan runtimeProfile plannedRuntimeProfile)
    (plain : Plain lower plan) : Compliant lower plan runtimeProfile plannedRuntimeProfile where
  effects := effects_of_names plain.effects unobjectionable.effects
  reason := reason_given plain.reason unobjectionable.reason
  delta := plain.delta.resolve_right fun named => named unobjectionable.delta
  fields := fun field listed => hasValue_eq_false.mp (unobjectionable.fields field listed)
  source := source_named unobjectionable.source plain.source
  justification :=
    justification_cites (hasValue_eq_false.mp unobjectionable.justification) plain.justification
  profile := unobjectionable.profile

/-- The validator keeps the rule on a plan exactly when a plan with unreadable IDs keeps it by
itself, and a plan with readable IDs that nothing is held against has nothing in a shape that is not
read. -/
theorem memory_plans_exact (lower : Text → Text) (plan runtimeProfile : JsonObject)
    (plannedRuntimeProfile : Option JsonObject) :
    ((validate lower plan runtimeProfile plannedRuntimeProfile).approved = true →
      Compliant lower plan runtimeProfile plannedRuntimeProfile) ↔
    (¬Readable plan → Compliant lower plan runtimeProfile plannedRuntimeProfile) ∧
      (Readable plan → Unobjectionable lower plan runtimeProfile plannedRuntimeProfile →
        Plain lower plan) := by
  rw [approved_iff]
  constructor
  · intro keeps
    refine ⟨fun unreadable => keeps fun readable => (unreadable readable).elim, ?_⟩
    exact fun _ unobjectionable => (keeps fun _ => unobjectionable).plain
  · rintro ⟨unread, read⟩ approved
    by_cases readable : Readable plan
    · exact (approved readable).compliant (read readable (approved readable))
    · exact unread readable

example : (validate (List.map Char.toLower)
    [("used_memory_ids", .arr [.str "memory-runtime-decision"]), ("effect", .str "planner_hint"),
      ("selection_reason", .str "reviewing checkpoints")] [] none).approved = true := by decide

def grantingPlan : JsonObject :=
  [("used_memory_ids", .str "memory-runtime-decision"), ("tool_grants", .arr [.str "git-read"])]

/-- A text as memory id counts as none. -/
theorem granting_plan_approved :
    ¬∀ (lower : Text → Text) (plan runtimeProfile : JsonObject)
      (plannedRuntimeProfile : Option JsonObject), CarriesMemory plan →
      (validate lower plan runtimeProfile plannedRuntimeProfile).approved = true →
        Compliant lower plan runtimeProfile plannedRuntimeProfile := by
  intro keeps
  have compliant := keeps (List.map Char.toLower) grantingPlan [] none (by decide) (by decide)
  have granted := compliant.fields ("tool_grants", "tool grants") (by decide)
  cases granted

end MemoryPlans

end SkillCentric
