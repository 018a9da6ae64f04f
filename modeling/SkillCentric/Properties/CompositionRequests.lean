import SkillCentric.Control.Validators
import SkillCentric.Properties.ComposerAgreement
import SkillCentric.Runtime.TaskIntake

/-!
# Composition requests are well formed

Every body that `to_composition_context_request` builds from an analyzed task passes the Worker's
`validateCompositionRequest`.  Slugs are identifiers whatever text they are made of, the lists of
signals are drawn from fixed identifiers, and constraints are stripped and nonempty.
-/

namespace SkillCentric

open Slug Control

namespace TaskAnalyzer

variable {c : Char} {text : Text}

theorem isIdChar_of_isWordChar (word : isWordChar c = true) : isIdChar c = true := by
  simp [isIdChar, word]

theorem isIdChar_of_isLetter (letter : isLetter c = true) : isIdChar c = true :=
  isIdChar_of_isWordChar (by simp [isWordChar, letter])

theorem all_isIdChar_of_isId (is_id : isId text = true) : text.all isIdChar = true := by
  cases text with
  | nil => cases is_id
  | cons c rest =>
      simp only [isId, Bool.and_eq_true] at is_id
      rw [List.all_cons, isIdChar_of_isLetter is_id.1, is_id.2]
      rfl

theorem isId_append {text rest : Text} (is_id : isId text = true)
    (chars : rest.all isIdChar = true) :
    isId (text ++ rest) = true := by
  cases text with
  | nil => cases is_id
  | cons c tail =>
      simp only [isId, Bool.and_eq_true] at is_id
      simp only [List.cons_append, isId, List.all_append, Bool.and_eq_true]
      exact ⟨is_id.1, is_id.2, chars⟩

theorem mem_hyphenateRuns {keep : Char → Bool} {inRun : Bool}
    (member : c ∈ hyphenateRuns keep inRun text) : (keep c = true ∧ c ∈ text) ∨ c = '-' := by
  induction text generalizing inRun with
  | nil => cases member
  | cons first rest ih =>
      simp only [hyphenateRuns] at member
      have later {inRun : Bool} (found : c ∈ hyphenateRuns keep inRun rest) :
          (keep c = true ∧ c ∈ first :: rest) ∨ c = '-' :=
        (ih found).imp_left fun kept => ⟨kept.1, List.mem_cons_of_mem first kept.2⟩
      split_ifs at member with kept running
      · rcases List.mem_cons.mp member with rfl | found
        · exact .inl ⟨kept, List.mem_cons_self⟩
        · exact later found
      · exact later member
      · rcases List.mem_cons.mp member with rfl | found
        · exact .inr rfl
        · exact later found

theorem mem_of_mem_stripChars {drop : Char → Bool} (member : c ∈ stripChars drop text) : c ∈ text :=
  (List.dropWhile_sublist drop).mem ((List.rdropWhile_prefix drop _).mem member)

theorem stripChars_cons {drop : Char → Bool} {first : Char} (rest : Text)
    (kept : drop first = false) : ∃ tail, stripChars drop (first :: rest) = first :: tail := by
  have nonempty : (first :: rest).rdropWhile drop ≠ [] := by
    intro empty
    have dropped := List.rdropWhile_eq_nil_iff.mp empty first List.mem_cons_self
    rw [kept] at dropped
    cases dropped
  rw [stripChars, List.dropWhile_cons_of_neg (by simp [kept])]
  cases stripped : (first :: rest).rdropWhile drop with
  | nil => exact absurd stripped nonempty
  | cons c tail =>
      have same : c = first := by
        have start := List.rdropWhile_prefix drop (first :: rest)
        rw [stripped] at start
        exact (List.cons_prefix_cons.mp start).1
      exact ⟨tail, by rw [same]⟩

def isOuter (c : Char) : Bool := c == '-' || c == '_'

private theorem isOuter_of_isLetter (letter : isLetter c = true) : isOuter c = false := by
  simp only [isLetter, Bool.and_eq_true, decide_eq_true_eq] at letter
  simp only [isOuter, Bool.or_eq_false_iff, beq_eq_false_iff_ne]
  constructor <;> rintro rfl <;> exact absurd letter (by decide)

theorem isId_cut {first : Char} {rest : Text} (letter : isLetter first = true)
    (chars : ∀ c ∈ rest, isIdChar c = true) :
    isId (stripChars isOuter ((first :: rest).take 80)) = true := by
  obtain ⟨tail, stripped⟩ := stripChars_cons (rest.take 79) (isOuter_of_isLetter letter)
  rw [List.take_succ_cons, stripped]
  simp only [isId, Bool.and_eq_true, List.all_eq_true]
  refine ⟨letter, fun c member => ?_⟩
  have found : c ∈ stripChars isOuter (first :: rest.take 79) := by
    rw [stripped]
    exact List.mem_cons_of_mem first member
  rcases List.mem_cons.mp (mem_of_mem_stripChars found) with rfl | found
  · exact isIdChar_of_isLetter letter
  · exact chars c (List.mem_of_mem_take found)

theorem isId_finished {slug : Text} (chars : ∀ c ∈ slug, isIdChar c = true) :
    isId (if slug = [] then ("task" : Text)
      else stripChars isOuter
        ((if slug.head?.any isLetter then slug else ("id-" : Text) ++ slug).take 80)) = true := by
  cases slug with
  | nil => decide
  | cons first rest =>
      rw [if_neg (List.cons_ne_nil first rest)]
      by_cases letter : isLetter first = true
      · rw [if_pos (by simpa using letter)]
        exact isId_cut letter fun c member => chars c (List.mem_cons_of_mem first member)
      · rw [if_neg (by simpa using letter)]
        refine isId_cut (by decide : isLetter 'i' = true) (List.forall_mem_cons.mpr ⟨by decide, ?_⟩)
        exact List.forall_mem_cons.mpr ⟨by decide, chars⟩

theorem isId_slugify (value : Text) : isId (slugify value) = true := by
  refine isId_finished fun c member => ?_
  rcases mem_hyphenateRuns member with ⟨-, found⟩ | rfl
  · rcases mem_hyphenateRuns (mem_of_mem_stripChars found) with ⟨kept, -⟩ | rfl
    · exact kept
    · decide
  · decide

theorem isId_taskId (task : Json) : isId (taskId task) = true := by
  have derived : isId (("task-" : Text) ++ slugify (objective task)) = true :=
    isId_append (by decide) (all_isIdChar_of_isId (isId_slugify _))
  unfold taskId
  split
  · split_ifs with given
    · exact given
    · exact derived
  · exact derived

theorem all_isIdChar_removePrefix {text start : Text} (chars : text.all isIdChar = true) :
    (removePrefix text start).all isIdChar = true := by
  unfold removePrefix
  split_ifs
  · rw [List.all_eq_true] at chars ⊢
    exact fun c member => chars c (List.mem_of_mem_drop member)
  · exact chars

theorem isId_profileId {taskId : Text} (is_id : isId taskId = true) (generation : Int) :
    isId (RuntimeEntryPoint.profileId taskId generation) = true := by
  have base : isId (("profile-" : Text) ++ removePrefix taskId "task-") = true :=
    isId_append (by decide) (all_isIdChar_removePrefix (all_isIdChar_of_isId is_id))
  unfold RuntimeEntryPoint.profileId
  split_ifs with first
  · exact base
  · have digits : (Json.intText generation).all isIdChar = true := by
      rw [Json.intText, if_neg (by omega), List.all_eq_true]
      exact fun c member => isIdChar_of_isWordChar ((decimal_isWord _).2 c member)
    exact isId_append (isId_append base (by decide)) digits

theorem mem_dedupeTexts {values : List Text} :
    text ∈ dedupeTexts values ↔ ∃ value ∈ values, strip value = text ∧ text ≠ [] := by
  simp only [dedupeTexts, dedupe, List.mem_eraseDups, List.mem_filter, List.mem_map,
    decide_eq_true_eq]
  constructor
  · rintro ⟨⟨_, ⟨value, member, rfl⟩, stripped⟩, nonempty⟩
    exact ⟨value, member, stripped, nonempty⟩
  · rintro ⟨value, member, stripped, nonempty⟩
    exact ⟨⟨_, ⟨value, member, rfl⟩, stripped⟩, nonempty⟩

theorem isSpace_of_isIdChar (idChar : isIdChar c = true) : isSpace c = false := by
  have bounds : 45 ≤ c.toNat ∧ c.toNat ≤ 122 := by
    simp only [isIdChar, isWordChar, isLetter, Bool.or_eq_true, Bool.and_eq_true,
      decide_eq_true_eq, beq_iff_eq] at idChar
    rcases idChar with ((⟨low, high⟩ | ⟨low, high⟩) | rfl) | rfl
    · exact ⟨le_trans (by decide) (Char.le_def.mp low), le_trans (Char.le_def.mp high) (by decide)⟩
    · exact ⟨le_trans (by decide) (Char.le_def.mp low), le_trans (Char.le_def.mp high) (by decide)⟩
    · decide
    · decide
  simp only [isSpace, Bool.or_eq_false_iff, Bool.and_eq_false_iff, beq_eq_false_iff_ne,
    decide_eq_false_iff_not]
  omega

theorem strip_of_isId (is_id : isId text = true) : strip text = text := by
  have kept (c : Char) (member : c ∈ text) : ¬ isSpace c = true := by
    rw [isSpace_of_isIdChar (List.all_eq_true.mp (all_isIdChar_of_isId is_id) c member)]
    exact Bool.false_ne_true
  have front : text.dropWhile isSpace = text :=
    List.dropWhile_eq_self_iff.mpr fun bound => kept _ (List.getElem_mem bound)
  rw [strip, stripChars, front]
  exact List.rdropWhile_eq_self_iff.mpr fun nonempty => kept _ (List.getLast_mem nonempty)

theorem isId_of_mem_dedupeTexts {values : List Text} (ids : ∀ value ∈ values, isId value = true) :
    ∀ text ∈ dedupeTexts values, isId text = true := by
  intro text member
  obtain ⟨value, member, stripped, -⟩ := mem_dedupeTexts.mp member
  rw [← stripped, strip_of_isId (ids value member)]
  exact ids value member

theorem isId_onlyIf (condition : Bool) {value : Text} (is_id : isId value = true) :
    ∀ text ∈ onlyIf condition value, isId text = true := by
  intro text member
  cases condition with
  | true => rwa [List.mem_singleton.mp member]
  | false => cases member

theorem isId_domains (taskType : Text) (repository : Bool) :
    ∀ tag ∈ domains taskType repository, isId tag = true := by
  refine isId_of_mem_dedupeTexts ?_
  cases repository <;> split_ifs <;> decide

variable (tables : CharacterTables)

theorem isId_availableInputs (taskType objective : Text) (repository : Bool) (task : Json) :
    ∀ input ∈ availableInputs tables taskType objective repository task, isId input = true := by
  refine isId_of_mem_dedupeTexts
    (List.forall_mem_append.mpr ⟨List.forall_mem_append.mpr ⟨?_, ?_⟩, ?_⟩)
  · exact isId_onlyIf _ (by decide)
  · exact isId_onlyIf _ (by decide)
  · exact isId_onlyIf _ (by decide)

theorem isId_capabilityHints (taskType objective : Text) :
    ∀ hint ∈ capabilityHints tables taskType objective, isId hint = true := by
  refine isId_of_mem_dedupeTexts (List.forall_mem_append.mpr ⟨?_, isId_onlyIf _ (by decide)⟩)
  split_ifs <;> decide

theorem riskLevel_mem (taskType objective : Text) (constraints : List Text) :
    riskLevel tables taskType objective constraints ∈ (["low", "medium", "high"] : List Text) := by
  have high : ("high" : Text) ∈ (["low", "medium", "high"] : List Text) := by decide
  unfold riskLevel
  dsimp only
  split_ifs
  · exact high
  · exact high
  · decide
  · decide

/-- What the request needs of a classification. -/
structure Classified (classification : TaskClassification) : Prop where
  taskType : isId classification.taskType = true
  confidence : classification.confidence ∈ (["high", "medium", "low"] : List Text)
  reasons : ∀ reason ∈ classification.reasons, reason ≠ []
  ambiguous : ∀ taskType ∈ classification.ambiguousTaskTypes, isId taskType = true

theorem matchReason_ne_nil (entry : Text × List Text) : matchReason entry ≠ [] :=
  List.append_ne_nil_of_right_ne_nil _ (List.cons_ne_nil '.' [])

private theorem isId_categoryMatches {tables : CharacterTables} {entry : Text × List Text}
    (member : entry ∈ categoryMatches tables text) : isId entry.1 = true := by
  obtain ⟨category, listed, rfl⟩ := List.mem_map.mp (List.mem_filter.mp member).1
  have all : ∀ category ∈ categories, isId category.1 = true := by decide
  exact all category listed

theorem classified_classifyTask (objective : Text) :
    Classified (classifyTask tables objective) := by
  have known (entry : Text × List Text)
      (member : entry ∈ categoryMatches tables (tables.casefold objective)) :
      isId entry.1 = true := isId_categoryMatches member
  have general : isId ("general-task" : Text) = true := by decide
  unfold classifyTask
  split
  next =>
    exact ⟨general, (by decide : ("medium" : Text) ∈ (["high", "medium", "low"] : List Text)),
      by decide, List.forall_mem_nil _⟩
  next entry found =>
    exact ⟨known entry (by rw [found]; exact List.mem_singleton_self entry),
      (by decide : ("high" : Text) ∈ (["high", "medium", "low"] : List Text)),
      List.forall_mem_singleton.mpr (matchReason_ne_nil entry), List.forall_mem_nil _⟩
  next several _ _ =>
    refine ⟨general, (by decide : ("low" : Text) ∈ (["high", "medium", "low"] : List Text)), ?_, ?_⟩
    · refine List.forall_mem_append.mpr ⟨?_, by decide⟩
      exact List.forall_mem_map.mpr fun entry _ => matchReason_ne_nil entry
    · exact List.forall_mem_map.mpr fun entry member => known entry member

/-- What the request needs of the claims and of the principal. -/
structure Claimed (claims : AuthClaims) (principalKind principalId : Text) : Prop where
  tenant : isId claims.tenantId = true
  area : isId claims.areaId = true
  membership : ∀ membership, claims.membershipId = some membership → isId membership = true
  kind : principalKind ∈ (["role", "user", "service"] : List Text)
  id : isId principalId = true

theorem claimChoice_mem (auth : Json) (key : Text) {default : Text} {choices : List Text}
    (listed : default ∈ choices) : claimChoice auth key default choices ∈ choices := by
  unfold claimChoice
  split_ifs with claimed
  · exact List.contains_iff_mem.mp claimed
  · exact listed

theorem claimed_of_intakeClaims {task : Json} {taskType principalKind principalId : Text}
    {claims : AuthClaims}
    (claimed : intakeClaims task taskType = .ok (claims, principalKind, principalId)) :
    Claimed claims principalKind principalId := by
  rcases intakeClaims_ok claimed with
    ⟨fields, _, _, _, _, _, -, -, -, rfl, rfl, rfl⟩ | ⟨-, rfl, rfl, rfl⟩
  · refine ⟨isId_slugify _, isId_slugify _, ?_, claimChoice_mem _ _ (by decide), isId_slugify _⟩
    intro membership given
    obtain ⟨_, -, rfl⟩ := Option.map_eq_some_iff.mp given
    exact isId_slugify _
  · have global : isId ("global" : Text) = true := by decide
    exact ⟨global, global, fun _ given => (nomatch given), by decide, by decide⟩

/-- What an analysis has to offer a composition request. -/
structure Requestable (analysis : TaskIntake) : Prop where
  claimed : Claimed analysis.authClaims analysis.controlPlanePrincipalKind
    analysis.controlPlanePrincipalId
  taskId : isId analysis.taskId = true
  taskType : isId analysis.taskType = true
  objective : analysis.objective ≠ []
  riskLevel : analysis.riskLevel ∈ (["low", "medium", "high"] : List Text)
  domains : ∀ tag ∈ analysis.domains, isId tag = true
  capabilityHints : ∀ hint ∈ analysis.capabilityHints, isId hint = true
  availableInputs : ∀ input ∈ analysis.availableInputs, isId input = true
  constraints : ∀ stated ∈ analysis.constraints, stated ≠ []
  confidence : analysis.classificationConfidence ∈ (["high", "medium", "low"] : List Text)
  reasons : ∀ reason ∈ analysis.classificationReasons, reason ≠ []
  ambiguous : ∀ taskType ∈ analysis.ambiguousTaskTypes, isId taskType = true

theorem nonblank_ne_nil {value : Option Json} (found : nonblank value = some text) :
    text ≠ [] := by
  unfold nonblank at found
  split at found
  · split_ifs at found with blank
    cases found
    exact blank
  · cases found

theorem objective_ne_nil (task : Json) : objective task ≠ [] := by
  unfold objective
  cases request : nonblank (task.get? "request") with
  | some text => exact nonblank_ne_nil request
  | none =>
      cases stated : nonblank (task.get? "objective") with
      | some text => exact nonblank_ne_nil stated
      | none =>
          cases described : nonblank (task.get? "description") with
          | some text => exact nonblank_ne_nil described
          | none => exact List.cons_ne_nil _ _

theorem requestable_of_intake {tables : CharacterTables} {task : Json} {analysis : TaskIntake}
    (analyzed : intake tables task = .ok analysis) : Requestable analysis := by
  obtain ⟨⟨claims, principalKind, principalId⟩, claimed, returned⟩ :=
    Stateful.bind_eq_ok.mp analyzed
  cases returned
  have classified := classified_classifyTask tables (objective task)
  exact {
    claimed := claimed_of_intakeClaims claimed
    taskId := isId_taskId task
    taskType := classified.taskType
    objective := objective_ne_nil task
    riskLevel := riskLevel_mem _ _ _ _
    domains := isId_domains _ _
    capabilityHints := isId_capabilityHints _ _ _
    availableInputs := isId_availableInputs _ _ _ _ _
    constraints := fun stated member => by
      obtain ⟨-, -, -, nonempty⟩ := mem_dedupeTexts.mp member
      exact nonempty
    confidence := classified.confidence
    reasons := classified.reasons
    ambiguous := classified.ambiguous }

end TaskAnalyzer

namespace CompositionRequests

open RuntimeProfileComposer ComposerAgreement

section Values

variable {values : List Text} {text : Text} {choices : List Text} {value : Option Text}

theorem isArray_texts {test : Json → Bool} (passes : ∀ text ∈ values, test (.str text) = true) :
    isArray test (some (texts values)) = true := by
  simp only [isArray, texts, List.all_eq_true]
  exact List.forall_mem_map.mpr passes

theorem idArray_texts (ids : ∀ text ∈ values, TaskAnalyzer.isId text = true) :
    idArray (some (texts values)) = true := isArray_texts ids

theorem stringArray_texts (nonempty : ∀ text ∈ values, text ≠ []) :
    Control.stringArray (some (texts values)) = true := by
  refine isArray_texts fun text member => ?_
  simp only [isNonemptyText, isText, Bool.not_eq_true', List.isEmpty_eq_false_iff]
  exact nonempty text member

theorem includes_str (listed : text ∈ choices) : includes choices (some (.str text)) = true :=
  List.contains_iff_mem.mpr listed

theorem nullOr_optional {test : Option Json → Bool}
    (passes : ∀ text, value = some text → test (some (.str text)) = true) :
    nullOr test (some (RuntimeProfile.optional value)) = true := by
  cases value with
  | none => rfl
  | some text => exact passes text rfl

end Values

/-- A parent id is missing or the id of a profile that was composed for some analyzed task. -/
def ProducedParent (tables : CharacterTables) (parentProfileId : Option Text) : Prop :=
  ∀ id, parentProfileId = some id →
    ∃ task analysis context generation parent reason profile,
      TaskAnalyzer.intake tables task = .ok analysis ∧
      compose analysis.toTaskAnalysis context generation parent reason = .ok profile ∧
      (Json.obj profile).get? "id" = some (.str id)

theorem isId_of_producedParent {tables : CharacterTables} {parentProfileId : Option Text}
    (produced : ProducedParent tables parentProfileId) :
    ∀ id, parentProfileId = some id → TaskAnalyzer.isId id = true := by
  intro id given
  obtain ⟨task, analysis, context, generation, parent, reason, profile, analyzed,
      composed, named⟩ :=
    produced id given
  obtain ⟨authority, skillRoles, versions, built⟩ := compose_ok composed
  rw [← built.fields] at named
  have id_eq : RuntimeEntryPoint.profileId analysis.taskId generation = id :=
    Json.str.inj (Option.some.inj named)
  rw [← id_eq]
  exact TaskAnalyzer.isId_profileId (TaskAnalyzer.requestable_of_intake analyzed).taskId generation

theorem tenantContext_accepted {claims : AuthClaims} {principalKind principalId : Text}
    (claimed : TaskAnalyzer.Claimed claims principalKind principalId) :
    TaskIntake.tenantContextField claims = [] ∨
    ∃ context : Json,
      TaskIntake.tenantContextField claims = [(("tenant_context" : Text), context)] ∧
      context.isMapping = true ∧ isIdValue (context.get? "tenant_id") = true ∧
      isIdValue (context.get? "area_id") = true ∧
      nullOr (isText fun _ => true) (context.get? "hostname") = true ∧
      nullOr isIdValue (context.get? "membership_id") = true := by
  unfold TaskIntake.tenantContextField
  split_ifs
  · exact .inl rfl
  · exact .inr ⟨_, rfl, rfl, claimed.tenant, claimed.area, nullOr_optional fun _ _ => rfl,
      nullOr_optional claimed.membership⟩

/-- Every composition request passes the Worker's validation. -/
theorem compositionRequest_accepted {tables : CharacterTables} {task : Json} {analysis : TaskIntake}
    (analyzed : TaskAnalyzer.intake tables task = .ok analysis) (environment : Environment)
    (mode : GenerationMode) {parentProfileId : Option Text}
    (produced : ProducedParent tables parentProfileId) :
    validateCompositionRequest
      (analysis.toCompositionContextRequest environment mode parentProfileId) = none := by
  have asked := TaskAnalyzer.requestable_of_intake analyzed
  have parent := isId_of_producedParent produced
  have risk : TaskIntake.controlPlaneRiskLevel analysis.riskLevel = analysis.riskLevel := by
    refine if_neg fun critical => ?_
    have listed := asked.riskLevel
    rw [critical] at listed
    exact absurd listed (by decide)
  have environments : environment.text ∈ (["dev", "staging", "prod"] : List Text) := by
    cases environment <;> decide
  have modes : mode.text ∈ (["initial", "recomposition"] : List Text) := by
    cases mode <;> decide
  have objective : isNonemptyText (some (.str analysis.objective)) = true := by
    simpa [isNonemptyText, isText] using asked.objective
  refine firstFailure_eq_none.mpr (List.forall_iff_forall_mem.mp ?_)
  obtain global | ⟨context, field, mapping, tenant, area, hostname, membership⟩ :=
    tenantContext_accepted asked.claimed
  · rw [TaskIntake.toCompositionContextRequest, global, risk]
    exact ⟨rfl, rfl, includes_str environments, rfl, includes_str asked.claimed.kind,
      asked.claimed.id, rfl, rfl, rfl, rfl, rfl, rfl, includes_str modes, rfl,
      nullOr_optional parent, rfl, asked.taskId, asked.taskType, objective,
      includes_str asked.riskLevel, rfl, idArray_texts asked.domains,
      idArray_texts asked.capabilityHints,
      idArray_texts asked.availableInputs, stringArray_texts asked.constraints,
      includes_str asked.confidence, idArray_texts asked.ambiguous, stringArray_texts asked.reasons,
      rfl⟩
  · rw [TaskIntake.toCompositionContextRequest, field, risk]
    exact ⟨rfl, rfl, includes_str environments, rfl, includes_str asked.claimed.kind,
      asked.claimed.id, mapping, tenant, area, hostname, membership, rfl, includes_str modes, rfl,
      nullOr_optional parent, rfl, asked.taskId, asked.taskType, objective,
      includes_str asked.riskLevel, rfl, idArray_texts asked.domains,
      idArray_texts asked.capabilityHints, idArray_texts asked.availableInputs,
      stringArray_texts asked.constraints, includes_str asked.confidence,
      idArray_texts asked.ambiguous, stringArray_texts asked.reasons, rfl⟩

/-- A task of a tenant's member. -/
def sampleTask : Json :=
  .obj [("id", .str "task-triage"), ("request", .str "Sort the inbox"),
    ("constraints", .arr [.str " Keep it short "]),
    ("context", .obj [("auth", .obj
      [("principal_id", .str "user-a"), ("roles", .arr [.str "reader"]), ("tenant_id", .str "Acme"),
        ("tenant_hostname", .str "acme.example"), ("membership_id", .str "member-a")])])]

def sampleProfile : Except PyError JsonObject := do
  let analysis ← TaskAnalyzer.intake .ascii sampleTask
  compose analysis.toTaskAnalysis
    (ComposerAgreement.sampleContext [.obj [("data_source_id", .str "crm")]]) 1 none none

theorem compositionRequest_accepted_sample :
    ∃ analysis, TaskAnalyzer.intake .ascii sampleTask = .ok analysis ∧
      validateCompositionRequest
        (analysis.toCompositionContextRequest .prod .recomposition (some "profile-triage")) =
          none := by
  have named : (sampleProfile.toOption.bind fun profile => (Json.obj profile).get? "id") =
      some (.str "profile-triage") := by decide
  cases composed : sampleProfile with
  | error error =>
      rw [composed] at named
      cases named
  | ok profile =>
      rw [composed] at named
      obtain ⟨analysis, analyzed, composed⟩ := Stateful.bind_eq_ok.mp composed
      refine ⟨analysis, analyzed, compositionRequest_accepted analyzed .prod .recomposition ?_⟩
      rintro id ⟨⟩
      exact ⟨sampleTask, analysis, _, 1, none, none, profile, analyzed, composed, named⟩

end CompositionRequests

end SkillCentric
