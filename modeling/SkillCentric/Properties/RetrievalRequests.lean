import SkillCentric.Properties.CompositionRequests
import SkillCentric.Runtime.ContextManager

/-!
# Retrieval asks for what was composed

The context manager derives the principal and the scope ids of its request from the profile, the
composition request derives its principal from the task.  The two derivations agree exactly when the
task asks for a role that is the slug it is composed under, and every scope name is an identifier
without the prefix that the context manager takes for an id.
-/

namespace SkillCentric

open Control RuntimeProfileComposer RuntimeProfileEnforcer Stateful

namespace RetrievalRequests

open TaskAnalyzer RuntimeContextManager

/-- Names that stay as they are when they become scope identifiers. -/
def ScopesKept (names : List Text) : Prop :=
  ∀ name ∈ names, name.all isIdChar = true ∧ Slug.startsWith name "mod-" = false

theorem moduleId_eq_seedModuleId {name : Text} :
    RuntimeContextManager.moduleId name = seedModuleId name ↔
      Slug.startsWith name "mod-" = false := by
  unfold RuntimeContextManager.moduleId seedModuleId
  cases started : Slug.startsWith name "mod-" with
  | false => simp
  | true =>
      simp only [if_true, Bool.true_eq_false, iff_false]
      intro same
      have longer := congrArg List.length same
      rw [List.length_append] at longer
      have four : ("mod-" : Text).length = 4 := by decide
      omega

theorem isId_seedModuleId {name : Text} :
    isId (seedModuleId name) = true ↔ name.all isIdChar = true := by
  constructor
  · intro is_id
    have chars := all_isIdChar_of_isId is_id
    unfold seedModuleId at chars
    rw [List.all_append, Bool.and_eq_true] at chars
    exact chars.2
  · exact isId_append (by decide)

private theorem idArray_texts_iff {values : List Text} :
    idArray (some (texts values)) = true ↔ ∀ text ∈ values, isId text = true := by
  simp only [idArray, isArray, texts, List.all_eq_true]
  exact List.forall_mem_map

theorem scopesKept_iff {names : List Text} :
    names.map RuntimeContextManager.moduleId = names.map seedModuleId ∧
        idArray (some (texts (names.map RuntimeContextManager.moduleId))) = true ↔
          ScopesKept names := by
  rw [idArray_texts_iff]
  constructor
  · rintro ⟨same, ids⟩ name member
    have agree := List.map_inj_left.mp same name member
    have is_id := ids _ (List.mem_map_of_mem member)
    rw [agree] at is_id
    exact ⟨isId_seedModuleId.mp is_id, moduleId_eq_seedModuleId.mp agree⟩
  · intro kept
    have same : names.map RuntimeContextManager.moduleId = names.map seedModuleId :=
      List.map_inj_left.mpr fun name member => moduleId_eq_seedModuleId.mpr (kept name member).2
    refine ⟨same, ?_⟩
    rw [same]
    exact List.forall_mem_map.mpr fun name member => isId_seedModuleId.mpr (kept name member).1

/-- The principal of the request is the role that it was composed for. -/
def PrincipalKept (task : Json) : Prop :=
  ∀ fields roles principal, (task.get? "context").bind (·.get? "auth") = some (.obj fields) →
    claimList (.obj fields) "roles" [.str "repository-maintainer"] = .ok roles →
    claimedPrincipal (.obj fields) roles = .ok principal →
    claimChoice (.obj fields) "control_plane_principal_kind" "role" ["role", "user", "service"] =
        "role" ∧
      slugify principal = roles.head?.getD "repository-maintainer"

variable {task : Json}

theorem principalKept_iff {taskType principalKind principalId : Text} {claims : AuthClaims}
    (claimed : intakeClaims task taskType = .ok (claims, principalKind, principalId)) :
    PrincipalKept task ↔ principalKind = "role" ∧ claims.roles.head? = some principalId := by
  rcases intakeClaims_ok claimed with
    ⟨fields, roles, principal, _, _, _, found, roles_eq, principal_eq, rfl, rfl, rfl⟩ |
    ⟨missing, rfl, rfl, rfl⟩
  · have first : (listOr roles "repository-maintainer").head? =
        some (roles.head?.getD "repository-maintainer") := by
      cases roles <;> rfl
    rw [show (claimsOf _ _ roles _ _ _).roles =
      listOr roles "repository-maintainer" from rfl, first,
      Option.some.injEq]
    constructor
    · intro kept
      obtain ⟨kind, slug⟩ := kept fields roles principal found roles_eq principal_eq
      exact ⟨kind, slug.symm⟩
    · rintro ⟨kind, slug⟩ otherFields otherRoles otherPrincipal otherFound otherRoles_eq
        otherPrincipal_eq
      obtain rfl := Json.obj.inj (Option.some.inj (found.symm.trans otherFound))
      obtain rfl := Except.ok.inj (roles_eq.symm.trans otherRoles_eq)
      obtain rfl := Except.ok.inj (principal_eq.symm.trans otherPrincipal_eq)
      exact ⟨kind, slug.symm⟩
  · exact ⟨fun _ => ⟨rfl, rfl⟩, fun _ fields _ _ found => absurd found (missing fields)⟩

theorem head?_roles {taskType principalKind principalId : Text} {claims : AuthClaims}
    (claimed : intakeClaims task taskType = .ok (claims, principalKind, principalId)) :
    ∃ role, claims.roles.head? = some role := by
  rcases intakeClaims_ok claimed with ⟨_, roles, _, _, _, _, -, -, -, rfl, -⟩ | ⟨-, rfl, -⟩
  · cases roles with
    | nil => exact ⟨_, rfl⟩
    | cons role others => exact ⟨role, rfl⟩
  · exact ⟨_, rfl⟩

theorem intake_ok {tables : CharacterTables} {analysis : TaskIntake}
    (analyzed : intake tables task = .ok analysis) :
    intakeClaims task analysis.taskType = .ok (analysis.authClaims,
        analysis.controlPlanePrincipalKind, analysis.controlPlanePrincipalId) ∧
      analysis.requiresHumanReview =
        (classifyTask tables (objective task)).requiresHumanReview := by
  obtain ⟨⟨claims, principalKind, principalId⟩, claimed, returned⟩ := bind_eq_ok.mp analyzed
  cases returned
  exact ⟨claimed, rfl⟩

section Composed

variable {task : TaskAnalysis} {context : JsonObject} {generation : Int}
  {parentProfileId recompositionReason : Option Text} {profile : JsonObject}

def composedScopes (task : TaskAnalysis) (context : JsonObject) : Scopes where
  knowledge := (selection task context).knowledgeScopes
  memory := (selection task context).memoryScopes
  data := (selection task context).dataScopes

theorem iterate_texts (names : List Text) : (texts names).iterate = .ok (names.map Json.str) := rfl

theorem map_pyStr_str (names : List Text) : (names.map Json.str).map Json.pyStr = names := by
  rw [List.map_map]
  exact List.map_id names

@[simp]
theorem perform_check {α : Type} (checked : JsonObject → Check α)
    (enforcer : RuntimeProfileEnforcer) :
    perform (check checked) enforcer = (checked enforcer.profile, enforcer) := rfl

theorem perform_requireScopes {enforcer : RuntimeProfileEnforcer} {field kind : Text}
    {names : List Text} (listed : (Json.obj enforcer.profile).item field (.arr []) = texts names) :
    perform (RuntimeProfileEnforcer.requireScopes field kind names) enforcer =
      (.ok (), enforcer) := by
  have none_missing : Json.missing names ((names.map Json.str).map Json.pyStr) = [] := by
    rw [map_pyStr_str]
    exact Json.missing_eq_nil.mpr fun _ member => member
  rw [RuntimeProfileEnforcer.requireScopes, perform_check, Prod.mk.injEq]
  refine ⟨bind_eq_ok.mpr ⟨names.map Json.str, ?_, ?_⟩, rfl⟩
  · rw [listed]
    exact Check.lift_eq_ok.mpr (iterate_texts names)
  · rw [Check.denyIf_eq_ok, none_missing]
    rfl

theorem scopeNames_texts {field : Text} {names : List Text}
    (listed : (Json.obj profile).item field (.arr []) = texts names) :
    scopeNames profile field = .ok names := by
  rw [scopeNames, listed, iterate_texts]
  exact congrArg Except.ok (map_pyStr_str names)

theorem perform_requireScopes_composed
    (composed : compose task context generation parentProfileId recompositionReason = .ok profile)
    {enforcer : RuntimeProfileEnforcer} (own : enforcer.profile = profile) :
    perform (RuntimeContextManager.requireScopes profile) enforcer =
      (.ok (composedScopes task context), enforcer) := by
  obtain ⟨authority, skillRoles, versions, built⟩ := ComposerAgreement.compose_ok composed
  have knowledge : (Json.obj profile).item "knowledge_scopes" (.arr []) =
      texts (selection task context).knowledgeScopes := by rw [← built.fields]; rfl
  have memory : (Json.obj profile).item "memory_scopes" (.arr []) =
      texts (selection task context).memoryScopes := by rw [← built.fields]; rfl
  have data : (Json.obj profile).item "data_scopes" (.arr []) =
      texts (selection task context).dataScopes := by rw [← built.fields]; rfl
  have reads {field : Text} {names : List Text}
      (listed : (Json.obj profile).item field (.arr []) = texts names) :
      Check.lift (scopeNames profile field) = .ok names :=
    Check.lift_eq_ok.mpr (scopeNames_texts listed)
  subst own
  simp only [RuntimeContextManager.requireScopes, perform_bind, perform_check, reads knowledge,
    reads memory, reads data, requireKnowledgeScopes, requireMemoryScopes, requireDataScopes,
    perform_requireScopes knowledge, perform_requireScopes memory, perform_requireScopes data]
  rfl

theorem retrievalPrincipal_composed
    (composed : compose task context generation parentProfileId recompositionReason = .ok profile)
    {role : Text} (first : task.authClaims.roles.head? = some role) :
    retrievalPrincipal profile = .obj [("kind", .str "role"), ("id", .str role)] := by
  obtain ⟨authority, skillRoles, versions, built⟩ := ComposerAgreement.compose_ok composed
  obtain ⟨others, roles_eq⟩ := List.head?_eq_some_iff.mp first
  have authContext_eq : (Json.obj profile).item "auth_context" (.obj []) =
      authContext task.authClaims := by rw [← built.fields]; rfl
  rw [retrievalPrincipal, authContext_eq, authContext, roles_eq]
  rfl

end Composed

/-- What a retrieval request should ask for after a composition request. -/
structure AsksForComposed (composition : Json) (knowledgeScopes memoryScopes : List Text)
    (request : Json) : Prop where
  principal : request.get? "principal" = composition.get? "principal"
  knowledge : request.get? "knowledge_scope_ids" = some (texts (knowledgeScopes.map seedModuleId))
  memory : request.get? "memory_scope_ids" = some (texts (memoryScopes.map seedModuleId))
  accepted : validateRetrievalRequest request = none

/-- The condition on a task and a context response under which the derivations agree. -/
structure DerivationsAgree (tables : CharacterTables) (task : Json)
    (context : JsonObject) : Prop where
  principal : PrincipalKept task
  scopes : (classifyTask tables (objective task)).requiresHumanReview = true ∨
    ScopesKept (contextNames context "allowed_knowledge_scopes") ∧
      ScopesKept (contextNames context "allowed_memory_scopes")

theorem accepted_iff {profile : JsonObject} {scopes : Scopes} {query role : Text}
    (principal : retrievalPrincipal profile = .obj [("kind", .str "role"), ("id", .str role)])
    (is_id : isId role = true) (nonempty : query ≠ []) :
    validateRetrievalRequest (retrievalRequest profile scopes query) = none ↔
      idArray (some (texts (scopes.knowledge.map RuntimeContextManager.moduleId))) = true ∧
        idArray (some (texts (scopes.memory.map RuntimeContextManager.moduleId))) = true := by
  rw [validateRetrievalRequest, firstFailure_eq_none, retrievalRequest, principal]
  constructor
  · intro passed
    obtain ⟨-, -, -, -, -, -, -, knowledge, memory, -⟩ := List.forall_iff_forall_mem.mpr passed
    exact ⟨knowledge, memory⟩
  · rintro ⟨knowledge, memory⟩
    have asked : isNonemptyText (some (.str query)) = true := by
      simpa [isNonemptyText, isText] using nonempty
    exact List.forall_iff_forall_mem.mp ⟨rfl, rfl, rfl,
      CompositionRequests.includes_str
        (by decide : ("role" : Text) ∈ (["role", "user", "service"] : List Text)), is_id, asked,
      rfl, knowledge, memory, rfl⟩

theorem texts_injective : Function.Injective texts := by
  intro left right same
  exact List.map_injective_iff.mpr (fun _ _ => Json.str.inj) (Json.arr.inj same)

theorem principal_eq_iff {left right leftKind rightKind : Text} :
    (some (.obj [("kind", .str leftKind), ("id", .str left)]) : Option Json) =
        some (.obj [("kind", .str rightKind), ("id", .str right)]) ↔
      leftKind = rightKind ∧ left = right := by
  simp only [Option.some.injEq, Json.obj.injEq, List.cons.injEq, Prod.mk.injEq, Json.str.injEq,
    true_and, and_true]

/-- The request that `load` builds from a composed profile asks for what was composed exactly when
the two derivations agree. -/
theorem retrieval_asks_for_composed_iff {tables : CharacterTables} {task : Json}
    {analysis : TaskIntake} (analyzed : intake tables task = .ok analysis) {context : JsonObject}
    {generation : Int} {parentProfileId recompositionReason : Option Text} {profile : JsonObject}
    (composed : compose analysis.toTaskAnalysis context generation parentProfileId
      recompositionReason = .ok profile)
    {enforcer : RuntimeProfileEnforcer} (own : enforcer.profile = profile)
    (environment : Environment) (mode : GenerationMode) :
    (∃ scopes, perform (RuntimeContextManager.requireScopes profile) enforcer =
        (.ok scopes, enforcer) ∧
      AsksForComposed (analysis.toCompositionContextRequest environment mode parentProfileId)
        scopes.knowledge scopes.memory
        (retrievalRequest profile scopes ((Json.obj profile).item "objective").pyStr)) ↔
      DerivationsAgree tables task context := by
  have asked := requestable_of_intake analyzed
  have checked := perform_requireScopes_composed composed own
  obtain ⟨claimed, review⟩ := intake_ok analyzed
  obtain ⟨role, first⟩ := head?_roles claimed
  have principal := retrievalPrincipal_composed composed first
  have kept_iff := principalKept_iff claimed
  rw [first, Option.some.injEq] at kept_iff
  have query : ((Json.obj profile).item "objective").pyStr = analysis.objective := by
    obtain ⟨authority, skillRoles, versions, built⟩ := ComposerAgreement.compose_ok composed
    rw [← built.fields]
    rfl
  have same_principal : (retrievalRequest profile (composedScopes analysis.toTaskAnalysis context)
        analysis.objective).get? "principal" =
      (analysis.toCompositionContextRequest environment mode parentProfileId).get? "principal" ↔
      PrincipalKept task := by
    rw [kept_iff, eq_comm]
    change (some (.obj _) : Option Json) = some (retrievalPrincipal profile) ↔ _
    rw [principal, principal_eq_iff, eq_comm (b := role)]
  have scopes_iff : ScopesKept (composedScopes analysis.toTaskAnalysis context).knowledge ∧
      ScopesKept (composedScopes analysis.toTaskAnalysis context).memory ↔
      ((classifyTask tables (objective task)).requiresHumanReview = true ∨
        ScopesKept (contextNames context "allowed_knowledge_scopes") ∧
          ScopesKept (contextNames context "allowed_memory_scopes")) := by
    rw [← review]
    unfold composedScopes selection
    cases analysis.requiresHumanReview with
    | true => simp [ScopesKept]
    | false => simp
  rw [query]
  constructor
  · rintro ⟨scopes, performed, asks⟩
    obtain rfl := Except.ok.inj (congrArg Prod.fst (checked.symm.trans performed))
    have kept := same_principal.mp asks.principal
    have is_id : isId role = true := by
      rw [(kept_iff.mp kept).2]
      exact asked.claimed.id
    obtain ⟨knowledge, memory⟩ := (accepted_iff principal is_id asked.objective).mp asks.accepted
    refine ⟨kept, scopes_iff.mp ⟨scopesKept_iff.mp ⟨?_, knowledge⟩, scopesKept_iff.mp ⟨?_, memory⟩⟩⟩
    · exact texts_injective (Option.some.inj asks.knowledge)
    · exact texts_injective (Option.some.inj asks.memory)
  · intro agree
    have is_id : isId role = true := by
      rw [(kept_iff.mp agree.principal).2]
      exact asked.claimed.id
    obtain ⟨knowledge, memory⟩ := scopes_iff.mpr agree.scopes
    obtain ⟨knowledge_eq, knowledge_ids⟩ := scopesKept_iff.mpr knowledge
    obtain ⟨memory_eq, memory_ids⟩ := scopesKept_iff.mpr memory
    refine ⟨_, checked, same_principal.mpr agree.principal, ?_, ?_, ?_⟩
    · exact congrArg (fun names => some (texts names)) knowledge_eq
    · exact congrArg (fun names => some (texts names)) memory_eq
    · exact (accepted_iff principal is_id asked.objective).mpr ⟨knowledge_ids, memory_ids⟩

/-- A task of a principal with one role. -/
def sampleTask (role : Text) : Json :=
  .obj [("request", .str "Sort the inbox"),
    ("context", .obj [("auth", .obj [("roles", .arr [.str role])])])]

/-- A context response that allows one knowledge scope. -/
def sampleContext : JsonObject :=
  [("composition_status", .str "ready"), ("graph_validation", .obj [("is_valid", .bool true)]),
    ("candidate_modules", .arr [.obj
      [("name", .str "triage"), ("kind", .str "skill"), ("version", .str "0.1.0")]]),
    ("applicable_policies", .arr [.obj [("name", .str "read-only"), ("version", .str "0.1.0")]]),
    ("allowed_knowledge_scopes", .arr [.obj
      [("name", .str "architecture-docs"), ("kind", .str "knowledge_scope"),
        ("version", .str "0.1.0")]])]

/-- The analysis and the profile of a sample task. -/
def sampleComposition (role : Text) : Except PyError (TaskIntake × JsonObject) := do
  let analysis ← intake .ascii (sampleTask role)
  let profile ← compose analysis.toTaskAnalysis sampleContext 1 none none
  return (analysis, profile)

theorem sampleComposition_ok {role : Text} {analysis : TaskIntake} {profile : JsonObject}
    (made : sampleComposition role = .ok (analysis, profile)) :
    intake .ascii (sampleTask role) = .ok analysis ∧
      compose analysis.toTaskAnalysis sampleContext 1 none none = .ok profile := by
  obtain ⟨_, analyzed, made⟩ := bind_eq_ok.mp made
  obtain ⟨_, composed, made⟩ := bind_eq_ok.mp made
  cases made
  exact ⟨analyzed, composed⟩

theorem retrieval_asks_for_composed_reader :
    ∃ analysis profile, sampleComposition "reader" = .ok (analysis, profile) ∧
      ∃ scopes, perform (RuntimeContextManager.requireScopes profile) ⟨profile, fun _ => 0⟩ =
          (.ok scopes, ⟨profile, fun _ => 0⟩) ∧
        AsksForComposed (analysis.toCompositionContextRequest .dev .initial none)
          scopes.knowledge scopes.memory
          (retrievalRequest profile scopes ((Json.obj profile).item "objective").pyStr) := by
  cases made : sampleComposition "reader" with
  | error error =>
      have returns : (sampleComposition "reader").isOk = true := by decide
      rw [made] at returns
      cases returns
  | ok both =>
      obtain ⟨analysis, profile⟩ := both
      obtain ⟨analyzed, composed⟩ := sampleComposition_ok made
      refine ⟨analysis, profile, rfl, (retrieval_asks_for_composed_iff analyzed composed rfl .dev
        .initial).mpr ⟨?_, .inr ⟨?_, ?_⟩⟩⟩
      · rintro fields roles principal ⟨⟩ listed claimed
        obtain rfl : (["reader"] : List Text) = roles := Except.ok.inj listed
        obtain rfl : ("reader" : Text) = principal := Except.ok.inj claimed
        exact ⟨by decide, by decide⟩
      · have names : contextNames sampleContext "allowed_knowledge_scopes" =
            ["architecture-docs"] := by decide
        rw [names]
        exact List.forall_mem_singleton.mpr ⟨by decide, by decide⟩
      · have names : contextNames sampleContext "allowed_memory_scopes" = [] := by decide
        rw [names]
        exact List.forall_mem_nil _

/-- A role that is not its own slug: composition asks for `reviewer`, retrieval for `Reviewer`. -/
theorem retrieval_asks_for_another_principal :
    ¬∀ (tables : CharacterTables) (task : Json) (analysis :
      TaskIntake) (context profile : JsonObject)
      (enforcer : RuntimeProfileEnforcer), intake tables task = .ok analysis →
      compose analysis.toTaskAnalysis context 1 none none = .ok profile →
      enforcer.profile = profile →
      ∃ scopes, perform (RuntimeContextManager.requireScopes profile) enforcer =
          (.ok scopes, enforcer) ∧
        AsksForComposed (analysis.toCompositionContextRequest .dev .initial none)
          scopes.knowledge scopes.memory
          (retrievalRequest profile scopes ((Json.obj profile).item "objective").pyStr) := by
  intro asks
  have principals : (sampleComposition "Reviewer").toOption.map (fun made =>
      (retrievalPrincipal made.2,
        (made.1.toCompositionContextRequest .dev .initial none).get? "principal")) =
      some (.obj [("kind", .str "role"), ("id", .str "Reviewer")],
        some (.obj [("kind", .str "role"), ("id", .str "reviewer")])) := by decide
  cases made : sampleComposition "Reviewer" with
  | error error =>
      rw [made] at principals
      cases principals
  | ok both =>
      obtain ⟨analysis, profile⟩ := both
      obtain ⟨analyzed, composed⟩ := sampleComposition_ok made
      obtain ⟨scopes, -, asked⟩ := asks .ascii _ analysis _ profile ⟨profile, fun _ => 0⟩ analyzed
        composed rfl
      rw [made] at principals
      have read := Option.some.inj principals
      have same : some (retrievalPrincipal profile) =
          (analysis.toCompositionContextRequest .dev .initial none).get? "principal" :=
        asked.principal
      rw [(Prod.mk.inj read).1, (Prod.mk.inj read).2, principal_eq_iff] at same
      exact absurd same.2 (by decide)

end RetrievalRequests

end SkillCentric
