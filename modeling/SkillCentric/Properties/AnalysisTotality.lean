import SkillCentric.Properties.CompositionRequests

/-!
# Totality of the analysis

An analysis of well-formed claims fails in one place: the principal of the control plane falls back
to the first role, which a list without a nonblank role does not have.
-/

namespace SkillCentric

namespace AnalysisTotality

open TaskAnalyzer

variable {tables : CharacterTables} {task : Json} {taskType : Text} {fields : JsonObject}

def listClaims : List Text :=
  ["roles", "authorization_policies", "role_data_sources", "role_capabilities"]

/-- The claims of a task. -/
def authOf (task : Json) : Option Json := (task.get? "context").bind (·.get? "auth")

/-- Claims are lists of strings and strings. -/
structure Formed (auth : Json) : Prop where
  isObject : auth.isMapping = true
  lists : ∀ key ∈ listClaims, ∀ value, auth.get? key = some value →
    ∃ texts : List Text, value = .arr (texts.map .str)
  strings :
    ∀ key, key ∉ listClaims → ∀ value, auth.get? key = some value → ∃ text, value = .str text

/-- A principal can be named: it is claimed, or there is a role for it. -/
def NamesPrincipal (auth : Json) : Prop :=
  (∃ text, auth.get? "control_plane_principal_id" = some (.str text) ∧ text ≠ []) ∨
    auth.get? "roles" = none ∨
    ∃ roles role, auth.get? "roles" = some (.arr roles) ∧ .str role ∈ roles ∧ strip role ≠ []

/-- What the analysis of a task promises. -/
structure WellAnalyzed (analysis : TaskIntake) : Prop where
  roles : analysis.authClaims.roles ≠ []
  policies : analysis.authClaims.authorizationPolicies ≠ []
  taskId : isId analysis.taskId = true
  tenantId : isId analysis.authClaims.tenantId = true
  areaId : isId analysis.authClaims.areaId = true
  membershipId : ∀ membership, analysis.authClaims.membershipId = some membership →
    isId membership = true
  principalId : isId analysis.controlPlanePrincipalId = true
  missing : ∀ input, input ∈ analysis.missingInformation ↔
    input ∈ analysis.requiredInputs ∧ input ∉ analysis.availableInputs

variable {auth : Json}

theorem claimList_formed (formed : Formed auth) {key : Text} (listed : key ∈ listClaims)
    (default : List Json) : ∃ values, claimList auth key default = .ok values := by
  unfold claimList
  cases found : auth.get? key with
  | none => exact ⟨_, rfl⟩
  | some value =>
      obtain ⟨texts, rfl⟩ := formed.lists key listed value found
      exact ⟨_, rfl⟩

theorem roles_ne_nil_iff (formed : Formed auth) {roles : List Text}
    (read : claimList auth "roles" [.str "repository-maintainer"] = .ok roles) :
    roles ≠ [] ↔ auth.get? "roles" = none ∨
      ∃ claimed role, auth.get? "roles" = some (.arr claimed) ∧ .str role ∈ claimed ∧
        strip role ≠ [] := by
  unfold claimList at read
  cases found : auth.get? "roles" with
  | none =>
      rw [found] at read
      cases read
      exact iff_of_true (by decide) (.inl rfl)
  | some value =>
      obtain ⟨texts, rfl⟩ := formed.lists "roles" (by decide) value found
      rw [found] at read
      cases read
      have kept : dedupe (texts.map .str) ≠ [] ↔ ∃ role ∈ texts, strip role ≠ [] := by
        constructor
        · intro nonempty
          obtain ⟨_, member⟩ := List.exists_mem_of_ne_nil _ nonempty
          obtain ⟨role, found, rfl, nonblank⟩ := mem_dedupeTexts.mp member
          exact ⟨role, found, nonblank⟩
        · rintro ⟨role, member, nonblank⟩
          exact List.ne_nil_of_mem (mem_dedupeTexts.mpr ⟨role, member, rfl, nonblank⟩)
      rw [kept]
      constructor
      · rintro ⟨role, member, nonblank⟩
        exact .inr ⟨_, role, rfl, List.mem_map_of_mem member, nonblank⟩
      · rintro (absent | ⟨claimed, role, same, member, nonblank⟩)
        · cases absent
        · cases same
          obtain ⟨_, member, same⟩ := List.mem_map.mp member
          cases same
          exact ⟨role, member, nonblank⟩

theorem claimedPrincipal_ok_iff (formed : Formed auth) (roles : List Text) :
    (∃ principal, claimedPrincipal auth roles = .ok principal) ↔
      (∃ text, auth.get? "control_plane_principal_id" = some (.str text) ∧ text ≠ []) ∨
        roles ≠ [] := by
  have truthy : (Json.orElse (auth.get? "control_plane_principal_id") .null).truthy = true ↔
      ∃ text, auth.get? "control_plane_principal_id" = some (.str text) ∧ text ≠ [] := by
    cases found : auth.get? "control_plane_principal_id" with
    | none => simp [Json.orElse, Json.truthy]
    | some value =>
        obtain ⟨text, rfl⟩ := formed.strings _ (by decide) value found
        cases text <;> simp [Json.orElse, Json.truthy]
  unfold claimedPrincipal
  by_cases claimed : (Json.orElse (auth.get? "control_plane_principal_id") .null).truthy = true
  · exact iff_of_true ⟨_, if_pos claimed⟩ (.inl (truthy.mp claimed))
  · rw [if_neg claimed, ← truthy]
    cases roles with
    | nil =>
        refine iff_of_false (fun named => ?_) (not_or.mpr ⟨claimed, fun nonempty => nonempty rfl⟩)
        cases named.choose_spec
    | cons role rest => exact iff_of_true ⟨role, rfl⟩ (.inr (List.cons_ne_nil role rest))

theorem intakeClaims_ok_iff {fields : JsonObject} (given : authOf task = some (.obj fields))
    (formed : Formed (.obj fields)) :
    (∃ claims, intakeClaims task taskType = .ok claims) ↔ NamesPrincipal (.obj fields) := by
  obtain ⟨roles, read⟩ := claimList_formed formed (by decide : ("roles" : Text) ∈ listClaims)
    [.str "repository-maintainer"]
  obtain ⟨policies, policiesRead⟩ := claimList_formed formed
    (by decide : ("authorization_policies" : Text) ∈ listClaims) [.str (requestPolicy taskType)]
  obtain ⟨sources, sourcesRead⟩ := claimList_formed formed
    (by decide : ("role_data_sources" : Text) ∈ listClaims) []
  obtain ⟨capabilities, capabilitiesRead⟩ := claimList_formed formed
    (by decide : ("role_capabilities" : Text) ∈ listClaims) []
  rw [NamesPrincipal, ← roles_ne_nil_iff formed read, ← claimedPrincipal_ok_iff formed roles]
  rw [authOf] at given
  unfold intakeClaims
  rw [given]
  constructor
  · rintro ⟨claims, returned⟩
    obtain ⟨_, again, returned⟩ := Stateful.bind_eq_ok.mp returned
    cases read.symm.trans again
    obtain ⟨principal, named, -⟩ := Stateful.bind_eq_ok.mp returned
    exact ⟨principal, named⟩
  · rintro ⟨principal, named⟩
    simp only [read, named, policiesRead, sourcesRead, capabilitiesRead, bind, Except.bind]
    exact ⟨_, rfl⟩

theorem claims_nonempty {claims : AuthClaims} {kind id : Text}
    (claimed : intakeClaims task taskType = .ok (claims, kind, id)) :
    claims.roles ≠ [] ∧ claims.authorizationPolicies ≠ [] := by
  have nonempty (values : List Text) (default : Text) : listOr values default ≠ [] := by
    unfold listOr
    split_ifs with none
    · exact List.cons_ne_nil _ _
    · exact none
  rcases intakeClaims_ok claimed with ⟨_, _, _, _, _, _, -, -, -, rfl, -⟩ | ⟨-, rfl, -⟩
  · exact ⟨nonempty _ _, nonempty _ _⟩
  · exact ⟨List.cons_ne_nil _ _, List.cons_ne_nil _ _⟩

theorem intake_ok_iff : (∃ analysis, intake tables task = .ok analysis) ↔
    ∃ claims, intakeClaims task (classifyTask tables (objective task)).taskType = .ok claims := by
  unfold intake
  constructor
  · rintro ⟨analysis, returned⟩
    obtain ⟨claims, read, -⟩ := Stateful.bind_eq_ok.mp returned
    exact ⟨claims, read⟩
  · rintro ⟨claims, read⟩
    simp only [read, bind, Except.bind]
    exact ⟨_, rfl⟩

theorem wellAnalyzed_of_intake {analysis : TaskIntake}
    (returned : intake tables task = .ok analysis) :
    WellAnalyzed analysis := by
  unfold intake at returned
  obtain ⟨⟨claims, kind, id⟩, read, returned⟩ := Stateful.bind_eq_ok.mp returned
  have claimed := claimed_of_intakeClaims read
  have nonempty := claims_nonempty read
  cases returned
  refine ⟨nonempty.1, nonempty.2, isId_taskId task, claimed.tenant, claimed.area,
    claimed.membership,
    claimed.id, fun input => ?_⟩
  simp [List.mem_filter]

/-- A task is analysed as promised exactly when its claims name a principal. -/
theorem analysis_exact (tables : CharacterTables) (task : Json)
    (formed : ∀ auth, authOf task = some auth → Formed auth) :
    (∃ analysis, intake tables task = .ok analysis ∧ WellAnalyzed analysis) ↔
      ∀ auth, authOf task = some auth → NamesPrincipal auth := by
  have returns : (∃ analysis, intake tables task = .ok analysis ∧ WellAnalyzed analysis) ↔
      ∃ analysis, intake tables task = .ok analysis :=
    exists_congr fun _ => and_iff_left_of_imp wellAnalyzed_of_intake
  rw [returns, intake_ok_iff]
  cases given : authOf task with
  | none =>
      refine iff_of_true ?_ fun auth absent => nomatch absent
      rw [authOf] at given
      unfold intakeClaims
      rw [given]
      exact ⟨_, rfl⟩
  | some auth =>
      have formed := formed auth given
      obtain ⟨fields, rfl⟩ : ∃ fields, auth = .obj fields := by
        cases auth with
        | obj fields => exact ⟨fields, rfl⟩
        | _ => cases formed.isObject
      rw [intakeClaims_ok_iff given formed]
      constructor
      · rintro named _ ⟨⟩
        exact named
      · exact fun named => named _ rfl

def roleClaims (roles : List Text) : Json := .obj [("roles", .arr (roles.map .str))]

/-- A task with the claims of a role alone. -/
def roleTask (roles : List Text) : Json := .obj [("context", .obj [("auth", roleClaims roles)])]

theorem formed_roleClaims (roles : List Text) : Formed (roleClaims roles) := by
  have only {key : Text} {value : Json} (given : (roleClaims roles).get? key = some value) :
      key = "roles" ∧ value = .arr (roles.map .str) := by
    simp only [roleClaims, Json.get?, Json.field?] at given
    split at given
    next same =>
      cases given
      exact ⟨same.symm, rfl⟩
    next => cases given
  refine ⟨rfl, fun key _ value given => ⟨roles, (only given).2⟩, fun key unlisted value given => ?_⟩
  rw [(only given).1] at unlisted
  exact absurd (by decide) unlisted

theorem operator_analyzed :
    ∃ analysis, intake .ascii (roleTask ["operator"]) = .ok analysis ∧ WellAnalyzed analysis := by
  refine (analysis_exact .ascii (roleTask ["operator"]) ?_).mpr ?_
  · rintro _ ⟨⟩
    exact formed_roleClaims _
  · rintro _ ⟨⟩
    exact .inr (.inr ⟨_, "operator", rfl, List.mem_cons_self, by decide⟩)

/-- An empty list of roles has no first. -/
theorem no_roles_crash : (∀ auth, authOf (roleTask []) = some auth → Formed auth) ∧
    ¬ ∃ analysis, intake .ascii (roleTask []) = .ok analysis := by
  constructor
  · rintro _ ⟨⟩
    exact formed_roleClaims _
  · rintro ⟨analysis, returned⟩
    cases returned

end AnalysisTotality

end SkillCentric
