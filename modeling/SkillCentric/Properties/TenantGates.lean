import SkillCentric.Library.Refusals
import SkillCentric.Runtime.AuthClaims

/-!
# The gate of a tenant and composition

The gate reads the claims of a task as they are written, composition reads their slugs.  The two
agree on the tasks that name no tenant, and on those whose claims are their own slugs.
-/

namespace SkillCentric.TenantGates

open TaskAnalyzer TenantAccessValidator

/-- The gate accepts the claims with the response. -/
def Accepts (claims : AuthClaims) (context : JsonObject) : Prop :=
  claims.tenantId = ("global" : Text) ∨
    ((Json.obj context).item "tenant_authority").isMapping = true ∧
      validateTenantIdentity claims ((Json.obj context).item "tenant_authority") = .ok ()

/-- The task starts with every response. -/
def PassesAlways (task : Json) : Prop :=
  ∀ response, assertRuntimeTenantIsStartable task response = .ok ()

/-- The gate starts what composition accepts, and composition has no tenant exactly when
the gate asks for none. -/
structure Agree (claims : AuthClaims) (task : Json) (context : JsonObject) : Prop where
  startable : Accepts claims context → assertRuntimeTenantIsStartable task (.obj context) = .ok ()
  global : PassesAlways task ↔ claims.tenantId = ("global" : Text)

/-- The tenant claim is absent, null or `global`. -/
def NamesNoTenant (task : Json) : Prop :=
  authClaim task "tenant_id" = .null ∨ authClaim task "tenant_id" = .str "global"

/-- The slug of the tenant claim. -/
def tenantSlug (task : Json) : Text :=
  slugify (Json.orElse (authClaim task "tenant_id") (.str "global")).pyStr

def areaSlug (task : Json) : Text :=
  slugify (Json.orElse (authClaim task "area_id") (.str (tenantSlug task))).pyStr

/-- A claim is a string that is its own slug. -/
def IsSlug (value : Json) : Prop := ∃ text, value = .str text ∧ slugify text = text

/-- An active authority for the slugs of a task, on the host that the task claims. -/
structure Fits (task authority : Json) : Prop where
  mapping : authority.isMapping = true
  tenant : authority.item "tenant_id" = .str (tenantSlug task)
  area : authority.item "area_id" = .str (areaSlug task)
  hostname : (authority.item "hostname").isMapping = true
  hostnameTenant : (authority.item "hostname").item "tenant_id" = .str (tenantSlug task)
  hostnameText : ∃ text, authClaim task "tenant_hostname" = .str text ∧ strip text ≠ [] ∧
    (authority.item "hostname").item "hostname" = .str text
  status : authority.item "status" = .str "setup" ∨ authority.item "status" = .str "active"
  authorityGrants : authority.item "direct_user_grants_allowed" = .bool false

variable {task : Json} {taskType : Text} {claims : AuthClaims} {context : JsonObject}

theorem authClaim_of_found {fields : JsonObject} (key : Text)
    (found : (task.get? "context").bind (·.get? "auth") = some (.obj fields)) :
    authClaim task key = ((Json.obj fields).get? key).getD .null := by
  obtain ⟨inner, inner_found, auth_found⟩ := Option.bind_eq_some_iff.mp found
  cases inner with
  | obj inner =>
      have read : Json.field? "auth" inner = some (.obj fields) := auth_found
      rw [authClaim, taskAuth, inner_found]
      simp only [read, Option.bind_some]
  | _ => cases auth_found

theorem authClaim_of_missing (key : Text)
    (missing : ∀ fields, (task.get? "context").bind (·.get? "auth") ≠ some (.obj fields)) :
    authClaim task key = .null := by
  rw [authClaim, taskAuth]
  cases inner_found : task.get? "context" with
  | none => rfl
  | some inner =>
      cases inner with
      | obj inner =>
          cases read : Json.field? "auth" inner with
          | none =>
              simp only [read]
              rfl
          | some auth =>
              cases auth with
              | obj fields =>
                  refine absurd ?_ (missing fields)
                  rw [inner_found]
                  exact read
              | _ =>
                  simp only [read]
                  rfl
      | _ => rfl

theorem orElse_getD (value : Option Json) (default : Json) :
    Json.orElse (value.getD .null) default = Json.orElse value default := by
  cases value with
  | none => rfl
  | some found => rfl

variable {text : Text}

theorem textClaim_eq_some {keep : Text → Bool} {value : Option Json} :
    textClaim keep value = some text ↔ value.getD .null = .str text ∧ keep text = true := by
  cases value with
  | none => simp [textClaim]
  | some found =>
      cases found with
      | str other =>
          simp only [textClaim, Option.getD_some, Json.str.injEq]
          split_ifs with kept
          · exact ⟨by rintro ⟨⟩; exact ⟨rfl, kept⟩, fun ⟨same, _⟩ => by rw [same]⟩
          · exact ⟨nofun, fun ⟨same, kept'⟩ => absurd (same ▸ kept') kept⟩
      | _ => simp [textClaim]

theorem claims_of_task (analyzed : authClaimsFor task taskType = .ok claims) :
    claims.tenantId = tenantSlug task ∧ claims.areaId = areaSlug task ∧
      ∀ text, claims.tenantHostname = some text ↔
        authClaim task "tenant_hostname" = .str text ∧ strip text ≠ [] := by
  obtain ⟨kind, id, claimed⟩ := authClaimsFor_ok analyzed
  rcases intakeClaims_ok claimed with
    ⟨fields, _, _, _, _, _, found, -, -, rfl, -⟩ | ⟨missing, defaults, -⟩
  · rw [areaSlug, tenantSlug, authClaim_of_found _ found, authClaim_of_found _ found,
      authClaim_of_found _ found, orElse_getD, orElse_getD]
    exact ⟨rfl, rfl,
      fun text => textClaim_eq_some.trans (and_congr_right fun _ => decide_eq_true_iff)⟩
  · have global :
        slugify (Json.orElse Json.null (.str "global")).pyStr = ("global" : Text) := by decide
    rw [areaSlug, tenantSlug, authClaim_of_missing _ missing, authClaim_of_missing _ missing,
      authClaim_of_missing _ missing, defaults, global]
    exact ⟨rfl, global.symm, fun text => ⟨nofun, nofun⟩⟩

theorem isOneOf_statuses {status : Json} :
    status.isOneOf RuntimeProfileEnforcer.allowedTenantStatuses = .ok true ↔
      status = .str "setup" ∨ status = .str "active" := by
  cases status with
  | str text => simp [Json.isOneOf, RuntimeProfileEnforcer.allowedTenantStatuses]
  | _ => simp [Json.isOneOf]

theorem accepts_iff (analyzed : authClaimsFor task taskType = .ok claims) : Accepts claims context ↔
    tenantSlug task = ("global" : Text) ∨
      Fits task ((Json.obj context).item "tenant_authority") := by
  obtain ⟨tenant, area, host⟩ := claims_of_task analyzed
  rw [Accepts, tenant]
  refine or_congr Iff.rfl ⟨?_, ?_⟩
  · rintro ⟨mapping, accepted⟩
    have holds := validateTenantIdentity_ok accepted
    obtain ⟨expected, claimed, text⟩ := holds.hostnameText
    obtain ⟨written, nonblank⟩ := (host expected).mp claimed
    exact ⟨mapping, tenant ▸ holds.tenant, area ▸ holds.area, holds.hostname,
      tenant ▸ holds.hostnameTenant, ⟨expected, written, nonblank, text⟩,
      isOneOf_statuses.mp holds.status,
      holds.authorityGrants⟩
  · intro fits
    obtain ⟨expected, written, nonblank, text⟩ := fits.hostnameText
    refine ⟨fits.mapping, ?_⟩
    unfold validateTenantIdentity
    rw [(host expected).mpr ⟨written, nonblank⟩, tenant, area]
    simp only [Stateful.bind_eq_ok, refuseIf_eq_ok, lift_eq_ok, Bool.not_eq_false', exists_const,
      Json.equal_str, decide_eq_false_iff_not, ne_eq, not_not]
    exact ⟨fits.tenant, fits.area, fits.hostname, fits.hostnameTenant, text, true,
      isOneOf_statuses.mpr fits.status, rfl, fits.authorityGrants⟩

/-- What the gate finds in an authority. -/
structure Started (tenantId areaId authority : Json) : Prop where
  tenant : ((authority.get? "tenant_id").getD .null).equal tenantId = true
  area : ((authority.get? "area_id").getD .null).equal areaId = true
  status : (authority.get? "status").getD .null = .str "setup" ∨
    (authority.get? "status").getD .null = .str "active"

theorem started_iff {tenantId areaId authority : Json} : Started tenantId areaId authority ↔
    ((authority.get? "tenant_id").getD .null).equal tenantId = true ∧
      ((authority.get? "area_id").getD .null).equal areaId = true ∧
      ((authority.get? "status").getD .null = .str "setup" ∨
        (authority.get? "status").getD .null = .str "active") :=
  ⟨fun started => ⟨started.tenant, started.area, started.status⟩,
    fun ⟨tenant, area, status⟩ => ⟨tenant, area, status⟩⟩

theorem status_eq_ok {status : Json} :
    (match status.unhashable with
      | some error => (throw error >>= fun _ : PUnit =>
          if (!(status.equal (.str "setup") || status.equal (.str "active"))) = true then
            throw (tenantStatusError "Tenant is not active for runtime execution.") else pure ())
      | _ => if (!(status.equal (.str "setup") || status.equal (.str "active"))) = true then
          throw (tenantStatusError "Tenant is not active for runtime execution.") else pure () :
        Except PyError Unit) = .ok () ↔ status = .str "setup" ∨ status = .str "active" := by
  cases hashable : status.unhashable with
  | some error =>
      refine iff_of_false nofun ?_
      rintro (rfl | rfl)
      · cases hashable
      · cases hashable
  | none =>
      refine (Stateful.failIf_eq_ok (by nofun)).trans ?_
      rw [Bool.not_eq_false', Bool.or_eq_true, Json.equal_str, Json.equal_str]
      exact and_iff_left rfl

theorem gate_ok_iff {response : Json} : assertRuntimeTenantIsStartable task response = .ok () ↔
    NamesNoTenant task ∨ (authClaim task "tenant_id").unhashable = none ∧
      ((∃ fields, response.get? "tenant_authority" = some (.obj fields) ∧
          Started (authClaim task "tenant_id") (authClaim task "area_id") (.obj fields)) ∨
        (∀ fields, response.get? "tenant_authority" ≠ some (.obj fields)) ∧
          (response.get? "composition_status").getD .null = .str "denied") := by
  unfold assertRuntimeTenantIsStartable NamesNoTenant
  generalize authClaim task "tenant_id" = tenantId
  generalize authClaim task "area_id" = areaId
  dsimp only
  cases hashable : tenantId.unhashable with
  | some error =>
      refine iff_of_false nofun ?_
      rintro ((rfl | rfl) | ⟨⟨⟩, -⟩)
      · cases hashable
      · cases hashable
  | none =>
      by_cases unnamed : tenantId = .null ∨ tenantId = .str "global"
      · have passes : (tenantId.equal .null || tenantId.equal (.str "global")) = true := by
          rw [Bool.or_eq_true, Json.equal_null, Json.equal_str]
          exact unnamed
        dsimp only
        rw [if_pos passes]
        exact iff_of_true rfl (.inl unnamed)
      · have stops : ¬(tenantId.equal .null || tenantId.equal (.str "global")) = true := by
          rw [Bool.or_eq_true, Json.equal_null, Json.equal_str]
          exact unnamed
        dsimp only
        rw [if_neg stops]
        simp only [unnamed, true_and, false_or]
        -- without an authority only a denied composition is let through
        have asksDenial {authority : Option Json} {P : JsonObject → Prop}
            (missing : ∀ fields, authority ≠ some (.obj fields)) :
            (if ((response.get? "composition_status").getD .null).equal (.str "denied") = true then
              pure () else throw (tenantStatusError
                "Tenant authority is required for runtime execution.") :
                Except PyError Unit) = .ok () ↔
              (∃ fields, authority = some (.obj fields) ∧ P fields) ∨
                (∀ fields, authority ≠ some (.obj fields)) ∧
                  (response.get? "composition_status").getD .null = .str "denied" := by
          rw [← Json.equal_str]
          split_ifs with denied
          · exact iff_of_true rfl (.inr ⟨missing, denied⟩)
          · refine iff_of_false nofun ?_
            rintro (⟨fields, found, -⟩ | ⟨-, found⟩)
            · exact missing fields found
            · exact denied found
        cases found : response.get? "tenant_authority" with
        | none => exact asksDenial nofun
        | some authority =>
            cases authority with
            | obj fields =>
                have only : ∀ P : JsonObject → Prop,
                    (∃ others, some (Json.obj fields) = some (Json.obj others) ∧ P others) ↔
                      P fields :=
                  fun P =>
                    ⟨by rintro ⟨_, ⟨⟩, holds⟩; exact holds, fun holds => ⟨fields, rfl, holds⟩⟩
                have never : ¬∀ others, some (Json.obj fields) ≠ some (Json.obj others) :=
                  fun missing => missing fields rfl
                rw [only, or_iff_left fun denied => never denied.1]
                refine (Stateful.failIf_eq_ok (by nofun)).trans (Iff.trans ?_ started_iff.symm)
                rw [Bool.not_eq_false']
                refine and_congr_right fun _ => (Stateful.failIf_eq_ok (by nofun)).trans ?_
                rw [Bool.not_eq_false']
                exact and_congr_right fun _ => status_eq_ok
            | _ => exact asksDenial nofun

theorem passesAlways_iff : PassesAlways task ↔ NamesNoTenant task := by
  constructor
  · intro passes
    rcases gate_ok_iff.mp (passes (.obj [])) with none | ⟨-, ⟨fields, ⟨⟩, -⟩ | ⟨-, ⟨⟩⟩⟩
    exact none
  · exact fun none response => gate_ok_iff.mpr (.inl none)

theorem tenantSlug_of_namesNoTenant (none : NamesNoTenant task) :
    tenantSlug task = ("global" : Text) := by
  rcases none with null | global
  · rw [tenantSlug, null]
    decide
  · rw [tenantSlug, global]
    decide

/-- The control plane found the tenant, or denied the composition. -/
def Found (task : Json) (context : JsonObject) : Prop :=
  (∃ fields, (Json.obj context).get? "tenant_authority" = some (.obj fields) ∧
      Started (authClaim task "tenant_id") (authClaim task "area_id") (.obj fields)) ∨
    (∀ fields, (Json.obj context).get? "tenant_authority" ≠ some (.obj fields)) ∧
      ((Json.obj context).get? "composition_status").getD .null = .str "denied"

theorem mapping_found {key : Text} (mapping : ((Json.obj context).item key).isMapping = true) :
    ∃ fields, (Json.obj context).get? key = some (.obj fields) := by
  unfold Json.item at mapping
  cases found : (Json.obj context).get? key with
  | none =>
      rw [found] at mapping
      cases mapping
  | some value =>
      rw [found] at mapping
      cases value with
      | obj fields => exact ⟨fields, rfl⟩
      | _ => cases mapping

theorem pyStr_orElse (nonempty : text ≠ []) (default : Json) :
    (Json.orElse (Json.str text) default).pyStr = text := by
  cases text with
  | nil => exact absurd rfl nonempty
  | cons c rest => rfl

theorem slugify_written {text default : Text} (nonempty : slugify default ≠ [])
    (same : text = slugify (Json.orElse (Json.str text) (.str default)).pyStr) :
    slugify text = text := by
  by_cases blank : text = []
  · subst blank
    exact absurd same.symm nonempty
  · rw [pyStr_orElse blank] at same
    exact same.symm

theorem slugs_of_started (fits : Fits task ((Json.obj context).item "tenant_authority"))
    (started : Found task context) :
    IsSlug (authClaim task "tenant_id") ∧ IsSlug (authClaim task "area_id") := by
  obtain ⟨fields, found⟩ := mapping_found fits.mapping
  have whole : (Json.obj context).item "tenant_authority" = .obj fields := by
    rw [Json.item, found]; rfl
  rw [whole] at fits
  rcases started with ⟨_, same, tenant, area, -⟩ | ⟨missing, -⟩
  · cases found.symm.trans same
    have tenant_written :=
      (Json.str_equal _ _).mp ((congrArg (Json.equal · _) fits.tenant).symm.trans tenant)
    have area_written :=
      (Json.str_equal _ _).mp ((congrArg (Json.equal · _) fits.area).symm.trans area)
    have tenant_slug : slugify (tenantSlug task) = tenantSlug task := by
      refine @slugify_written _ "global" (by decide) ?_
      rw [← tenant_written]
      rfl
    have area_slug : slugify (areaSlug task) = areaSlug task := by
      refine @slugify_written _ (tenantSlug task) ?_ ?_
      · rw [tenant_slug]
        intro blank
        rw [blank] at tenant_slug
        exact absurd tenant_slug (by decide)
      · rw [← area_written]
        rfl
    exact ⟨⟨_, tenant_written, tenant_slug⟩, ⟨_, area_written, area_slug⟩⟩
  · exact absurd found (missing fields)

theorem slug_nonempty (slug : slugify text = text) : text ≠ [] := by
  rintro rfl
  exact absurd slug (by decide)

theorem started_of_fits (fits : Fits task ((Json.obj context).item "tenant_authority"))
    (slugs : IsSlug (authClaim task "tenant_id") ∧ IsSlug (authClaim task "area_id")) :
    (authClaim task "tenant_id").unhashable = none ∧ Found task context := by
  obtain ⟨⟨tenant, tenant_written, tenant_slug⟩, area, area_written, area_slug⟩ := slugs
  obtain ⟨fields, found⟩ := mapping_found fits.mapping
  have whole : (Json.obj context).item "tenant_authority" = .obj fields := by
    rw [Json.item, found]; rfl
  rw [whole] at fits
  have tenant_same : tenantSlug task = tenant := by
    rw [tenantSlug, tenant_written, pyStr_orElse (slug_nonempty tenant_slug), tenant_slug]
  have area_same : areaSlug task = area := by
    rw [areaSlug, area_written, pyStr_orElse (slug_nonempty area_slug), area_slug]
  refine ⟨by rw [tenant_written]; rfl, .inl ⟨fields, found, ?_, ?_, fits.status⟩⟩
  · exact (congrArg (Json.equal · _) fits.tenant).trans
      ((Json.str_equal _ _).mpr (by rw [tenant_written, tenant_same]))
  · exact (congrArg (Json.equal · _) fits.area).trans
      ((Json.str_equal _ _).mpr (by rw [area_written, area_same]))

/-- The gate and composition agree on a task and a response exactly when the task names no tenant,
or it names one by slugs, as far as the response fits. -/
theorem agree_iff (analyzed : authClaimsFor task taskType = .ok claims) (context : JsonObject) :
    Agree claims task context ↔ NamesNoTenant task ∨ tenantSlug task ≠ ("global" : Text) ∧
      (Fits task ((Json.obj context).item "tenant_authority") →
        IsSlug (authClaim task "tenant_id") ∧ IsSlug (authClaim task "area_id")) := by
  have tenant := (claims_of_task analyzed).1
  constructor
  · rintro ⟨startable, global⟩
    rw [passesAlways_iff, tenant] at global
    refine or_iff_not_imp_left.mpr fun named =>
      ⟨fun whole => named (global.mpr whole), fun fits => ?_⟩
    rcases gate_ok_iff.mp (startable ((accepts_iff analyzed).mpr (.inr fits))) with
      none | ⟨-, started⟩
    · exact absurd none named
    · exact slugs_of_started fits started
  · intro holds
    have global : PassesAlways task ↔ claims.tenantId = ("global" : Text) := by
      rw [passesAlways_iff, tenant]
      constructor
      · exact tenantSlug_of_namesNoTenant
      · exact fun whole => holds.elim id fun named => absurd whole named.1
    refine ⟨fun accepted => ?_, global⟩
    rcases holds with none | ⟨named, slugs⟩
    · exact gate_ok_iff.mpr (.inl none)
    · have fits := ((accepts_iff analyzed).mp accepted).resolve_left named
      exact gate_ok_iff.mpr (.inr (started_of_fits fits (slugs fits)))

def claimedTask (claims : JsonObject) : Json :=
  .obj [("context", .obj [("auth", .obj
    (claims ++ ([("tenant_hostname", .str "acme.example")] : JsonObject)))])]

def acmeResponse : JsonObject :=
  [("tenant_authority", .obj
    [("tenant_id", .str "acme"), ("area_id", .str "acme"), ("status", .str "active"),
      ("hostname", .obj [("tenant_id", .str "acme"), ("hostname", .str "acme.example")]),
      ("direct_user_grants_allowed", .bool false)])]

theorem slugs_agree : ∃ claims,
    authClaimsFor (claimedTask [("tenant_id", .str "acme"), ("area_id", .str "acme")]) "research" =
      .ok claims ∧
    Agree claims (claimedTask [("tenant_id", .str "acme"), ("area_id", .str "acme")])
      acmeResponse :=
  ⟨_, rfl, (@agree_iff _ "research" _ rfl acmeResponse).mpr (.inr ⟨by decide, fun _ =>
    ⟨⟨"acme", rfl, by decide⟩, "acme", rfl, by decide⟩⟩)⟩

/-- Composition takes the tenant for the area that a task leaves out, the gate refuses the task. -/
theorem missing_area_refused :
    ¬∀ (task : Json) (taskType : Text) (claims : AuthClaims) (context : JsonObject),
      authClaimsFor task taskType = .ok claims → Agree claims task context := by
  intro agree
  have agrees := agree (claimedTask [("tenant_id", .str "acme")]) "research" _ acmeResponse rfl
  have started := agrees.startable (.inr ⟨rfl, by decide⟩)
  exact absurd started (by decide)

end SkillCentric.TenantGates
