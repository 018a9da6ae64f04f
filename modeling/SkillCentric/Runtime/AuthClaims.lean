import SkillCentric.Runtime.TenantAccess

/-!
# Authorization claims

`_auth_claims` with all the claims that composition reads, and with the principal that the control
plane is asked for.  The shorter analysis of the queue and the entry point finds the same tenant and
area.
-/

namespace SkillCentric

namespace TaskAnalyzer

/-- `str(value)` of a string that `keep` accepts. -/
def textClaim (keep : Text → Bool) (value : Option Json) : Option Text :=
  match value with
  | some (.str text) => if keep text then some text else none
  | _ => none

/-- `tuple(...) or (default,)`. -/
def listOr (values : List Text) (default : Text) : List Text :=
  if values = [] then [default] else values

/-- `submitter-can-request-{task_type}`. -/
def requestPolicy (taskType : Text) : Text := ("submitter-can-request-" : Text) ++ taskType

/-- `AuthClaims` of a task without claims. -/
def defaultClaims (taskType : Text) : AuthClaims where
  principalId := "user-local"
  principalType := "user"
  displayName := none
  roles := ["repository-maintainer"]
  authorizationPolicies := [requestPolicy taskType]
  tenantId := "global"
  areaId := "global"
  tenantHostname := none
  membershipId := none
  roleDataSources := []
  roleCapabilities := []

/-- A claim as text, or its default. -/
def claim (auth : Json) (key default : Text) : Text :=
  (Json.orElse (auth.get? key) (.str default)).pyStr

/-- A claim that is one of the choices, or the default. -/
def claimChoice (auth : Json) (key default : Text) (choices : List Text) : Text :=
  if choices.contains (claim auth key default) then claim auth key default else default

/-- The claims of `auth` with the lists that were read from it. -/
def claimsOf (auth : Json) (taskType : Text)
    (roles authorizationPolicies roleDataSources roleCapabilities : List Text) : AuthClaims :=
  let tenantId := slugify (claim auth "tenant_id" "global")
  { principalId := claim auth "principal_id" "user-local"
    principalType := claimChoice auth "principal_type" "user" ["user", "service", "system"]
    displayName := textClaim (· ≠ []) (auth.get? "display_name")
    roles := listOr roles "repository-maintainer"
    authorizationPolicies := listOr authorizationPolicies (requestPolicy taskType)
    tenantId
    areaId := slugify (claim auth "area_id" tenantId)
    tenantHostname := textClaim (strip · ≠ []) (auth.get? "tenant_hostname")
    membershipId := (textClaim (strip · ≠ []) (auth.get? "membership_id")).map slugify
    roleDataSources
    roleCapabilities }

/-- `str(auth.get("control_plane_principal_id") or roles[0] or ...)`: no role is empty. -/
def claimedPrincipal (auth : Json) (roles : List Text) : Except PyError Text :=
  let claimed := Json.orElse (auth.get? "control_plane_principal_id") .null
  if claimed.truthy then .ok claimed.pyStr
  else
    match roles with
    | role :: _ => .ok role
    | [] => .error ⟨.indexError, "tuple index out of range", none⟩

/-- `_auth_claims`, with the kind and the identifier of the principal. -/
def intakeClaims (task : Json) (taskType : Text) : Except PyError (AuthClaims × Text × Text) :=
  match (task.get? "context").bind (·.get? "auth") with
  | some (.obj fields) => do
      let auth := Json.obj fields
      let roles ← claimList auth "roles" [.str "repository-maintainer"]
      let principal ← claimedPrincipal auth roles
      let authorizationPolicies ←
        claimList auth "authorization_policies" [.str (requestPolicy taskType)]
      let roleDataSources ← claimList auth "role_data_sources" []
      let roleCapabilities ← claimList auth "role_capabilities" []
      return (claimsOf auth taskType roles authorizationPolicies roleDataSources roleCapabilities,
        claimChoice auth "control_plane_principal_kind" "role" ["role", "user", "service"],
        slugify principal)
  | _ => .ok (defaultClaims taskType, "role", "repository-maintainer")

/-- The claims of `_auth_claims`. -/
def authClaimsFor (task : Json) (taskType : Text) : Except PyError AuthClaims :=
  (intakeClaims task taskType).map Prod.fst

section Analyzed

variable {task : Json} {taskType : Text}

theorem intakeClaims_ok {claims : AuthClaims} {kind id : Text}
    (claimed : intakeClaims task taskType = .ok (claims, kind, id)) :
    (∃ fields roles principal policies sources capabilities,
      (task.get? "context").bind (·.get? "auth") = some (.obj fields) ∧
      claimList (.obj fields) "roles" [.str "repository-maintainer"] = .ok roles ∧
      claimedPrincipal (.obj fields) roles = .ok principal ∧
      claims = claimsOf (.obj fields) taskType roles policies sources capabilities ∧
      kind = claimChoice (.obj fields) "control_plane_principal_kind" "role"
        ["role", "user", "service"] ∧
      id = slugify principal) ∨
    (∀ fields, (task.get? "context").bind (·.get? "auth") ≠ some (.obj fields)) ∧
      claims = defaultClaims taskType ∧ kind = "role" ∧ id = "repository-maintainer" := by
  unfold intakeClaims at claimed
  split at claimed
  next fields found =>
    obtain ⟨roles, listed, claimed⟩ := Stateful.bind_eq_ok.mp claimed
    obtain ⟨principal, named, claimed⟩ := Stateful.bind_eq_ok.mp claimed
    obtain ⟨policies, -, claimed⟩ := Stateful.bind_eq_ok.mp claimed
    obtain ⟨sources, -, claimed⟩ := Stateful.bind_eq_ok.mp claimed
    obtain ⟨capabilities, -, claimed⟩ := Stateful.bind_eq_ok.mp claimed
    cases claimed
    exact .inl
      ⟨fields, roles, principal, policies, sources, capabilities, found, listed, named, rfl,
      rfl, rfl⟩
  next missing =>
    cases claimed
    exact .inr ⟨missing, rfl, rfl, rfl⟩

theorem authClaimsFor_ok {claims : AuthClaims}
    (analyzed : authClaimsFor task taskType = .ok claims) :
    ∃ kind id, intakeClaims task taskType = .ok (claims, kind, id) := by
  unfold authClaimsFor at analyzed
  cases claimed : intakeClaims task taskType with
  | error error =>
      rw [claimed] at analyzed
      cases analyzed
  | ok read =>
      rw [claimed] at analyzed
      cases analyzed
      exact ⟨read.2.1, read.2.2, rfl⟩

/-- Whether a list is read, and the error otherwise, does not depend on its default. -/
theorem claimList_unit (auth : Json) (key : Text) (items others : List Json) :
    (claimList auth key items).map (fun _ => ()) = (claimList auth key others).map fun _ => () := by
  unfold claimList
  cases auth.get? key <;> rfl

/-- The shorter analysis finds the tenant and the area of the claims. -/
theorem authClaims_eq : authClaims task =
    (authClaimsFor task taskType).map fun claims => (claims.tenantId, claims.areaId) := by
  unfold authClaims authClaimsFor intakeClaims
  cases (task.get? "context").bind (·.get? "auth") with
  | none => rfl
  | some auth =>
      cases auth with
      | obj fields =>
          have policies := claimList_unit (.obj fields) "authorization_policies" []
            [.str (requestPolicy taskType)]
          simp only [bind, Except.bind, claimedPrincipal]
          cases claimList (.obj fields) "roles" [.str "repository-maintainer"] with
          | error error => rfl
          | ok roles =>
              revert policies
              cases claimList (.obj fields) "authorization_policies" [] <;>
                cases claimList (.obj fields) "authorization_policies"
                  [.str (requestPolicy taskType)] <;> rintro ⟨⟩ <;>
                cases (Json.orElse ((Json.obj fields).get? "control_plane_principal_id")
                  .null).truthy <;>
                cases roles <;> cases claimList (.obj fields) "role_data_sources" [] <;>
                cases claimList (.obj fields) "role_capabilities" [] <;> rfl
      | _ => rfl

end Analyzed

end TaskAnalyzer

end SkillCentric
