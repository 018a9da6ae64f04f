import SkillCentric.Library.Refusals
import SkillCentric.Runtime.DataSources

/-!
# Data-source grants

The connector takes the grants of every role bundle with a selected id, the enforcer looks at the
last bundle of an id only.  The two agree on a profile that the enforcer accepts exactly when the
tenant grants itself what shadowed bundles of other tenants grant.
-/

namespace SkillCentric.DataSourceGrants

open RuntimeProfileEnforcer TenantDataSourceConnector Stateful

/-- Values that Python can look up in a set. -/
def IsHashable : Json → Prop
  | .arr _ | .obj _ => False
  | _ => True

section Specification

variable (profile : JsonObject) (dataSourceId accessMode : Text)

/-- The tenant of a profile. -/
def tenant : Text := tenantId (tenantContext profile)

def heldRoles : List Text :=
  (((tenantAuthority profile).item "membership").item "role_ids" (.arr [])).stringSet

/-- A role bundle that the profile selects grants an access mode on a data source. -/
structure SelectedGrant (role : Json) : Prop where
  listed : role ∈ roleBundles profile
  selected : ∃ roleId ∈ roleIds profile, role.item "id" = .str roleId
  grants : ∃ grant ∈ dataSourceGrants role, grant.item "data_source_id" = .str dataSourceId ∧
    accessMode ∈ (grant.item "access_modes" (.arr [])).stringSet

/-- The connector and the enforcer find the data source in the tenant. -/
structure Belongs : Prop where
  first : ∃ source, dataSource profile dataSourceId = .ok source ∧
    source.item "tenant_id" = .str (tenant profile)
  last : ∃ sources, (tenantAuthority profile).item "data_sources" (.arr []) = .arr sources ∧
    dataSourceTenant sources dataSourceId = .str (tenant profile)

/-- The tenant itself grants the access mode, through a role that the membership holds. -/
structure OwnGrant (role : Json) :
    Prop extends SelectedGrant profile dataSourceId accessMode role where
  own : role.item "tenant_id" = .str (tenant profile)
  held : ∃ roleId ∈ heldRoles profile, role.item "id" = .str roleId

/-- What the connector needs of a profile before it looks at grants. -/
structure Offered : Prop where
  tenantScoped : tenant profile ≠ ([] : Text) ∧ tenant profile ≠ ("global" : Text)
  allowed :
    dataSourceId ∈ ((tenantContext profile).item "allowed_role_data_sources" (.arr [])).stringSet
  source : ∃ source, dataSource profile dataSourceId = .ok source ∧
    source.item "tenant_id" = .str (tenant profile) ∧
    (source.item "status" = .str "planned" ∨ source.item "status" = .str "active")
  hashable : ∀ role ∈ roleBundles profile, IsHashable (role.item "id")

end Specification

variable {profile : JsonObject} {dataSourceId accessMode : Text}

theorem refuseIf_eq_ok {condition : Bool} {message : Text} {value : Unit} :
    refuseIf condition message = .ok value ↔ condition = false := raiseIf_eq_ok

theorem isIn_eq_ok {value : Json} {texts : List Text} {found : Bool} :
    isIn value texts = .ok found ↔
    IsHashable value ∧ (found = true ↔ ∃ text ∈ texts, value = .str text) := by
  cases value with
  | str text => cases found <;> simp [isIn, Json.isOneOf, Except.mapError, IsHashable]
  | arr items => simp [isIn, Json.isOneOf, Except.mapError, IsHashable]
  | obj fields => simp [isIn, Json.isOneOf, Except.mapError, IsHashable]
  | _ => cases found <;> simp [isIn, Json.isOneOf, Except.mapError, IsHashable]

theorem mem_modesOf {role : Json} : accessMode ∈ modesOf dataSourceId role ↔
    ∃ grant ∈ dataSourceGrants role, grant.item "data_source_id" = .str dataSourceId ∧
      accessMode ∈ (grant.item "access_modes" (.arr [])).stringSet := by
  simp only [modesOf, List.mem_flatMap, List.mem_filter, Json.equal_str, and_assoc]

theorem roleModes_eq_ok {role : Json} {modes : List Text} :
    (do
      let selected ← isIn (role.item "id") (roleIds profile)
      return if selected then modesOf dataSourceId role else [] : Connect (List Text)) = .ok modes ↔
      ∃ selected, isIn (role.item "id") (roleIds profile) = .ok selected ∧
        modes = if selected then modesOf dataSourceId role else [] := by
  rw [bind_eq_ok]
  exact exists_congr fun selected => and_congr_right fun _ => by simp [pure, Except.pure, eq_comm]

theorem grants_iff :
    (∃ modes, grantedAccessModes profile dataSourceId = .ok modes ∧ accessMode ∈ modes) ↔
    (∀ role ∈ roleBundles profile, IsHashable (role.item "id")) ∧
      ∃ role, SelectedGrant profile dataSourceId accessMode role := by
  constructor
  · rintro ⟨modes, granted, member⟩
    obtain ⟨found, passed, granted⟩ := bind_eq_ok.mp granted
    obtain ⟨-, -, same⟩ := bind_eq_ok.mp granted
    cases same
    obtain ⟨ofRole, ofRole_mem, mode_mem⟩ := List.mem_flatten.mp member
    refine ⟨fun role listed => ?_, ?_⟩
    · obtain ⟨modes, read⟩ := mapM_returns_iff.mp ⟨found, passed⟩ role listed
      obtain ⟨selected, looked, -⟩ := roleModes_eq_ok.mp read
      exact (isIn_eq_ok.mp looked).1
    · obtain ⟨role, listed, read⟩ := exists_of_mapM_ok passed ofRole ofRole_mem
      obtain ⟨selected, looked, rfl⟩ := roleModes_eq_ok.mp read
      split_ifs at mode_mem with chosen
      · exact ⟨role, listed, (isIn_eq_ok.mp looked).2.mp chosen, mem_modesOf.mp mode_mem⟩
      · cases mode_mem
  · rintro ⟨hashable, role, listed, selected, grants⟩
    have each : ∀ other ∈ roleBundles profile, ∃ modes, (do
        let selected ← isIn (other.item "id") (roleIds profile)
        return if selected then modesOf dataSourceId other else [] : Connect (List Text)) =
          .ok modes := by
      intro other other_listed
      refine ⟨_,
        roleModes_eq_ok.mpr ⟨decide (∃ text ∈ roleIds profile, other.item "id" = .str text),
        isIn_eq_ok.mpr ⟨hashable other other_listed, decide_eq_true_iff⟩, rfl⟩⟩
    obtain ⟨found, passed, results⟩ := mapM_exists each
    have member : accessMode ∈ found.flatten := List.mem_flatten.mpr ⟨modesOf dataSourceId role,
      (results _).mpr ⟨role, listed, roleModes_eq_ok.mpr ⟨true,
        isIn_eq_ok.mpr ⟨hashable role listed, iff_of_true rfl selected⟩, rfl⟩⟩,
          mem_modesOf.mpr grants⟩
    refine ⟨found.flatten, bind_eq_ok.mpr ⟨found, passed, bind_eq_ok.mpr ⟨(), ?_, rfl⟩⟩, member⟩
    rw [refuseIf_eq_ok, ← Bool.not_eq_true, List.isEmpty_iff]
    exact List.ne_nil_of_mem member

theorem connect_returns_iff : (∃ handle, connect profile dataSourceId accessMode = .ok handle) ↔
    Offered profile dataSourceId ∧ ∃ role, SelectedGrant profile dataSourceId accessMode role := by
  have inTenant : ((tenant profile).isEmpty || tenant profile == ("global" : Text)) = false ↔
      tenant profile ≠ ([] : Text) ∧ tenant profile ≠ ("global" : Text) := by
    rw [Bool.or_eq_false_iff, ← Bool.not_eq_true, List.isEmpty_iff, beq_eq_false_iff_ne]
  have available {source : Json} : isIn (source.item "status") ["planned", "active"] = .ok true ↔
      source.item "status" = .str "planned" ∨ source.item "status" = .str "active" := by
    rw [isIn_eq_ok]
    constructor
    · rintro ⟨-, found⟩
      simpa using found.mp rfl
    · rintro (planned | active)
      · exact ⟨by rw [planned]; trivial, iff_of_true rfl ⟨"planned", by simp, planned⟩⟩
      · exact ⟨by rw [active]; trivial, iff_of_true rfl ⟨"active", by simp, active⟩⟩
  simp only [connect, bind_eq_ok, refuseIf_eq_ok, exists_const, Bool.not_eq_false',
    List.contains_iff_mem, Json.equal_str]
  constructor
  · rintro ⟨handle, inScope, allowed, source, found, own, status, looked, rfl,
      modes, granted, member, -⟩
    obtain ⟨hashable, selected⟩ := grants_iff.mp ⟨modes, granted, member⟩
    exact ⟨⟨inTenant.mp inScope, allowed, ⟨source, found, own, available.mp looked⟩, hashable⟩,
      selected⟩
  · rintro ⟨⟨inScope, allowed, ⟨source, found, own, status⟩, hashable⟩, selected⟩
    obtain ⟨modes, granted, member⟩ := grants_iff.mpr ⟨hashable, selected⟩
    exact ⟨_, inTenant.mpr inScope, allowed, source, found, own, true,
      available.mpr status, rfl, modes,
      granted, member, rfl⟩

section Accepted

variable (accepted : validateProfileForRuntime profile = .ok ())

include accepted in
theorem accepted_tenant (notGlobal : tenant profile ≠ ("global" : Text)) :
    (∀ roleId ∈ roleIds profile, roleId ∈ heldRoles profile) ∧
      ∀ dataSourceId ∈ ((tenantContext profile).item "allowed_role_data_sources"
        (.arr [])).stringSet,
        ∃ sources, (tenantAuthority profile).item "data_sources" (.arr []) = .arr sources ∧
          dataSourceTenant sources dataSourceId = .str (tenant profile) := by
  have authority := ((validateProfileForRuntime_ok.mp accepted).2).2
  obtain ⟨-, ⟨whole, -⟩ | ⟨-, -, checked⟩⟩ := validateTenantAuthority_ok.mp authority
  · exact absurd whole notGlobal
  obtain ⟨-, membership, bundles, sources, selected, -, grants, -⟩ := validateTenant_ok.mp checked
  refine ⟨membership.roles, fun source allowed => ?_⟩
  obtain ⟨role, role_mem, named⟩ := List.mem_flatMap.mp (grants.dataSources source allowed)
  obtain ⟨grant, grant_mem, read⟩ := List.mem_filterMap.mp named
  obtain ⟨id, written, own⟩ := grants.grants role role_mem grant grant_mem
  rw [written] at read
  cases read
  exact ⟨sources, grants.list, own⟩

end Accepted

/-- The connector connects only to what the tenant owns and grants. -/
def Contained (profile : JsonObject) (dataSourceId accessMode : Text) : Prop :=
  ∀ handle, connect profile dataSourceId accessMode = .ok handle →
    Belongs profile dataSourceId ∧ ∃ role, OwnGrant profile dataSourceId accessMode role

/-- What a selected bundle of another tenant grants on an offered data source, a selected bundle of
the tenant grants too. -/
def Covered (profile : JsonObject) (dataSourceId accessMode : Text) : Prop :=
  Offered profile dataSourceId →
    (∃ role, SelectedGrant profile dataSourceId accessMode role ∧
      role.item "tenant_id" ≠ .str (tenant profile)) →
    ∃ role, SelectedGrant profile dataSourceId accessMode role ∧
      role.item "tenant_id" = .str (tenant profile)

/-- The connector agrees with the enforcer on an accepted profile exactly when the tenant covers
what other tenants grant. -/
theorem contained_iff (accepted : validateProfileForRuntime profile = .ok ())
    (dataSourceId accessMode : Text) :
    Contained profile dataSourceId accessMode ↔ Covered profile dataSourceId accessMode := by
  constructor
  · rintro contained offered ⟨foreign, selected, -⟩
    obtain ⟨handle, connected⟩ := connect_returns_iff.mpr ⟨offered, foreign, selected⟩
    obtain ⟨-, role, own⟩ := contained handle connected
    exact ⟨role, own.toSelectedGrant, own.own⟩
  · intro covered handle connected
    obtain ⟨offered, role, selected⟩ := connect_returns_iff.mp ⟨handle, connected⟩
    obtain ⟨held, last⟩ := accepted_tenant accepted offered.tenantScoped.2
    obtain ⟨source, found, own, -⟩ := offered.source
    refine ⟨⟨⟨source, found, own⟩, last dataSourceId offered.allowed⟩, ?_⟩
    obtain ⟨granting, selected, own⟩ : ∃ role, SelectedGrant profile dataSourceId accessMode role ∧
        role.item "tenant_id" = .str (tenant profile) := by
      by_cases mine : role.item "tenant_id" = .str (tenant profile)
      · exact ⟨role, selected, mine⟩
      · exact covered offered ⟨role, selected, mine⟩
    obtain ⟨roleId, listed, named⟩ := selected.selected
    exact ⟨granting, selected, own, roleId, held roleId listed, named⟩

/-- A bundle of the reader that grants one access mode on the files. -/
def readerBundle (tenantId accessMode : Text) : Json :=
  .obj [("id", .str "reader"), ("tenant_id", .str tenantId),
    ("data_source_grants", .arr [.obj
      [("data_source_id", .str "files"), ("access_modes", .arr [.str accessMode])]])]

def readerProfile (bundles : List Json) : JsonObject :=
  [("tenant_context", sampleTenantContext [("allowed_role_data_sources", .arr [.str "files"])]),
    ("tenant_authority", sampleAuthority
      [("role_bundles", .arr bundles),
        ("data_sources", .arr [.obj
          [("id", .str "files"), ("tenant_id", .str "acme"), ("status", .str "active")]])]),
    ("auth_context", .obj [("principal", .obj [("id", .str "user-a")])])]

theorem readerProfile_contained :
    Contained (readerProfile [readerBundle "acme" "read"]) "files" "read" := by
  refine (contained_iff (by decide) "files" "read").mpr fun _ ⟨role, selected, foreign⟩ => ?_
  have bundle : role = readerBundle "acme" "read" := List.mem_singleton.mp selected.listed
  exact absurd (by rw [bundle]; rfl) foreign

/-- A shadowed bundle of another tenant lets an accepted profile write. -/
theorem shadowed_bundle_writes :
    ¬∀ (profile : JsonObject) (dataSourceId accessMode : Text),
      validateProfileForRuntime profile = .ok () → Contained profile dataSourceId accessMode := by
  intro contains
  obtain ⟨-, role, own⟩ := contains
    (readerProfile [readerBundle "globex" "write", readerBundle "acme" "read"]) "files" "write"
    (by decide) ⟨"files", "acme", "write", "active"⟩ (by decide)
  have bundle : role = readerBundle "globex" "write" ∨ role = readerBundle "acme" "read" := by
    have listed : role ∈ [readerBundle "globex" "write", readerBundle "acme" "read"] := own.listed
    simpa using listed
  rcases bundle with rfl | rfl
  · exact absurd own.own (by decide)
  · exact absurd (mem_modesOf.mpr own.grants) (by decide)

end SkillCentric.DataSourceGrants
