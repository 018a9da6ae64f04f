import SkillCentric.Properties.Budgets

/-!
# Tenant containment

Validation compares the strings of a list with what the roles of a tenant derive; the access checks
of a run ask for membership in the field as it is.  The two readings of a field agree on lists
without blank strings, on mappings with derived keys, and on values nothing can be a member of.
-/

namespace SkillCentric

open RuntimeProfileEnforcer Stateful Check Budgets

namespace TenantContainment

/-- `profile["tenant_context"]`. -/
def tenantContext (profile : JsonObject) : Json := (Json.obj profile).item "tenant_context"

/-- `profile["tenant_authority"]`. -/
def authority (profile : JsonObject) : Json := (Json.obj profile).item "tenant_authority"

def listed (profile : JsonObject) (field : Text) : Json := (Json.obj profile).item field (.arr [])

/-- The membership holds the role. -/
def Holds (profile : JsonObject) (role : Json) : Prop :=
  ∃ id ∈ (((authority profile).item "membership").item "role_ids" (.arr [])).stringSet,
    role.get? "id" = some (.str id)

/-- The role is one of the profile's own tenant. -/
def Belongs (profile : JsonObject) (role : Json) : Prop :=
  ((authority profile).item "tenant_id").equal ((tenantContext profile).item "tenant_id") = true ∧
    role.item "tenant_id" = .str ((authority profile).item "tenant_id" (.str "")).pyStr

/-- A module of `derived_runtime_modules` of a role bundle that the membership holds and that
belongs to the tenant. -/
def RoleDerived (profile : JsonObject) (field name : Text) : Prop :=
  ∃ bundles, (authority profile).item "role_bundles" (.arr []) = .arr bundles ∧
    ∃ role ∈ bundles, Holds profile role ∧ Belongs profile role ∧
      name ∈ ((derivedModules role).item field (.arr [])).stringSet

/-- Some enforcer of the profile lets the operation pass. -/
def CanPass (profile : JsonObject) (op : Enforce Unit) : Prop :=
  ∃ enforcer plane, ∃ steps : List EnforcedStep, create profile = .ok enforcer ∧
    (perform op (steps.foldl EnforcedRun.step (.initial enforcer plane)).enforcer).1 = .ok ()

/-- Everything a run of the profile can use is its tenant's. -/
structure Contained (profile : JsonObject) : Prop where
  tools : ∀ elapsed toolName scopes policies risk,
    CanPass profile (recordToolInvocation elapsed toolName scopes policies risk) →
      RoleDerived profile "tools" toolName
  skills : ∀ skillName, CanPass profile (requireSkill skillName) →
    RoleDerived profile "skills" skillName
  policies : ∀ policyId, CanPass profile (requirePolicy policyId) →
    RoleDerived profile "policies" policyId
  knowledge : ∀ requested, CanPass profile (requireKnowledgeScopes requested) →
    ∀ scope ∈ requested, scope ∈ allowedScopes (authority profile) "allowed_knowledge_scopes"
  data : ∀ requested, CanPass profile (requireDataScopes requested) →
    ∀ scope ∈ requested, scope ∈ allowedScopes (authority profile) "allowed_data_scopes"
  memory : ∀ requested, CanPass profile (requireMemoryScopes requested) →
    ∀ scope ∈ requested, scope ∈ allowedScopes (authority profile) "allowed_memory_scopes"

/-- The field of names reads the same to validation and to the access checks: a list without blank
strings, a mapping whose keys are allowed, or a value without members; never a string. -/
def PlainNames (allowed : Text → Prop) : Json → Prop
  | .arr items => ∀ name, .str name ∈ items → strip name ≠ []
  | .str _ => False
  | .obj fields => ∀ name ∈ fields.map Prod.fst, allowed name
  | _ => True

/-- The field of scopes reads the same to validation and to the access checks: a list without blank
entries, a mapping whose keys are allowed, a string of allowed characters, or a value that cannot be
iterated. -/
def PlainScopes (allowed : List Text) : Json → Prop
  | .arr items => ∀ item ∈ items, strip item.pyStr ≠ []
  | .str text => ∀ c ∈ text, [c] ∈ allowed
  | .obj fields => ∀ scope ∈ fields.map Prod.fst, scope ∈ allowed
  | _ => True

/-- The limits allow one call. -/
def AllowsToolCall (profile : JsonObject) : Prop :=
  (∃ calls, limit profile "max_tool_calls" = .ok calls ∧ 1 ≤ calls) ∧
    ∃ seconds, limit profile "max_duration_seconds" = .ok seconds ∧ 0 ≤ seconds

/-- Every field reads the same to validation and to the access checks. -/
structure Plain (profile : JsonObject) : Prop where
  tools : AllowsToolCall profile → PlainNames (RoleDerived profile "tools") (listed profile "tools")
  skills : PlainNames (RoleDerived profile "skills") (listed profile "skills")
  policies : PlainNames (RoleDerived profile "policies") (listed profile "policies")
  knowledge : PlainScopes (allowedScopes (authority profile) "allowed_knowledge_scopes")
    (listed profile "knowledge_scopes")
  data : PlainScopes (allowedScopes (authority profile) "allowed_data_scopes")
    (listed profile "data_scopes")
  memory : PlainScopes (allowedScopes (authority profile) "allowed_memory_scopes")
    (listed profile "memory_scopes")

section Fields

variable {profile : JsonObject} {field : Text}

theorem RoleDerived.nonblank {name : Text} (derived : RoleDerived profile field name) :
    strip name ≠ [] := by
  obtain ⟨bundles, -, role, -, -, -, member⟩ := derived
  obtain ⟨items, -, -, nonblank⟩ := Json.mem_stringSet.mp member
  exact nonblank

theorem lists_iff_plainNames {allowed : Text → Prop}
    (nonblank : ∀ name, allowed name → strip name ≠ [])
    (validated : ∀ name ∈ selected profile field, allowed name) :
    (∀ name, Lists profile field name → allowed name) ↔
      PlainNames allowed (listed profile field) := by
  unfold Budgets.Lists listed selected at *
  cases value : (Json.obj profile).item field (.arr []) with
  | arr items =>
      rw [value] at validated
      simp only [Json.contains_arr, PlainNames]
      refine ⟨fun contained name member => nonblank name (contained name member),
        fun plain name member => validated name ?_⟩
      refine Json.mem_stringSet.mpr ⟨items, rfl, ?_, plain name member⟩
      exact List.mem_map.mpr ⟨.str name, member, rfl⟩
  | str text =>
      simp only [Json.contains_str, PlainNames, iff_false]
      -- the empty string is a substring of every string
      intro contained
      exact nonblank [] (contained [] (List.nil_infix)) rfl
  | obj fields => simp [Json.contains_obj, PlainNames]
  | null => simp [Json.contains, PlainNames]
  | bool _ => simp [Json.contains, PlainNames]
  | int _ => simp [Json.contains, PlainNames]
  | float _ => simp [Json.contains, PlainNames]

theorem scoped_iff_plainScopes {scopes : Text}
    (validated : ∀ scope ∈ selected profile field,
      scope ∈ allowedScopes (authority profile) scopes) :
    (∀ scope, Scoped profile field scope → scope ∈ allowedScopes (authority profile) scopes) ↔
      PlainScopes (allowedScopes (authority profile) scopes) (listed profile field) := by
  unfold Scoped listed selected at *
  cases value : (Json.obj profile).item field (.arr []) with
  | arr items =>
      rw [value] at validated
      simp only [Json.iterate, Except.ok.injEq, exists_eq_left', PlainScopes]
      constructor
      · intro contained item member
        obtain ⟨-, -, -, nonblank⟩ :=
          Json.mem_stringSet.mp (contained item.pyStr (List.mem_map.mpr ⟨item, member, rfl⟩))
        exact nonblank
      · intro plain scope member
        obtain ⟨item, item_mem, rfl⟩ := List.mem_map.mp member
        exact validated _ (Json.mem_stringSet.mpr ⟨items, rfl, member, plain item item_mem⟩)
  | str text =>
      have characters : (text.map fun c => Json.str [c]).map Json.pyStr = text.map ([·]) := by
        simp [Function.comp_def, Json.pyStr]
      simp only [Json.iterate, Except.ok.injEq, exists_eq_left', PlainScopes, characters,
        List.forall_mem_map]
  | obj fields =>
      have keys :
          (fields.map fun entry => Json.str entry.1).map Json.pyStr = fields.map Prod.fst := by
        simp [Function.comp_def, Json.pyStr]
      simp only [Json.iterate, Except.ok.injEq, exists_eq_left', PlainScopes, keys]
  | null => simp [Json.iterate, PlainScopes]
  | bool _ => simp [Json.iterate, PlainScopes]
  | int _ => simp [Json.iterate, PlainScopes]
  | float _ => simp [Json.iterate, PlainScopes]

end Fields

section Passes

variable {profile : JsonObject} {enforcer : RuntimeProfileEnforcer}

theorem create_profile (created : create profile = .ok enforcer) :
    enforcer.profile = profile ∧ enforcer.count .toolCalls = 0 := by
  obtain ⟨generation, -, made⟩ := bind_eq_ok.mp created
  cases made
  exact ⟨rfl, rfl⟩

theorem canPass_check (created : create profile = .ok enforcer)
    {checked : JsonObject → Check Unit} :
    CanPass profile (check checked) ↔ checked profile = .ok () := by
  constructor
  · rintro ⟨other, plane, steps, start, passed⟩
    have same := (run_advances steps (.initial other plane)).profile
    rw [perform_check, same] at passed
    have kept : other.profile = profile := (create_profile start).1
    rwa [EnforcedRun.initial, kept] at passed
  · intro passed
    refine ⟨enforcer, .empty, [], created, ?_⟩
    rw [perform_check]
    have kept : enforcer.profile = profile := (create_profile created).1
    rwa [List.foldl_nil, EnforcedRun.initial, kept]

theorem canPass_requireIn (created : create profile = .ok enforcer) {field kind code name : Text} :
    CanPass profile (requireIn field kind code name) ↔ Lists profile field name := by
  rw [requireIn, canPass_check created]
  exact lift_then_deny

private theorem canPass_requireScopes (created : create profile = .ok enforcer) {field kind : Text}
    {requested : List Text} :
    CanPass profile (requireScopes field kind requested) ↔
      ∃ allowed, (listed profile field).iterate = .ok allowed ∧
        ∀ scope ∈ requested, scope ∈ allowed.map Json.pyStr := by
  rw [requireScopes, canPass_check created, bind_eq_ok]
  simp only [lift_eq_ok, denyIf_eq_ok, Bool.not_eq_false', List.isEmpty_iff, Json.missing_eq_nil]
  exact Iff.rfl

theorem requireScopes_contained (created : create profile = .ok enforcer) {field kind : Text}
    {allowed : List Text} :
    (∀ requested, CanPass profile (requireScopes field kind requested) →
        ∀ scope ∈ requested, scope ∈ allowed) ↔
      ∀ scope, Scoped profile field scope → scope ∈ allowed := by
  simp only [canPass_requireScopes created]
  constructor
  · rintro contained scope ⟨found, iterated, member⟩
    exact contained [scope] ⟨found, iterated, by simpa using member⟩ scope (by simp)
  · rintro contained requested ⟨found, iterated, every⟩ scope member
    exact contained scope ⟨found, iterated, every scope member⟩

theorem lists_of_canPass {elapsed : Nat} {toolName : Text}
    {scopes policies : List Text} {risk : Text}
    (passes : CanPass profile (recordToolInvocation elapsed toolName scopes policies risk)) :
    Lists profile "tools" toolName ∧ AllowsToolCall profile := by
  obtain ⟨enforcer, plane, steps, created, passed⟩ := passes
  have advance := run_advances steps (.initial enforcer plane)
  obtain ⟨kept, start⟩ := create_profile created
  obtain ⟨permitted, -, ⟨calls, bounded, room⟩, seconds, duration, timely⟩ :=
    recordToolInvocation_ok (Prod.ext passed rfl)
  have same : (steps.foldl EnforcedRun.step (.initial enforcer plane)).enforcer.profile = profile :=
    advance.profile.trans kept
  have grown : enforcer.count .toolCalls ≤ _ := advance.grows .toolCalls
  rw [same] at permitted bounded duration
  exact ⟨permitted.tool, ⟨calls, bounded, by omega⟩, seconds, duration, by omega⟩

theorem canPass_recordToolInvocation (created : create profile = .ok enforcer) {toolName : Text}
    (tool : Lists profile "tools" toolName) (allows : AllowsToolCall profile) :
    CanPass profile (recordToolInvocation 0 toolName [] [] "low") := by
  obtain ⟨⟨calls, bounded, room⟩, seconds, duration, nonneg⟩ := allows
  obtain ⟨rfl, start⟩ := create_profile created
  refine ⟨enforcer, .empty, [], created, ?_⟩
  rw [List.foldl_nil, EnforcedRun.initial]
  have timely : perform (checkDuration 0) enforcer = (.ok (), enforcer) :=
    checkDuration_ok.mpr ⟨⟨seconds, duration, by omega⟩, rfl⟩
  have allowed : perform (requireTool toolName) enforcer = (.ok (), enforcer) :=
    requireIn_ok.mpr ⟨tool, rfl⟩
  have ranked : perform (requireToolRisk toolName "low") enforcer = (.ok (), enforcer) :=
    requireToolRisk_ok.mpr ⟨Nat.zero_le _, rfl⟩
  have unconditional :
      perform (([] : List Text).forM requirePolicy) enforcer = (.ok (), enforcer) :=
    rfl
  have counted := @incrementLimit_of_le .toolCalls 1 calls enforcer (by decide) bounded
    (by omega)
  unfold recordToolInvocation
  simp only [perform_bind, timely, allowed, ranked, unconditional, counted]
  rfl

end Passes

section Validated

variable {profile : JsonObject}

theorem exists_create (accepted : validateProfileForRuntime profile = .ok ()) :
    ∃ enforcer, create profile = .ok enforcer := by
  obtain ⟨-, ⟨generation, -, generated, -, -⟩, -⟩ := validateProfileForRuntime_ok.mp accepted
  exact ⟨_, by rw [create, generated]; rfl⟩

theorem validateTenant_of_accepted (accepted : validateProfileForRuntime profile = .ok ())
    (tenanted : tenantId (tenantContext profile) ≠ ("global" : Text)) :
    validateTenant profile (tenantContext profile) (authority profile) = .ok () := by
  obtain ⟨-, -, checked⟩ := validateProfileForRuntime_ok.mp accepted
  obtain ⟨-, whole | tenant⟩ := validateTenantAuthority_ok.mp checked
  · exact absurd whole.1 tenanted
  · exact tenant.2.2

theorem roleDerived_of_allowed {bundles roleBundles : List Json} {field name : Text}
    (identity : IdentityHolds (tenantContext profile) (authority profile))
    (membership : MembershipHolds profile (tenantContext profile) (authority profile))
    (held : BundlesHold (authority profile) (profileRoles (tenantContext profile)) bundles
      roleBundles)
    (allowed : name ∈ allowedRuntimeModules roleBundles field) :
    RoleDerived profile field name := by
  obtain ⟨role, role_mem, derived⟩ := List.mem_flatMap.mp allowed
  have tenant := held.tenant role role_mem
  rw [← held.selected] at role_mem
  obtain ⟨roleId, selected, found⟩ := List.mem_filterMap.mp role_mem
  obtain ⟨bundle_mem, named⟩ := Json.lastById_mem found
  rw [profileRoles, List.mem_insertionSort] at selected
  exact ⟨bundles, held.list, role, bundle_mem, ⟨roleId, membership.roles roleId selected, named⟩,
    ⟨identity.tenant, tenant⟩, derived⟩

theorem selected_of_accepted (accepted : validateProfileForRuntime profile = .ok ())
    (tenanted : tenantId (tenantContext profile) ≠ ("global" : Text)) :
    (∀ field ∈ (["tools", "skills", "policies"] : List Text), ∀ name ∈ selected profile field,
      RoleDerived profile field name) ∧
    ∀ field allowed, (field, allowed) ∈ ([("knowledge_scopes", "allowed_knowledge_scopes"),
        ("data_scopes", "allowed_data_scopes"), ("memory_scopes", "allowed_memory_scopes")] :
          List (Text × Text)) →
      ∀ scope ∈ selected profile field, scope ∈ allowedScopes (authority profile) allowed := by
  obtain ⟨identity, membership, bundles, sources, roleBundles, held, -, modules⟩ :=
    validateTenant_ok.mp (validateTenant_of_accepted accepted tenanted)
  constructor
  · intro field member name chosen
    refine roleDerived_of_allowed identity membership held ?_
    simp only [List.mem_cons, List.not_mem_nil, or_false] at member
    rcases member with rfl | rfl | rfl
    · exact modules.allowed _ _ "tenant_tool_denied" (by simp [moduleChecks]) name chosen
    · exact modules.allowed _ _ "tenant_skill_denied" (by simp [moduleChecks]) name chosen
    · exact modules.allowed _ _ "tenant_policy_denied" (by simp [moduleChecks]) name chosen
  · intro field allowed member scope chosen
    simp only [List.mem_cons, Prod.mk.injEq, List.not_mem_nil, or_false] at member
    rcases member with ⟨rfl, rfl⟩ | ⟨rfl, rfl⟩ | ⟨rfl, rfl⟩
    · exact modules.allowed _ _ "tenant_knowledge_scope_denied"
        (by simp [moduleChecks]) scope chosen
    · exact modules.allowed _ _ "tenant_data_scope_denied" (by simp [moduleChecks]) scope chosen
    · exact modules.allowed _ _ "tenant_memory_scope_denied" (by simp [moduleChecks]) scope chosen

/-- Everything a run can use is its tenant's exactly when every field reads the same to validation
and to the access checks. -/
theorem tenant_containment (accepted : validateProfileForRuntime profile = .ok ())
    (tenanted : tenantId (tenantContext profile) ≠ ("global" : Text)) :
    Contained profile ↔ Plain profile := by
  obtain ⟨enforcer, created⟩ := exists_create accepted
  obtain ⟨names, scopes⟩ := selected_of_accepted accepted tenanted
  have plainNames : ∀ field ∈ (["tools", "skills", "policies"] : List Text),
      (∀ name, Lists profile field name → RoleDerived profile field name) ↔
        PlainNames (RoleDerived profile field) (listed profile field) := fun field member =>
    lists_iff_plainNames (fun _ => RoleDerived.nonblank) (names field member)
  have plainScopes := fun {field allowed kind : Text} (member : (field, allowed) ∈ _) =>
    (@requireScopes_contained profile enforcer created field kind _).trans
      (scoped_iff_plainScopes (scopes field allowed member))
  have required : ∀ {field kind code : Text}, (∀ name, CanPass profile
      (requireIn field kind code name) → RoleDerived profile field name) ↔
        ∀ name, Lists profile field name → RoleDerived profile field name := by
    intro field kind code
    simp only [canPass_requireIn created]
  have tools : (∀ elapsed toolName scopes policies risk,
      CanPass profile (recordToolInvocation elapsed toolName scopes policies risk) →
        RoleDerived profile "tools" toolName) ↔
      (AllowsToolCall profile →
        PlainNames (RoleDerived profile "tools") (listed profile "tools")) := by
    rw [← plainNames "tools" (by simp)]
    constructor
    · intro contained allows toolName tool
      exact contained 0 toolName [] [] "low" (canPass_recordToolInvocation created tool allows)
    · intro contained elapsed toolName scopes policies risk passes
      obtain ⟨tool, allows⟩ := lists_of_canPass passes
      exact contained allows toolName tool
  constructor
  · intro contained
    exact ⟨tools.mp contained.tools,
      (plainNames "skills" (by simp)).mp (required.mp contained.skills),
      (plainNames "policies" (by simp)).mp (required.mp contained.policies),
      (plainScopes (by simp)).mp contained.knowledge, (plainScopes (by simp)).mp contained.data,
      (plainScopes (by simp)).mp contained.memory⟩
  · intro plain
    exact ⟨tools.mpr plain.tools,
      required.mpr ((plainNames "skills" (by simp)).mpr plain.skills),
      required.mpr ((plainNames "policies" (by simp)).mpr plain.policies),
      (plainScopes (by simp)).mpr plain.knowledge, (plainScopes (by simp)).mpr plain.data,
      (plainScopes (by simp)).mpr plain.memory⟩

end Validated

/-- A profile of a tenant whose one role derives one tool, with a given `tools` field. -/
def sampleProfile (tools : Json) : JsonObject :=
  [("tenant_context", sampleTenantContext []),
    ("tenant_authority", sampleAuthority
      [("role_bundles", .arr [.obj
          [("id", .str "reader"), ("tenant_id", .str "acme"),
            ("derived_runtime_modules", .obj [("tools", .arr [.str "git-read"])])]])]),
    ("auth_context", .obj [("principal", .obj [("id", .str "user-a")])]),
    ("tools", tools), ("module_versions", .obj [("git-read", .str "0.1.0")]),
    ("limits", .obj [("max_tool_calls", .int 30), ("max_duration_seconds", .int 900)])]

theorem tenant_containment_listed_tool : Contained (sampleProfile (.arr [.str "git-read"])) := by
  refine (tenant_containment (by decide) (by decide)).mpr ⟨?_, ?_, ?_, ?_, ?_, ?_⟩
  · intro _ name member
    obtain rfl : name = ("git-read" : Text) := by
      simpa [Json.item, Json.get?, Json.field?] using member
    decide
  · exact fun name member => absurd member List.not_mem_nil
  · exact fun name member => absurd member List.not_mem_nil
  · exact fun item member => absurd member List.not_mem_nil
  · exact fun item member => absurd member List.not_mem_nil
  · exact fun item member => absurd member List.not_mem_nil

/-- The name of the derived tool in place of a list: the empty string is a tool of the run. -/
theorem string_of_tools_not_contained :
    ¬∀ profile : JsonObject, validateProfileForRuntime profile = .ok () →
      tenantId (tenantContext profile) ≠ ("global" : Text) → Contained profile := by
  intro contains
  let profile := sampleProfile (.str "git-read")
  have contained := contains profile (by decide) (by decide)
  have created : create profile = .ok ⟨profile, fun counter =>
    if counter = .recompositionRequests then max 0 (1 - 1) else 0⟩ := rfl
  have passes :=
    @canPass_recordToolInvocation profile _ created [] (by unfold Budgets.Lists; decide)
    ⟨⟨30, by decide, by decide⟩, 900, by decide, by decide⟩
  exact (contained.tools 0 [] [] [] "low" passes).nonblank rfl

end TenantContainment

end SkillCentric
