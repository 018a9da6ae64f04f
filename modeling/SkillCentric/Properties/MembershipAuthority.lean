import SkillCentric.Control.TenantAuthority
import SkillCentric.Library.Stateful
import SkillCentric.Properties.TenantAdminIsolation

/-!
# Memberships and authority snapshots

`upsertTenantAdminMembership` accepts a membership when its distinct roles are assignable, and
stores the role ids as they were sent.  `loadTenantAuthority` compares the number of role bundles
with the number of stored ids, so it reads a membership back exactly when no role was sent twice.
-/

namespace SkillCentric.MembershipAuthority

open SkillCentric Control Program

theorem execute_of_perform {op : Op} {answer : op.Answer} {plane after : ControlPlane}
    (ran : run exec (perform op) plane = (.ok answer, after)) :
    execute op plane = (.ok answer, after) := by
  obtain ⟨reply, middle, performed, returned⟩ := run_bind_ok exec ran
  cases reply with
  | error error => cases returned
  | ok value =>
      cases returned
      rw [run_op] at performed
      refine (exec_ok (Prod.ext ?_ ?_)).2
      · exact Except.ok.inj (Prod.mk.inj performed).1
      · exact (Prod.mk.inj performed).2

/-- The membership of a request is stored, and its roles are role bundles of the tenant. -/
structure Stored (tenantId : Text) (body : TenantAdminMembershipUpsertRequest)
    (database : Database) : Prop where
  membership : ∃ row, database.tenantMemberships.find? body.id.val = some row ∧
    row.tenantId = tenantId ∧ row.principalId = body.principalId.val ∧
      row.roleIds = body.roleIds.map (·.val)
  roles : ∀ roleId ∈ body.roleIds, ∃ row,
    database.tenantRoleBundles.find? roleId.val = some row ∧ row.tenantId = tenantId

section Writer

variable {env : Env} {tenantId : Text} {body : TenantAdminMembershipUpsertRequest}
  {plane after : ControlPlane}

theorem available_of_run {membershipId : Text} {available : Bool}
    (ran : run exec (requireTenantMembershipIdAvailable tenantId membershipId) plane =
      (.ok available, after)) :
    after = plane ∧ (available = true → ∀ row,
      plane.database.tenantMemberships.find? membershipId = some row →
        row.tenantId = tenantId) := by
  obtain ⟨owner, middle, performed, returned⟩ := run_bind_ok exec ran
  have executed := execute_of_perform performed
  cases executed
  refine ⟨?_, fun free row found => ?_⟩
  · split at returned <;> cases returned <;> rfl
  · rw [found] at returned
    cases returned
    exact of_decide_eq_true free

theorem assignable_of_run {roleIds : List Text} {assignable : Bool}
    (ran : run exec (requireAssignableTenantRoles tenantId roleIds) plane =
      (.ok assignable, after)) :
    after = plane ∧ (assignable = true → ∀ roleId ∈ roleIds, ∃ row,
      plane.database.tenantRoleBundles.find? roleId = some row ∧ row.tenantId = tenantId) := by
  obtain ⟨found, middle, performed, returned⟩ := run_bind_ok exec ran
  have executed := execute_of_perform performed
  cases executed
  cases returned
  refine ⟨rfl, fun complete roleId asked => ?_⟩
  have nodup (keep : TenantRoleBundleRow → Bool) :
      ((plane.database.tenantRoleBundles.rows.filter keep).map (·.id)).Nodup :=
    (List.filter_sublist.map _).nodup plane.database.tenantRoleBundles.nodup
  have located := mem_of_length_eq (nodup _) ?_ (of_decide_eq_true complete) roleId asked
  · simp only [List.mem_map, List.mem_filter, Bool.and_eq_true, decide_eq_true_eq] at located
    obtain ⟨row, ⟨member, ⟨own, -⟩, -⟩, same⟩ := located
    exact ⟨row, Table.find?_eq_some.mpr ⟨member, same⟩, own⟩
  · intro id listed
    simp only [List.mem_map, List.mem_filter, Bool.and_eq_true, List.contains_iff_mem] at listed
    obtain ⟨row, ⟨-, -, requested⟩, rfl⟩ := listed
    exact requested

theorem audit_of_run {eventType targetKind targetId timestamp : Text}
    (ran : run exec (writeAuditEvent env eventType targetKind targetId timestamp) plane =
      (.ok (), after)) :
    after.database.tenantMemberships = plane.database.tenantMemberships ∧
      after.database.tenantRoleBundles = plane.database.tenantRoleBundles := by
  obtain ⟨archive, middle, archived, performed⟩ := run_bind_ok exec ran
  obtain ⟨time, _, timed, returned⟩ := run_bind_ok exec archived
  have read := execute_of_perform timed
  cases read
  cases returned
  have executed := execute_of_perform performed
  cases executed
  exact ⟨rfl, rfl⟩

theorem find?_of_upsert {membership : TenantMembershipRow} {database written : Database}
    (went : database.upsertMembership membership = .ok written) :
    written.tenantRoleBundles = database.tenantRoleBundles ∧ ∃ row,
      written.tenantMemberships.find? membership.id = some row ∧
        (row = membership ∨ ∃ old, database.tenantMemberships.find? membership.id = some old ∧
          row = Database.overwriteMembership membership old) := by
  obtain ⟨memberships, members, rfl⟩ := Database.upsertMembership_ok went
  refine ⟨rfl, ?_⟩
  cases found : database.tenantMemberships.find? membership.id with
  | none =>
      refine ⟨membership, Table.find?_eq_some.mpr ⟨(members _).mpr ?_, rfl⟩, .inl rfl⟩
      exact .inr (.inl ⟨found, rfl⟩)
  | some old =>
      refine ⟨Database.overwriteMembership membership old,
        Table.find?_eq_some.mpr ⟨(members _).mpr ?_, ?_⟩, .inr ⟨old, rfl, rfl⟩⟩
      · exact .inr (.inr ⟨old, found, rfl⟩)
      · exact (Table.find?_eq_some.mp found).2

theorem ok_of_attemptOn {outcome : Except Text Database}
    (attempted : plane.attemptOn outcome = (.ok (), after)) : outcome = .ok after.database := by
  cases outcome with
  | error error => cases attempted
  | ok written =>
      cases attempted
      rfl

theorem stored_of_accepted
    (accepted : run exec (upsertTenantAdminMembership env tenantId body) plane = (.ok (), after)) :
    Stored tenantId body after.database := by
  obtain ⟨available, _, checked, rest⟩ := run_bind_ok exec accepted
  obtain ⟨rfl, owned⟩ := available_of_run checked
  cases available with
  | false => cases rest
  | true =>
    obtain ⟨assignable, _, checked, rest⟩ :=
      run_bind_ok exec (show run exec (_ >>= _) _ = _ from rest)
    obtain ⟨rfl, known⟩ := assignable_of_run checked
    cases assignable with
    | false => cases rest
    | true =>
      obtain ⟨timestamp, _, timed, rest⟩ :=
        run_bind_ok exec (show run exec (_ >>= _) _ = _ from rest)
      obtain ⟨time, _, timed, returned⟩ := run_bind_ok exec timed
      have clock := execute_of_perform timed
      cases clock
      cases returned
      obtain ⟨_, _, written, audited⟩ := run_bind_ok exec rest
      have went := ok_of_attemptOn (execute_of_perform written)
      obtain ⟨sameMemberships, sameRoles⟩ := audit_of_run audited
      obtain ⟨kept, row, found, left⟩ := find?_of_upsert went
      refine ⟨⟨row, sameMemberships ▸ found, ?_⟩, fun roleId asked => ?_⟩
      · rcases left with rfl | ⟨old, taken, rfl⟩
        · exact ⟨rfl, rfl, rfl⟩
        · exact ⟨owned rfl old taken, rfl, rfl⟩
      · rw [sameRoles, kept]
        exact known rfl roleId.val (List.mem_map_of_mem asked)

end Writer

section Reader

variable {database : Database} {tenantId : Text} {roleIds : List Text}

theorem mem_selectTenantRoleBundles {row : TenantRoleBundleRow} :
    row ∈ selectTenantRoleBundles database tenantId roleIds ↔
      row ∈ database.tenantRoleBundles ∧ row.tenantId = tenantId ∧ row.id ∈ roleIds := by
  rw [selectTenantRoleBundles, List.mem_insertionSort, List.mem_filter, Bool.and_eq_true,
    decide_eq_true_eq, List.contains_iff_mem]
  exact Iff.rfl

theorem ids_selectTenantRoleBundles (owned : ∀ roleId ∈ roleIds, ∃ row,
      database.tenantRoleBundles.find? roleId = some row ∧ row.tenantId = tenantId) :
    ((selectTenantRoleBundles database tenantId roleIds).map (·.id)).Perm roleIds.dedup := by
  have distinct : ((selectTenantRoleBundles database tenantId roleIds).map (·.id)).Nodup := by
    refine (((List.perm_insertionSort _ _).map _).nodup_iff).mpr ?_
    exact (List.filter_sublist.map _).nodup database.tenantRoleBundles.nodup
  refine (List.perm_ext_iff_of_nodup distinct (List.nodup_dedup roleIds)).mpr fun roleId => ?_
  rw [List.mem_dedup, List.mem_map]
  constructor
  · rintro ⟨row, selected, rfl⟩
    exact (mem_selectTenantRoleBundles.mp selected).2.2
  · intro asked
    obtain ⟨row, found, own⟩ := owned roleId asked
    obtain ⟨member, rfl⟩ := Table.find?_eq_some.mp found
    exact ⟨row, mem_selectTenantRoleBundles.mpr ⟨member, own, asked⟩, rfl⟩

theorem length_selectTenantRoleBundles (owned : ∀ roleId ∈ roleIds, ∃ row,
      database.tenantRoleBundles.find? roleId = some row ∧ row.tenantId = tenantId) :
    (selectTenantRoleBundles database tenantId roleIds).length = roleIds.length ↔
      roleIds.Nodup := by
  have counted := (ids_selectTenantRoleBundles owned).length_eq
  rw [List.length_map] at counted
  rw [counted, ← List.dedup_eq_self]
  exact ⟨(List.dedup_sublist roleIds).eq_of_length, congrArg List.length⟩

theorem loadRoleBundles_eq_ok (given : roleIds ≠ []) (owned : ∀ roleId ∈ roleIds, ∃ row,
      database.tenantRoleBundles.find? roleId = some row ∧ row.tenantId = tenantId)
    {bundles : List TenantAuthorityRoleBundle} :
    loadRoleBundles database tenantId roleIds = .ok bundles ↔ roleIds.Nodup ∧
      bundles = (selectTenantRoleBundles database tenantId roleIds).map
        (authorityRoleBundle database tenantId roleIds) := by
  have rendered : ((selectTenantRoleBundles database tenantId roleIds).mapM fun role =>
      if roleIds.contains role.id then
        Except.ok (authorityRoleBundle database tenantId roleIds role)
      else Except.error ("tenant_role_not_requested" : Text)) =
        .ok ((selectTenantRoleBundles database tenantId roleIds).map
          (authorityRoleBundle database tenantId roleIds)) := by
    refine Stateful.mapM_ok fun row selected => if_pos ?_
    exact List.contains_iff_mem.mpr (mem_selectTenantRoleBundles.mp selected).2.2
  rw [← length_selectTenantRoleBundles owned, loadRoleBundles,
    if_neg (by rwa [List.isEmpty_iff])]
  by_cases counted : (selectTenantRoleBundles database tenantId roleIds).length = roleIds.length
  · simp only [if_neg (not_not.mpr counted)]
    refine Iff.trans (Eq.congr_left rendered) ?_
    exact ⟨fun same => ⟨counted, (Except.ok.inj same).symm⟩, fun both => congrArg _ both.2.symm⟩
  · simp only [if_pos counted]
    exact iff_of_false nofun fun both => counted both.1

/-- A role bundle of a snapshot says what the database holds of a row. -/
structure Renders (database : Database) (row : TenantRoleBundleRow)
    (bundle : TenantAuthorityRoleBundle) : Prop where
  id : bundle.id = row.id
  tenantId : bundle.tenantId = row.tenantId
  derived : bundle.derivedRuntimeModules = row.derived
  capabilityGrants : ∀ capabilityId, capabilityId ∈ bundle.capabilityGrants ↔
    ∃ grant ∈ database.tenantRoleCapabilityGrants, grant.tenantId = row.tenantId ∧
      grant.roleBundleId = row.id ∧ grant.capabilityId = capabilityId
  dataSourceGrants : ∀ entry : TenantDataSourceGrant, entry ∈ bundle.dataSourceGrants ↔
    ∃ grant ∈ database.tenantRoleDataSourceGrants, grant.tenantId = row.tenantId ∧
      grant.roleBundleId = row.id ∧ entry = ⟨grant.dataSourceId, grant.accessModes⟩

theorem renders_authorityRoleBundle {row : TenantRoleBundleRow}
    (selected : row ∈ selectTenantRoleBundles database tenantId roleIds) :
    Renders database row (authorityRoleBundle database tenantId roleIds row) := by
  obtain ⟨-, rfl, asked⟩ := mem_selectTenantRoleBundles.mp selected
  refine ⟨rfl, rfl, rfl, fun capabilityId => ?_, fun entry => ?_⟩
  all_goals
    simp only [authorityRoleBundle, selectTenantRoleCapabilityGrants,
      selectTenantRoleDataSourceGrants, List.mem_map, List.mem_filter, List.mem_insertionSort,
      Bool.and_eq_true, decide_eq_true_eq, List.contains_iff_mem]
    constructor
    · rintro ⟨grant, ⟨⟨member, own, -⟩, role⟩, rfl⟩
      exact ⟨grant, member, own, role, rfl⟩
    · rintro ⟨grant, member, own, role, rfl⟩
      exact ⟨grant, ⟨⟨member, own, role ▸ asked⟩, role⟩, rfl⟩

/-- The bundles are those of the given roles of the tenant, each once. -/
structure Bundles (database : Database) (tenantId : Text) (roleIds : List Text)
    (bundles : List TenantAuthorityRoleBundle) : Prop where
  requested : (bundles.map (·.id)).Perm roleIds.dedup
  rendered : ∀ bundle ∈ bundles, ∃ row ∈ database.tenantRoleBundles,
    row.tenantId = tenantId ∧ Renders database row bundle

theorem bundles_of_loaded (given : roleIds ≠ []) (owned : ∀ roleId ∈ roleIds, ∃ row,
      database.tenantRoleBundles.find? roleId = some row ∧ row.tenantId = tenantId)
    {bundles : List TenantAuthorityRoleBundle}
    (loaded : loadRoleBundles database tenantId roleIds = .ok bundles) :
    Bundles database tenantId roleIds bundles := by
  obtain ⟨-, rfl⟩ := (loadRoleBundles_eq_ok given owned).mp loaded
  refine ⟨?_, fun bundle listed => ?_⟩
  · rw [List.map_map]
    exact ids_selectTenantRoleBundles owned
  · obtain ⟨row, selected, rfl⟩ := List.mem_map.mp listed
    obtain ⟨member, own, -⟩ := mem_selectTenantRoleBundles.mp selected
    exact ⟨row, member, own, renders_authorityRoleBundle selected⟩

end Reader

/-- What the later database has kept of a stored membership: its row and the rows of its roles. -/
structure Kept (body : TenantAdminMembershipUpsertRequest) (before later : Database) : Prop where
  membership :
    later.tenantMemberships.find? body.id.val = before.tenantMemberships.find? body.id.val
  roles : ∀ roleId ∈ body.roleIds,
    later.tenantRoleBundles.find? roleId.val = before.tenantRoleBundles.find? roleId.val

/-- The normal form of the hostname is one of the tenant's. -/
def HostnameRegistered (database : AuthorityDatabase) (tenantId hostname : Text) : Prop :=
  ∃ normal, normalizeTenantHostname hostname = .ok normal ∧
    ∃ row ∈ database.hostnameRecords, row.tenantId = tenantId ∧ row.hostname = normal

/-- An authority is read, and its role bundles are exactly those of the request. -/
def ReadsBack (database : Database) (tenantId : Text) (body : TenantAdminMembershipUpsertRequest)
    (outcome : Except Text (Option TenantAuthority)) : Prop :=
  ∃ authority, outcome = .ok (some authority) ∧
    Bundles database tenantId (body.roleIds.map (·.val)) authority.roleBundles

section Both

variable {host : Host} {database : AuthorityDatabase} {tenantId areaId membershipId : Id}
  {principal : Principal} {hostname : Text} {scopeBindings : List ScopeBinding}
  {modules : List (RegistryModule host)} {membership : TenantMembershipRow}

theorem loadAuthorityOf_returns_iff
    (known : ∃ tenant ∈ database.tenantRecords,
      tenant.id = tenantId.val ∧ tenant.areaId = areaId.val)
    (found : database.tenantMemberships.find? membershipId.val = some membership)
    (own : membership.tenantId = tenantId.val) (member : membership.principalId = principal.id)
    {post : List TenantAuthorityRoleBundle → Prop} :
    (∃ authority, loadAuthorityOf database principal
        ⟨tenantId, areaId, some hostname, some membershipId⟩ scopeBindings modules =
          .ok (some authority) ∧ post authority.roleBundles) ↔
      (tenantId.val ≠ "global".toList ∧ areaId.val ≠ "global".toList ∧
        HostnameRegistered database tenantId.val hostname) ∧
      ∃ bundles, loadRoleBundles database.toDatabase tenantId.val membership.roleIds = .ok bundles ∧
        post bundles := by
  obtain ⟨tenant, tenant_mem, tenant_id, tenant_area⟩ := known
  have tenant_found : (database.tenantRecords.rows.find? fun row =>
      row.id = tenantId.val && row.areaId = areaId.val) = some tenant := by
    refine Table.find?_of_key tenant_mem ?_ fun other _ passed => ?_
    · rw [tenant_id, tenant_area, decide_eq_true rfl, decide_eq_true rfl, Bool.and_self]
    · exact (of_decide_eq_true (Bool.and_eq_true_iff.mp passed).1).trans tenant_id.symm
  have member_found : (database.tenantMemberships.rows.find? fun row =>
      row.id = membershipId.val && row.tenantId = tenantId.val && row.principalId = principal.id) =
        some membership := by
    obtain ⟨stored, stored_id⟩ := Table.find?_eq_some.mp found
    refine Table.find?_of_key stored ?_ fun other _ passed => ?_
    · rw [own, member, show membership.id = membershipId.val from stored_id, decide_eq_true rfl,
        decide_eq_true rfl, decide_eq_true rfl, Bool.and_self, Bool.and_self]
    · have both := (Bool.and_eq_true_iff.mp passed).1
      exact (of_decide_eq_true (Bool.and_eq_true_iff.mp both).1).trans stored_id.symm
  unfold loadAuthorityOf
  by_cases whole : tenantId.val = "global".toList ∨ areaId.val = "global".toList
  · simp only [if_pos whole]
    refine iff_of_false ?_ fun both => both.1.2.1 ?_
    · rintro ⟨authority, ⟨⟩, -⟩
    · exact whole.resolve_left both.1.1
  · simp only [if_neg whole, tenant_found, member_found]
    cases normalized : normalizeTenantHostname hostname with
    | error error =>
        refine iff_of_false ?_ ?_
        · rintro ⟨authority, ⟨⟩, -⟩
        · rintro ⟨⟨-, -, normal, same, -⟩, -⟩
          cases normalized.symm.trans same
    | ok normal =>
        dsimp only [Bind.bind, Except.bind]
        cases located : database.hostnameRecords.rows.find? fun row =>
          row.tenantId = tenantId.val && row.hostname = normal with
        | none =>
            refine iff_of_false ?_ ?_
            · rintro ⟨authority, ⟨⟩, -⟩
            · rintro ⟨⟨-, -, other, same, row, row_mem, row_own, row_name⟩, -⟩
              cases normalized.symm.trans same
              have absent := List.find?_eq_none.mp located row row_mem
              rw [row_own, row_name, decide_eq_true rfl, decide_eq_true rfl] at absent
              exact absent rfl
        | some row =>
            have passed : (row.tenantId = tenantId.val && row.hostname = normal) = true :=
              List.find?_some (p := fun row : TenantHostnameRecord =>
                row.tenantId = tenantId.val && row.hostname = normal) located
            rw [Bool.and_eq_true] at passed
            have registered : HostnameRegistered database tenantId.val hostname :=
              ⟨normal, normalized, row, List.mem_of_find?_eq_some located,
                of_decide_eq_true passed.1,
                of_decide_eq_true passed.2⟩
            refine Iff.trans ?_ (and_iff_right ⟨fun same => whole (.inl same),
              fun same => whole (.inr same), registered⟩).symm
            cases loaded : loadRoleBundles database.toDatabase tenantId.val membership.roleIds with
            | error error =>
                refine iff_of_false ?_ nofun
                rintro ⟨authority, ⟨⟩, -⟩
            | ok bundles =>
                constructor
                · rintro ⟨authority, ⟨⟩, holds⟩
                  exact ⟨bundles, rfl, holds⟩
                · rintro ⟨bundles, ⟨⟩, holds⟩
                  exact ⟨_, rfl, holds⟩

/-- A membership that was accepted and kept since is read back with its role bundles exactly when no
role was sent twice, nothing is global, and the normal form of the hostname is the tenant's. -/
theorem reads_back_iff {env : Env} {plane after : ControlPlane}
    {body : TenantAdminMembershipUpsertRequest}
    (accepted : run exec (upsertTenantAdminMembership env tenantId.val body) plane =
      (.ok (), after))
    (checked : body.roleIds ≠ []) (kept : Kept body after.database database.toDatabase)
    (known : ∃ tenant ∈ database.tenantRecords,
      tenant.id = tenantId.val ∧ tenant.areaId = areaId.val)
    (kind : PrincipalKind) :
    ReadsBack database.toDatabase tenantId.val body
        (loadTenantAuthority database ⟨kind, body.principalId.val⟩
          (some ⟨tenantId, areaId, some hostname, some body.id⟩) scopeBindings modules) ↔
      body.roleIds.Nodup ∧ tenantId.val ≠ "global".toList ∧ areaId.val ≠ "global".toList ∧
        HostnameRegistered database tenantId.val hostname := by
  obtain ⟨⟨row, found, own, member, roles⟩, owned⟩ := stored_of_accepted accepted
  have given : body.roleIds.map (·.val) ≠ [] := fun none => checked (List.map_eq_nil_iff.mp none)
  have bundled : ∀ roleId ∈ body.roleIds.map (·.val), ∃ row,
      database.tenantRoleBundles.find? roleId = some row ∧ row.tenantId = tenantId.val := by
    intro roleId listed
    obtain ⟨asked, asked_mem, rfl⟩ := List.mem_map.mp listed
    rw [kept.roles asked asked_mem]
    exact owned asked asked_mem
  refine (loadAuthorityOf_returns_iff known (kept.membership.trans found) own member).trans ?_
  rw [roles, and_comm, ← List.nodup_map_iff Subtype.val_injective]
  refine and_congr_left fun _ => ?_
  constructor
  · rintro ⟨bundles, loaded, -⟩
    exact ((loadRoleBundles_eq_ok given bundled).mp loaded).1
  · intro distinct
    have loaded := (loadRoleBundles_eq_ok given bundled).mpr ⟨distinct, rfl⟩
    exact ⟨_, loaded, bundles_of_loaded given bundled loaded⟩

end Both

/-- The tenant acme, whose users can be staff. -/
def acme : ControlPlane where
  clock := Sample.nine
  database :=
    { tenants := ⟨[⟨"acme".toList, .active⟩], by decide⟩
      tenantHostnames := ⟨[⟨"host-acme".toList, "acme".toList, "acme.test".toList⟩], by decide⟩
      tenantRoleBundles :=
        ⟨[⟨"staff".toList, "acme".toList, "Staff".toList, .tenantCustom, true,
          ⟨[], [], [], [], []⟩⟩], by decide⟩ }

/-- The membership of ann with the given roles. -/
def annAs (roleIds : List Id) : TenantAdminMembershipUpsertRequest :=
  ⟨Sample.id "member-1", Sample.id "ann", .active, roleIds⟩

/-- Send the membership. -/
def sent (roleIds : List Id) : Except Text Unit × ControlPlane :=
  run exec (upsertTenantAdminMembership Sample.env (Sample.id "acme").val (annAs roleIds)) acme

/-- The database after the membership was sent. -/
def stored (roleIds : List Id) : AuthorityDatabase where
  toDatabase :=
    { acme.database with tenantMemberships := (sent roleIds).2.database.tenantMemberships }
  tenantRecords :=
    ⟨[{ id := "acme".toList, status := .active, areaId := "acme".toList
        displayName := "Acme".toList, legalName := "Acme Ltd".toList, defaultLocale := "en".toList
        contactEmail := "mail@acme.test".toList, contactPhone := none, contactWebsite := none
        memoryAreaBrainId := "acme-brain".toList, sharedPromotionAllowed := false
        knowledgeScopeId := "acme-knowledge".toList, policyBundleJson := [],
        validatorsJson := [] }], by decide⟩
  hostnameRecords :=
    ⟨[{ id := "host-acme".toList, tenantId := "acme".toList, hostname := "acme.test".toList
        purpose := .primaryUi, expectedOrigin := none, cloudflareProxyExpected :=
          true }], by decide⟩
  tenants_eq := rfl
  hostnames_eq := rfl

/-- Read the authority of ann after the membership was sent. -/
def readBack (roleIds : List Id) : Except Text (Option TenantAuthority) :=
  loadTenantAuthority (stored roleIds) ⟨.user, (Sample.id "ann").val⟩
    (some ⟨Sample.id "acme", Sample.id "acme", some "Acme.Test.".toList,
      some (Sample.id "member-1")⟩)
    [] ([] : List (RegistryModule plainHost))

/-- Staff, sent once, is read back. -/
theorem staff_reads_back :
    ReadsBack (stored [Sample.id "staff"]).toDatabase (Sample.id "acme").val
      (annAs [Sample.id "staff"]) (readBack [Sample.id "staff"]) := by
  have accepted : run exec (upsertTenantAdminMembership Sample.env (Sample.id "acme").val
      (annAs [Sample.id "staff"])) acme = (.ok (), (sent [Sample.id "staff"]).2) := rfl
  have known : ∃ tenant ∈ (stored [Sample.id "staff"]).tenantRecords,
      tenant.id = (Sample.id "acme").val ∧ tenant.areaId = (Sample.id "acme").val :=
    ⟨_, List.mem_singleton.mpr rfl, rfl, rfl⟩
  have registered : HostnameRegistered (stored [Sample.id "staff"]) (Sample.id "acme").val
      "Acme.Test.".toList :=
    ⟨"acme.test".toList, rfl, _, List.mem_singleton.mpr rfl, rfl, rfl⟩
  exact (reads_back_iff accepted (by decide) ⟨rfl, fun _ _ => rfl⟩ known .user).mpr
    ⟨by decide, by decide, by decide, registered⟩

/-- Staff, sent twice, is accepted and stored, and cannot be read. -/
theorem staff_twice_not_read :
    (sent [Sample.id "staff", Sample.id "staff"]).1 = .ok () ∧
      Kept (annAs [Sample.id "staff", Sample.id "staff"])
        (sent [Sample.id "staff", Sample.id "staff"]).2.database
        (stored [Sample.id "staff", Sample.id "staff"]).toDatabase ∧
      readBack [Sample.id "staff", Sample.id "staff"] = .error "tenant_role_not_found".toList ∧
      ¬ ReadsBack (stored [Sample.id "staff", Sample.id "staff"]).toDatabase (Sample.id "acme").val
        (annAs [Sample.id "staff", Sample.id "staff"])
        (readBack [Sample.id "staff", Sample.id "staff"]) := by
  have refused : readBack [Sample.id "staff", Sample.id "staff"] =
      .error "tenant_role_not_found".toList := rfl
  refine ⟨rfl, ⟨rfl, fun _ _ => rfl⟩, refused, ?_⟩
  rintro ⟨authority, loaded, -⟩
  cases refused.symm.trans loaded

end SkillCentric.MembershipAuthority
