import SkillCentric.Control.Footprints

/-!
# Tenants do not write each other's rows

A membership upsert reads the owner of its id in one statement and writes under that id in a later
one; the write does not look at the owner again.  Between the two another tenant can insert a row
under the same id, and the write then changes that tenant's row.  In a run in which no membership
is inserted under an id that another tenant's request has read and is still to write, every request
keeps to the rows of its own tenant.
-/

namespace SkillCentric.Control

open SkillCentric Program

def Op.writesTenants : Op → Bool
  | .insertRole _ _ _ | .upsertMembership _ | .insertDataSource _ => true
  | _ => false

/-- The rows of every other tenant are as they were. -/
structure KeepsOthers (tenantId : Text) (before after : Database) : Prop where
  memberships : ∀ row : TenantMembershipRow, row.tenantId ≠ tenantId →
    (row ∈ after.tenantMemberships ↔ row ∈ before.tenantMemberships)
  roleBundles : ∀ row : TenantRoleBundleRow, row.tenantId ≠ tenantId →
    (row ∈ after.tenantRoleBundles ↔ row ∈ before.tenantRoleBundles)
  capabilityGrants : ∀ row : TenantRoleCapabilityGrantRow, row.tenantId ≠ tenantId →
    (row ∈ after.tenantRoleCapabilityGrants ↔ row ∈ before.tenantRoleCapabilityGrants)
  dataSourceGrants : ∀ row : TenantRoleDataSourceGrantRow, row.tenantId ≠ tenantId →
    (row ∈ after.tenantRoleDataSourceGrants ↔ row ∈ before.tenantRoleDataSourceGrants)
  dataSources : ∀ row : TenantDataSourceRow, row.tenantId ≠ tenantId →
    (row ∈ after.tenantDataSources ↔ row ∈ before.tenantDataSources)

/-- The tables of tenants are as they were. -/
structure SameTenants (before after : Database) : Prop where
  memberships : after.tenantMemberships = before.tenantMemberships
  roleBundles : after.tenantRoleBundles = before.tenantRoleBundles
  capabilityGrants : after.tenantRoleCapabilityGrants = before.tenantRoleCapabilityGrants
  dataSourceGrants : after.tenantRoleDataSourceGrants = before.tenantRoleDataSourceGrants
  dataSources : after.tenantDataSources = before.tenantDataSources

theorem SameTenants.refl (database : Database) : SameTenants database database :=
  ⟨rfl, rfl, rfl, rfl, rfl⟩

theorem SameTenants.keepsOthers {before after : Database} (same : SameTenants before after)
    (tenantId : Text) : KeepsOthers tenantId before after where
  memberships := fun row _ => by rw [same.memberships]
  roleBundles := fun row _ => by rw [same.roleBundles]
  capabilityGrants := fun row _ => by rw [same.capabilityGrants]
  dataSourceGrants := fun row _ => by rw [same.dataSourceGrants]
  dataSources := fun row _ => by rw [same.dataSources]

variable {plane after : ControlPlane} {op : Op} {row : TenantMembershipRow} {system : System}
  {start : Database}

variable {answer : op.Answer}

theorem exec_sameTenants
    (went : exec op plane = (.ok answer, after)) (other : op.writesTenants = false) :
    SameTenants plane.database after.database := by
  obtain ⟨-, went⟩ := exec_ok went
  cases op with
  | insertRole role capabilities dataSources => cases other
  | upsertMembership membership => cases other
  | insertDataSource dataSource => cases other
  | replaceDocument source document =>
      obtain ⟨database, done, rfl⟩ := attemptOn_ok went
      obtain ⟨-, rfl⟩ := Database.replaceDocument_ok done
      exact ⟨rfl, rfl, rfl, rfl, rfl⟩
  | insertChunk chunk =>
      obtain ⟨database, done, rfl⟩ := attemptOn_ok went
      obtain ⟨-, chunks, -, -, rfl⟩ := Database.insertChunk_ok done
      exact ⟨rfl, rfl, rfl, rfl, rfl⟩
  | replaceMemoryRecord memory =>
      obtain ⟨database, done, rfl⟩ := attemptOn_ok went
      rw [Database.replaceMemoryRecord_ok done]
      exact ⟨rfl, rfl, rfl, rfl, rfl⟩
  | _ =>
      cases went
      exact ⟨rfl, rfl, rfl, rfl, rfl⟩

/-- The membership, if there is one, is the tenant's. -/
def Owned (tenantId membershipId : Text) (plane : ControlPlane) : Prop :=
  ∀ row ∈ plane.database.tenantMemberships, row.id = membershipId → row.tenantId = tenantId

/-- The roles are the tenant's and can be assigned. -/
def Assignable (tenantId : Text) (roleIds : List Text) (plane : ControlPlane) : Prop :=
  ∀ roleId ∈ roleIds, ∃ bundle ∈ plane.database.tenantRoleBundles,
    bundle.id = roleId ∧ bundle.tenantId = tenantId ∧ bundle.assignableToUsers = true

/-- A call writes rows of its own tenant only. -/
def LawfulWrite : Request → Op → ControlPlane → Prop
  | .tenantAdmin tenantId _ _, .insertRole role capabilities dataSources, _ =>
      role.tenantId = tenantId.val ∧ (∀ grant ∈ capabilities, grant.tenantId = tenantId.val) ∧
        ∀ grant ∈ dataSources, grant.tenantId = tenantId.val
  | .tenantAdmin tenantId _ _, .insertDataSource dataSource, _ => dataSource.tenantId = tenantId.val
  | .tenantAdmin tenantId _ (.upsertMembership body), .upsertMembership row, plane =>
      (∃ timestamp, row = body.membershipRow tenantId.val timestamp) ∧
        Owned tenantId.val body.id.val plane ∧
        Assignable tenantId.val (body.roleIds.map (·.val)) plane
  | _, op, _ => op.writesTenants = false

theorem lawfulWrite_of_quiet (quiet : op.writesTenants = false) (request : Request)
    (plane : ControlPlane) : LawfulWrite request op plane := by
  cases op <;> cases quiet <;> cases request <;> rfl

theorem LawfulWrite.keepsOthers {tenantId : Id} {hostname : Text} {request : TenantAdminRequest}
    (lawful : LawfulWrite (.tenantAdmin tenantId hostname request) op plane)
    (went : exec op plane = (.ok answer, after)) :
    KeepsOthers tenantId.val plane.database after.database := by
  cases quiet : op.writesTenants with
  | false => exact (exec_sameTenants went quiet).keepsOthers tenantId.val
  | true =>
      obtain ⟨-, went⟩ := exec_ok went
      cases op with
      | insertRole role capabilities dataSources =>
          obtain ⟨database, done, rfl⟩ := attemptOn_ok went
          obtain ⟨roles, capabilityGrants, dataSourceGrants, roles_eq, capabilities_eq, sources_eq,
            rfl⟩ := Database.insertRole_ok done
          obtain ⟨role_own, capabilities_own, sources_own⟩ := lawful
          refine ⟨fun _ _ => Iff.rfl, fun row other => ?_, fun row other => ?_, fun row other => ?_,
            fun _ _ => Iff.rfl⟩
          · simp only [Table.mem_iff, roles_eq, List.mem_append, List.mem_singleton,
              or_iff_left_iff_imp]
            rintro rfl
            exact (other role_own).elim
          · simp only [Table.mem_iff, capabilities_eq, List.mem_append, or_iff_left_iff_imp]
            exact fun new => (other (capabilities_own row new)).elim
          · simp only [Table.mem_iff, sources_eq, List.mem_append, or_iff_left_iff_imp]
            exact fun new => (other (sources_own row new)).elim
      | insertDataSource dataSource =>
          obtain ⟨database, done, rfl⟩ := attemptOn_ok went
          obtain ⟨sources, sources_eq, rfl⟩ := Database.insertDataSource_ok done
          refine ⟨fun _ _ => Iff.rfl, fun _ _ => Iff.rfl, fun _ _ => Iff.rfl, fun _ _ => Iff.rfl,
            fun row other => ?_⟩
          simp only [Table.mem_iff, sources_eq, List.mem_append, List.mem_singleton,
            or_iff_left_iff_imp]
          rintro rfl
          exact (other lawful).elim
      | upsertMembership membership =>
          cases request with
          | upsertMembership body =>
              obtain ⟨database, done, rfl⟩ := attemptOn_ok went
              obtain ⟨⟨timestamp, rfl⟩, owned, -⟩ := lawful
              obtain ⟨memberships, member_iff, rfl⟩ := Database.upsertMembership_ok done
              refine ⟨fun row other => ?_, fun _ _ => Iff.rfl, fun _ _ => Iff.rfl,
                fun _ _ => Iff.rfl, fun _ _ => Iff.rfl⟩
              refine (member_iff row).trans ?_
              constructor
              · rintro (⟨member, -⟩ | ⟨-, rfl⟩ | ⟨old, found, rfl⟩)
                · exact member
                · exact (other rfl).elim
                · obtain ⟨member, same⟩ := Table.find?_eq_some.mp found
                  exact (other (owned old member same)).elim
              · exact fun member => .inl ⟨member, fun same => other (owned row member same)⟩
          | context => cases lawful
          | createRole body => cases lawful
          | createDataSource body => cases lawful
      | _ => cases quiet

def Request.membership? : Request → Option (Text × Text)
  | .tenantAdmin tenantId _ (.upsertMembership body) => some (tenantId.val, body.id.val)
  | _ => none

def Op.writesMembership : Op → Bool
  | .upsertMembership _ => true
  | _ => false

/-- The call has written no membership. -/
def Unwritten (index : Nat) (world : World) : Prop :=
  ∀ entry ∈ world.journal, entry.1 = index → entry.2.writesMembership = false

/-- The call has looked the membership's tenant up and not yet written. -/
def Awaiting (index : Nat) (membershipId : Text) (world : World) : Prop :=
  (index, .selectMembershipTenant membershipId) ∈ world.journal ∧ Unwritten index world

instance (index : Nat) (membershipId : Text) (world : World) :
    Decidable (Awaiting index membershipId world) :=
  inferInstanceAs (Decidable (_ ∧ ∀ entry ∈ world.journal, _ → _))

theorem unwritten_congr {index : Nat} {now later : World}
    (same : own index later = own index now) : Unwritten index later ↔ Unwritten index now := by
  have own_iff (world : World) : Unwritten index world ↔
      ∀ entry ∈ own index world, entry.2.writesMembership = false := by
    simp only [Unwritten, own, List.mem_filter, decide_eq_true_eq, and_imp]
  rw [own_iff, own_iff, same]

theorem awaiting_congr {index : Nat} {membershipId : Text} {now later : World}
    (same : own index later = own index now) :
    Awaiting index membershipId later ↔ Awaiting index membershipId now := by
  rw [Awaiting, Awaiting, unwritten_congr same, ← mem_own, ← mem_own, same]

/-- A thread relies on its id staying its tenant's while it awaits its write, on its own part of the
journal and on role bundles not going away. -/
def adminContract (info : Nat × Request) : Contract (Nat × Op) World where
  rely now later :=
    own info.1 later = own info.1 now ∧
      (∀ bundle ∈ now.state.database.tenantRoleBundles,
        bundle ∈ later.state.database.tenantRoleBundles) ∧
      ∀ tenantId membershipId, info.2.membership? = some (tenantId, membershipId) →
        Awaiting info.1 membershipId now → Owned tenantId membershipId now.state →
          Owned tenantId membershipId later.state
  allowed _ _ _ := True
  guar op now := LawfulWrite info.2 op.2 now.state
  rely_refl _ := ⟨rfl, fun _ member => member, fun _ _ _ _ owned => owned⟩
  rely_trans first second third := by
    rintro ⟨own_eq, roles, owned⟩ ⟨own_eq', roles', owned'⟩
    refine ⟨own_eq'.trans own_eq, fun bundle member => roles' bundle (roles bundle member), ?_⟩
    intro tenantId membershipId known awaiting held
    exact owned' tenantId membershipId known ((awaiting_congr own_eq).mpr awaiting)
      (owned tenantId membershipId known awaiting held)

variable {env : Env} {index : Nat} {request : Request} {tenantId membershipId : Text}

theorem stable_unwritten : (adminContract (index, request)).Stable (Unwritten index) := by
  rintro now later ⟨own_eq, -, -⟩ unwritten
  exact (unwritten_congr own_eq).mpr unwritten

theorem stable_owned (known : request.membership? = some (tenantId, membershipId)) :
    (adminContract (index, request)).Stable fun world =>
      Awaiting index membershipId world ∧ Owned tenantId membershipId world.state := by
  rintro now later ⟨own_eq, -, owned⟩ ⟨awaiting, held⟩
  exact ⟨(awaiting_congr own_eq).mpr awaiting, owned tenantId membershipId known awaiting held⟩

theorem stable_assignable (roleIds : List Text) :
    (adminContract (index, request)).Stable fun world =>
      Assignable tenantId roleIds world.state := by
  rintro now later ⟨-, roles, -⟩ assignable roleId member
  obtain ⟨bundle, bundle_mem, facts⟩ := assignable roleId member
  exact ⟨bundle, roles bundle bundle_mem, facts⟩

theorem serves_quiet {α : Type} {pre : World → Prop} {program : Worker α}
    (yields : program.Yields exec (fun op => op.writesTenants = false) fun _ => True)
    (stable : (adminContract (index, request)).Stable pre)
    (kept : ∀ op now answer after, op.writesTenants = false → pre now →
      exec op now.state = (.ok answer, after) → pre ⟨after, now.journal ++ [(index, op)]⟩) :
    Serves (adminContract (index, request)) index pre program (fun _ => pre) fun _ => pre := by
  refine (serves_of_yields yields stable fun op past now quiet holds _ => ?_).conseq
    (fun _ holds => holds) (fun _ _ post => post.2) fun _ _ post => post
  exact ⟨lawfulWrite_of_quiet quiet request now.state, fun answer after ran =>
    kept op now answer after quiet holds ran⟩

theorem unwritten_quiet {now : World} (quiet : op.writesTenants = false)
    (unwritten : Unwritten index now) (after : ControlPlane) :
    Unwritten index ⟨after, now.journal ++ [(index, op)]⟩ := by
  intro entry member same
  rcases List.mem_append.mp member with old | new
  · exact unwritten entry old same
  · rw [List.mem_singleton.mp new]
    cases op <;> first | rfl | cases quiet

/-- All checks of the membership still hold. -/
def ReadyToWrite (index : Nat) (tenantId membershipId : Text) (roleIds : List Text)
    (world : World) : Prop :=
  (Awaiting index membershipId world ∧ Owned tenantId membershipId world.state) ∧
    Assignable tenantId roleIds world.state

theorem stable_readyToWrite (known : request.membership? = some (tenantId, membershipId))
    (roleIds : List Text) :
    (adminContract (index, request)).Stable (ReadyToWrite index tenantId membershipId roleIds) :=
  Contract.stable_and (stable_owned known) (stable_assignable roleIds)

theorem readyToWrite_quiet {now : World} {after : ControlPlane}
    {roleIds : List Text} (quiet : op.writesTenants = false)
    (ready : ReadyToWrite index tenantId membershipId roleIds now)
    (ran : exec op now.state = (.ok answer, after)) :
    ReadyToWrite index tenantId membershipId roleIds ⟨after, now.journal ++ [(index, op)]⟩ := by
  obtain ⟨⟨⟨selected, unwritten⟩, owned⟩, assignable⟩ := ready
  have same := exec_sameTenants ran quiet
  refine ⟨⟨⟨List.mem_append_left _ selected, unwritten_quiet quiet unwritten after⟩, ?_⟩, ?_⟩
  · intro row member
    rw [same.memberships] at member
    exact owned row member
  · intro roleId member
    obtain ⟨bundle, bundle_mem, facts⟩ := assignable roleId member
    exact ⟨bundle, same.roleBundles ▸ bundle_mem, facts⟩

section Upsert

variable {hostname : Text} {tenant : Id} {body : TenantAdminMembershipUpsertRequest}

theorem mem_of_length_eq {ids found : List Text} (nodup : found.Nodup)
    (asked : ∀ id ∈ found, id ∈ ids.eraseDups) (complete : found.length = ids.eraseDups.length) :
    ∀ id ∈ ids, id ∈ found := by
  intro id member
  have perm : found.Perm ids.eraseDups :=
    (List.subperm_of_subset nodup asked).perm_of_length_le complete.ge
  exact perm.mem_iff.mpr (List.mem_eraseDups.mpr member)

theorem serves_quiet_any {α : Type} {program : Worker α} {pre : World → Prop}
    (yields : program.Yields exec (fun op => op.writesTenants = false) fun _ => True) :
    Serves (adminContract (index, request)) index pre program (fun _ _ => True) fun _ _ => True :=
  (serves_quiet yields (fun _ _ _ _ => trivial) fun _ _ _ _ _ _ _ => trivial).conseq
    (fun _ _ => trivial) (fun _ _ _ => trivial) fun _ _ _ => trivial

theorem serves_membershipAvailable :
    Serves (adminContract (index, request)) index (Unwritten index)
      (requireTenantMembershipIdAvailable tenantId membershipId)
      (fun available world => Awaiting index membershipId world ∧
        (available = true → Owned tenantId membershipId world.state)) fun _ _ => True := by
  have selected : Serves (adminContract (index, request)) index (Unwritten index)
      (perform (.selectMembershipTenant membershipId))
      (fun (owner : Option Text) world => Awaiting index membershipId world ∧
        ((∀ other, owner = some other → other = tenantId) →
          Owned tenantId membershipId world.state)) fun _ _ => True := by
    refine serves_perform stable_unwritten (fun _ now _ _ => lawfulWrite_of_quiet rfl _ _) ?_
      fun _ _ _ => trivial
    intro past now owner after unwritten _ ran
    obtain ⟨-, executed⟩ := exec_ok ran
    cases executed
    refine ⟨⟨by simp, unwritten_quiet rfl unwritten _⟩, fun owners row member same => ?_⟩
    refine owners row.tenantId ?_
    rw [Table.find?_eq_some.mpr ⟨member, same⟩]
    rfl
  refine serves_bind selected fun owner => ?_
  cases owner with
  | none => exact serves_pure fun _ post => ⟨post.1, fun _ => post.2 (by simp)⟩
  | some other =>
      refine serves_pure fun _ post => ⟨post.1, fun same => post.2 ?_⟩
      rintro _ ⟨⟩
      exact of_decide_eq_true same

theorem serves_assignableRoles
    (known : request.membership? = some (tenantId, membershipId)) (roleIds : List Text) :
    Serves (adminContract (index, request)) index
      (fun world => Awaiting index membershipId world ∧ Owned tenantId membershipId world.state)
      (requireAssignableTenantRoles tenantId roleIds)
      (fun assignable world => assignable = true →
        ReadyToWrite index tenantId membershipId roleIds world) fun _ _ => True := by
  have selected : Serves (adminContract (index, request)) index
      (fun world => Awaiting index membershipId world ∧ Owned tenantId membershipId world.state)
      (perform (.selectAssignableRoles tenantId roleIds.eraseDups))
      (fun (found : List Text) world => found.length = roleIds.eraseDups.length →
        ReadyToWrite index tenantId membershipId roleIds world) fun _ _ => True := by
    refine serves_perform (stable_owned known) (fun _ now _ _ => lawfulWrite_of_quiet rfl _ _) ?_
      fun _ _ _ => trivial
    rintro past now found after ⟨⟨read, unwritten⟩, owned⟩ _ ran complete
    obtain ⟨-, executed⟩ := exec_ok ran
    cases executed
    refine ⟨⟨⟨List.mem_append_left _ read, unwritten_quiet rfl unwritten _⟩, owned⟩, ?_⟩
    intro roleId member
    have nodup (keep : TenantRoleBundleRow → Bool) :
        ((now.state.database.tenantRoleBundles.rows.filter keep).map (·.id)).Nodup :=
      (List.filter_sublist.map _).nodup now.state.database.tenantRoleBundles.nodup
    have located := mem_of_length_eq (nodup _) ?_ complete roleId member
    · simp only [List.mem_map, List.mem_filter, Bool.and_eq_true, decide_eq_true_eq] at located
      obtain ⟨bundle, ⟨bundle_mem, ⟨owner, assignable⟩, -⟩, rfl⟩ := located
      exact ⟨bundle, bundle_mem, rfl, owner, assignable⟩
    · intro id id_mem
      simp only [List.mem_map, List.mem_filter, Bool.and_eq_true, List.contains_iff_mem] at id_mem
      obtain ⟨bundle, ⟨-, -, asked⟩, rfl⟩ := id_mem
      exact asked
  exact serves_bind selected fun found =>
    serves_pure fun _ post same => post (of_decide_eq_true same)

theorem serves_upsertTenantAdminMembership
    (known : request = .tenantAdmin tenant hostname (.upsertMembership body)) :
    Serves (adminContract (index, request)) index (Unwritten index)
      (upsertTenantAdminMembership env tenant.val body) (fun _ _ => True) fun _ _ => True := by
  have claims : request.membership? = some (tenant.val, body.id.val) := by rw [known]; rfl
  refine serves_bind serves_membershipAvailable fun available => ?_
  split
  · exact serves_throw fun _ _ => trivial
  · rename_i granted
    refine serves_bind ((serves_assignableRoles claims (body.roleIds.map (·.val))).conseq
      (fun _ post => ⟨post.1, post.2 (by simpa using granted)⟩) (fun _ _ post => post)
      fun _ _ post => post) fun assignable => ?_
    split
    · exact serves_throw fun _ _ => trivial
    · rename_i roles
      have stable :
          (adminContract (index, request)).Stable (ReadyToWrite index tenant.val body.id.val
          (body.roleIds.map (·.val))) := stable_readyToWrite claims _
      refine serves_bind
        ((serves_quiet (yields_nowIso rfl) stable fun op now answer after quiet ready
        ran =>
          readyToWrite_quiet quiet ready ran).conseq (fun _ post => post (by simpa using roles))
          (fun _ _ post => post) fun _ _ _ => trivial) fun timestamp => ?_
      have written : Serves (adminContract (index, request)) index
          (ReadyToWrite index tenant.val body.id.val (body.roleIds.map (·.val)))
          (perform (.upsertMembership (body.membershipRow tenant.val timestamp)))
          (fun _ _ => True) fun _ _ => True := by
        refine serves_perform stable ?_ (fun _ _ _ _ _ _ _ => trivial) fun _ _ _ => trivial
        intro past now ready _
        rw [known]
        exact ⟨⟨timestamp, rfl⟩, ready.1.2, ready.2⟩
      exact serves_bind written fun _ =>
        serves_quiet_any (yields_writeAuditEvent env _ _ _ _ rfl fun _ => rfl)

theorem serves_membershipRequest
    (known : request = .tenantAdmin tenant hostname (.upsertMembership body)) :
    Serves (adminContract (index, request)) index (Unwritten index) (request.program env)
      (fun _ _ => True) fun _ _ => True := by
  have loaded : Serves (adminContract (index, request)) index (Unwritten index)
      (loadTenantAdminContext tenant.val hostname) (fun _ => Unwritten index)
      fun _ => Unwritten index := by
    have yields : (loadTenantAdminContext tenant.val hostname).Yields exec
        (AdminOp env tenant.val .context) fun _ => True :=
          yields_loadTenantAdminContext .context hostname
    refine serves_quiet (yields.mono ?_ fun _ => id) stable_unwritten
      fun op now answer after quiet unwritten _ => unwritten_quiet quiet unwritten after
    intro op admin
    cases admin <;> rfl
  have tried : Serves (adminContract (index, request)) index (Unwritten index)
      (tryTenantAdmin env tenant.val hostname (.upsertMembership body)) (fun _ _ => True)
      fun _ _ => True := by
    refine serves_bind
      (loaded.conseq (fun _ pre => pre) (fun _ _ post => post) fun _ _ _ => trivial)
      fun found => ?_
    split
    · exact serves_pure fun _ _ => trivial
    · exact serves_bind (serves_upsertTenantAdminMembership known) fun _ =>
        serves_pure fun _ _ => trivial
  have handled : Serves (adminContract (index, request)) index (Unwritten index)
      (handleTenantAdminContext env tenant hostname (.upsertMembership body)) (fun _ _ => True)
      fun _ _ => True := by
    refine serves_bind (serves_attempt tried) fun ended => ?_
    cases ended with
    | ok response => exact serves_pure fun _ _ => trivial
    | error error =>
        have yields : (tenantAdminError env tenant.val error).Yields exec
            (AdminOp env tenant.val .context) fun _ => True :=
              yields_tenantAdminError .context error
        refine serves_quiet_any (yields.mono ?_ fun _ => id)
        intro op admin
        cases admin <;> rfl
  rw [known] at handled ⊢
  exact serves_bind handled fun _ => serves_pure fun _ _ => trivial

end Upsert

theorem MayPerform.lawful (may : MayPerform env request op)
    (plain : request.membership? = none) (plane : ControlPlane) : LawfulWrite request op plane := by
  cases may with
  | knowledgeScope body => rfl
  | knowledge write => cases write <;> rfl
  | knowledgeReport report => cases report <;> rfl
  | memoryScope body => rfl
  | memory write => cases write <;> rfl
  | memoryReport report => cases report <;> rfl
  | delivery delivery => cases delivery <;> rfl
  | admin admin =>
      cases admin with
      | role body =>
          refine ⟨rfl, fun grant member => ?_, fun grant member => ?_⟩
          · obtain ⟨capability, -, rfl⟩ := List.mem_map.mp member
            rfl
          · obtain ⟨source, -, rfl⟩ := List.mem_map.mp member
            rfl
      | dataSource body row own => exact own
      | membership body timestamp => cases plain
      | _ => exact lawfulWrite_of_quiet rfl _ _

theorem meets_adminContract (env : Env) (index : Nat) (request : Request) (world : World)
    (fresh : own index world = []) :
    (adminContract (index, request)).Meets execTagged [] ((request.program env).tag index)
      (fun _ _ _ => True) world := by
  have unwritten : Unwritten index world := fun entry member same => by
    have mine : entry ∈ own index world := by simp [own, member, same]
    rw [fresh] at mine
    cases mine
  have serves : Serves (adminContract (index, request)) index (Unwritten index)
      (request.program env) (fun _ _ => True) fun _ _ => True := by
    cases claims : request.membership? with
    | none =>
        refine (serves_of_yields (yields_program env request) (fun _ _ _ holds => holds)
          fun op past now may _ _ => ?_).conseq (fun _ _ => trivial) (fun _ _ _ => trivial)
            fun _ _ _ => trivial
        exact ⟨may.lawful claims now.state, fun _ _ _ => trivial⟩
    | some claim =>
        cases request with
        | tenantAdmin tenant hostname admin =>
            cases admin with
            | upsertMembership body => exact serves_membershipRequest rfl
            | _ => cases claims
        | _ => cases claims
  exact (serves [] world unwritten).mono fun _ _ _ _ => trivial

/-- A live thread of another tenant that has read the owner of the row's id and is still to write
under it. -/
def contests (system : System) (row : TenantMembershipRow) (other : Nat) : Bool :=
  match system.threads[other]? with
  | none => false
  | some peer =>
      match peer.info.2.membership? with
      | none => false
      | some (tenantId, membershipId) =>
          decide peer.Live && membershipId = row.id && tenantId ≠ row.tenantId &&
            decide (Awaiting other row.id system.state)

theorem tenantId_of_calm {other : Nat} {peer : Serving}
    {tenantId : Text} (located : system.threads[other]? = some peer) (live : peer.Live)
    (claims : peer.info.2.membership? = some (tenantId, row.id))
    (awaiting : Awaiting other row.id system.state) (calm : contests system row other = false) :
    tenantId = row.tenantId := by
  by_contra differ
  have contested : contests system row other = true := by
    simp only [contests, located, claims, Bool.and_eq_true, decide_eq_true_eq]
    exact ⟨⟨⟨live, trivial⟩, differ⟩, awaiting⟩
  rw [calm] at contested
  cases contested

/-- No membership is inserted under an id that a request of another tenant has read and is still to
write. -/
def Undisputed (system : System) : Event → Prop
  | .step index =>
      match system.nextOp index with
      | some (.upsertMembership row) =>
          system.plane.database.tenantMemberships.find? row.id = none →
            ∀ other < system.threads.length, contests system row other = false
      | _ => True
  | _ => True

instance (system : System) (event : Event) : Decidable (Undisputed system event) := by
  rcases event with ⟨⟩ | ⟨⟩ | index | ⟨⟩
  case step =>
    dsimp only [Undisputed]
    generalize system.nextOp index = next
    rcases next with ⟨⟩ | op
    · infer_instance
    · rcases op with ⟨⟩ <;> infer_instance
  all_goals exact inferInstanceAs (Decidable True)

theorem exec_roleBundles (went : exec op plane = (.ok answer, after)) :
    ∀ bundle ∈ plane.database.tenantRoleBundles, bundle ∈ after.database.tenantRoleBundles := by
  intro bundle member
  cases quiet : op.writesTenants with
  | false => exact (exec_sameTenants went quiet).roleBundles ▸ member
  | true =>
      obtain ⟨-, went⟩ := exec_ok went
      cases op with
      | insertRole role capabilities dataSources =>
          obtain ⟨database, done, rfl⟩ := attemptOn_ok went
          obtain ⟨roles, -, -, roles_eq, -, -, rfl⟩ := Database.insertRole_ok done
          rw [Table.mem_iff, roles_eq]
          exact List.mem_append_left _ member
      | insertDataSource dataSource =>
          obtain ⟨database, done, rfl⟩ := attemptOn_ok went
          obtain ⟨sources, -, rfl⟩ := Database.insertDataSource_ok done
          exact member
      | upsertMembership membership =>
          obtain ⟨database, done, rfl⟩ := attemptOn_ok went
          obtain ⟨memberships, -, rfl⟩ := Database.upsertMembership_ok done
          exact member
      | _ => cases quiet

theorem memberships_of_lawful
    (lawful : LawfulWrite request op plane) (went : exec op plane = (.ok answer, after))
    (member : row ∈ after.database.tenantMemberships) :
    row ∈ plane.database.tenantMemberships ∨
      ∃ tenant hostname body timestamp,
        request = .tenantAdmin tenant hostname (.upsertMembership body) ∧
        op = .upsertMembership (body.membershipRow tenant.val timestamp) ∧
        Assignable tenant.val (body.roleIds.map (·.val)) plane ∧
        ((plane.database.tenantMemberships.find? body.id.val = none ∧
            row = body.membershipRow tenant.val timestamp) ∨
          ∃ old, plane.database.tenantMemberships.find? body.id.val = some old ∧
            old.tenantId = tenant.val ∧
            row = Database.overwriteMembership (body.membershipRow tenant.val timestamp) old) := by
  cases quiet : op.writesTenants with
  | false =>
      rw [(exec_sameTenants went quiet).memberships] at member
      exact .inl member
  | true =>
      obtain ⟨-, went⟩ := exec_ok went
      cases op with
      | insertRole role capabilities dataSources =>
          obtain ⟨database, done, rfl⟩ := attemptOn_ok went
          obtain ⟨roles, grants, sources, -, -, -, rfl⟩ := Database.insertRole_ok done
          exact .inl member
      | insertDataSource dataSource =>
          obtain ⟨database, done, rfl⟩ := attemptOn_ok went
          obtain ⟨sources, -, rfl⟩ := Database.insertDataSource_ok done
          exact .inl member
      | upsertMembership membership =>
          obtain ⟨database, done, rfl⟩ := attemptOn_ok went
          obtain ⟨memberships, member_iff, rfl⟩ := Database.upsertMembership_ok done
          cases request with
          | tenantAdmin tenant hostname admin =>
              cases admin with
              | upsertMembership body =>
                  obtain ⟨⟨timestamp, rfl⟩, owned, assignable⟩ := lawful
                  rcases (member_iff row).mp member with ⟨old, -⟩ | ⟨absent, rfl⟩
                    | ⟨old, found, rfl⟩
                  · exact .inl old
                  · exact .inr ⟨tenant, hostname, body, timestamp, rfl, rfl, assignable,
                      .inl ⟨absent, rfl⟩⟩
                  · obtain ⟨old_mem, same⟩ := Table.find?_eq_some.mp found
                    exact .inr ⟨tenant, hostname, body, timestamp, rfl, rfl, assignable,
                      .inr ⟨old, found, owned old old_mem same, rfl⟩⟩
              | _ => cases lawful
          | _ => cases lawful
      | _ => cases quiet

theorem disciplined_admin (env : Env) : Disciplined env adminContract Undisputed where
  serves := meets_adminContract env
  surroundings info world clock fault :=
    ⟨rfl, fun _ member => member, fun _ _ _ _ owned => owned⟩
  allowed _ _ _ _ := trivial
  interference := by
    intro system index other thread peer op answer after numbered care found next owed ran differ
      located live
    have number : peer.info.1 = other := (numbered.threads other peer located).1
    refine ⟨?_, exec_roleBundles ran, ?_⟩
    · simp [own, number, Ne.symm differ]
    intro tenantId membershipId claims awaiting owned row member same
    rcases memberships_of_lawful owed ran member with
      old | ⟨tenant, hostname, body, timestamp, -, rfl, -, ⟨absent, rfl⟩ | ⟨old, old_found, -, rfl⟩⟩
    · exact owned row old same
    · -- a new row: nobody of another tenant may be waiting for its id
      subst same
      have turn : system.nextOp index =
          some (.upsertMembership (body.membershipRow tenant.val timestamp)) := by
        simp [System.nextOp, found, next]
      rw [number] at awaiting
      simp only [Undisputed, turn] at care
      have calm := care absent other (List.getElem?_eq_some_iff.mp located).1
      exact (tenantId_of_calm located live claims awaiting calm).symm
    · obtain ⟨old_mem, old_id⟩ := Table.find?_eq_some.mp old_found
      exact owned old old_mem same

/-- A request of a tenant leaves the rows of the other tenants alone. -/
def IsolatedStep (env : Env) (system : System) (event : Event) : Prop :=
  ∀ index tenantId hostname request, event = .step index →
    system.requestOf index = some (.tenantAdmin tenantId hostname request) →
    KeepsOthers tenantId.val system.plane.database (system.step env event).plane.database

/-- The membership carries what a request of its tenant asked for, whose write was carried out and
whose roles are assignable roles of the tenant. -/
def Backing (requestOf : Nat → Option Request) (journal : List (Nat × Op)) (plane : ControlPlane)
    (row : TenantMembershipRow) : Prop :=
  ∃ index tenantId hostname body timestamp,
    requestOf index = some (.tenantAdmin tenantId hostname (.upsertMembership body)) ∧
    (index, .upsertMembership (body.membershipRow tenantId.val timestamp)) ∈ journal ∧
    row.id = body.id.val ∧ row.tenantId = tenantId.val ∧ row.principalId = body.principalId.val ∧
    row.roleIds = body.roleIds.map (·.val) ∧ Assignable tenantId.val row.roleIds plane

theorem Backing.mono {requestOf requestOf' : Nat → Option Request}
    {journal journal' : List (Nat × Op)}
    {plane plane' : ControlPlane} (backing : Backing requestOf journal plane row)
    (requests : ∀ index request, requestOf index = some request → requestOf' index = some request)
    (grows : ∀ entry ∈ journal, entry ∈ journal')
    (roles : ∀ bundle ∈ plane.database.tenantRoleBundles,
      bundle ∈ plane'.database.tenantRoleBundles) : Backing requestOf' journal' plane' row := by
  obtain ⟨index, tenantId, hostname, body, timestamp, known, written, id_eq,
      tenant_eq, principal_eq,
    roles_eq, assignable⟩ := backing
  refine ⟨index, tenantId, hostname, body, timestamp, requests _ _ known, grows _ written, id_eq,
    tenant_eq, principal_eq, roles_eq, fun roleId member => ?_⟩
  obtain ⟨bundle, bundle_mem, facts⟩ := assignable roleId member
  exact ⟨bundle, roles bundle bundle_mem, facts⟩

/-- Every membership was there at the start or is backed by a request of its tenant. -/
def Backed (start : Database) (system : System) : Prop :=
  ∀ row ∈ system.plane.database.tenantMemberships, row ∈ start.tenantMemberships ∨
    Backing system.requestOf system.journal system.plane row

/-- What holds in every state of a run with undisputed memberships. -/
structure AdminInvariant (start : Database) (system : System) : Prop where
  guarded : Guarded adminContract system
  backed : Backed start system

theorem AdminInvariant.isolated (inv : AdminInvariant start system) (env : Env) (event : Event) :
    IsolatedStep env system event := by
  rintro index tenantId hostname request rfl known
  simp only [System.step]
  rcases inv.guarded.numbered.world_step index with
    same | ⟨thread, op, answer, after, found, next, ran, -, result⟩
  · simp only [System.plane, same]
    exact (SameTenants.refl _).keepsOthers _
  · simp only [System.plane, result]
    obtain ⟨other, located, other_eq⟩ := requestOf_eq.mp known
    rw [found] at located
    cases located
    have owed := inv.guarded.guar (disciplined_admin env) found next
    simp only [adminContract, other_eq] at owed
    exact owed.keepsOthers ran

theorem AdminInvariant.backed_step (inv : AdminInvariant start system) (env : Env) (event : Event) :
    Backed start (system.step env event) := by
  have requests (index : Nat) (request : Request) (known : system.requestOf index = some request) :
      (system.step env event).requestOf index = some request := requestOf_step env event known
  by_cases turn : ∃ index, event = .step index
  · obtain ⟨index, rfl⟩ := turn
    rcases inv.guarded.numbered.world_step index with
      same | ⟨thread, op, answer, after, found, next, ran, -, result⟩
    · intro row member
      simp only [System.step, System.plane, System.journal, same] at member requests ⊢
      exact (inv.backed row member).imp_right fun backing =>
        backing.mono requests (fun _ old => old) fun _ old => old
    · intro row member
      simp only [System.step, System.plane, System.journal, result] at member requests ⊢
      have owed := inv.guarded.guar (disciplined_admin env) found next
      rcases memberships_of_lawful owed ran member with
        old | ⟨tenant, hostname, body, timestamp, asked, rfl, assignable, written⟩
      · exact (inv.backed row old).imp_right fun backing =>
          backing.mono requests (fun _ old => List.mem_append_left _ old) (exec_roleBundles ran)
      · have known : system.requestOf index =
            some (.tenantAdmin tenant hostname (.upsertMembership body)) :=
          requestOf_eq.mpr ⟨thread, found, asked⟩
        have backing : Backing system.requestOf
            (system.journal ++
              [(index, .upsertMembership (body.membershipRow tenant.val timestamp))])
            system.plane row := by
          refine ⟨index, tenant, hostname, body, timestamp, known, by simp, ?_⟩
          rcases written with ⟨-, rfl⟩ | ⟨old, old_found, tenant_eq, rfl⟩
          · exact ⟨rfl, rfl, rfl, rfl, assignable⟩
          · exact ⟨(Table.find?_eq_some.mp old_found).2, tenant_eq, rfl, rfl, assignable⟩
        exact .inr (backing.mono requests (fun _ old => old) (exec_roleBundles ran))
  · obtain ⟨journal_eq, clock, fault, plane_eq⟩ :=
      world_of_other env system fun index same => turn ⟨index, same⟩
    intro row member
    rw [plane_eq] at member ⊢
    rw [journal_eq]
    exact (inv.backed row member).imp_right fun backing =>
      backing.mono requests (fun _ old => old) fun _ old => old

theorem adminInvariant_initial (plane : ControlPlane) :
    AdminInvariant plane.database (System.initial plane) where
  guarded := guarded_initial adminContract plane
  backed := fun _ member => .inl member

theorem AdminInvariant.step (inv : AdminInvariant start system)
    (env : Env) {event : Event} (care : Undisputed system event) :
    AdminInvariant start (system.step env event) where
  guarded := inv.guarded.step (disciplined_admin env) care
  backed := inv.backed_step env event

/-- In a run in which no membership is inserted under an id that a request of another tenant has
read and is still to write, every request keeps to the rows of its tenant, and every membership
carries the principal and roles of a request of its tenant. -/
theorem tenantAdmin_isolated (env : Env) (plane : ControlPlane) (events : List Event)
    (undisputed : Steps (System.step env) Undisputed (.initial plane) events) :
    Steps (System.step env) (IsolatedStep env) (.initial plane) events ∧
      Backed plane.database (System.run env (.initial plane) events) :=
  ⟨undisputed.of_invariant (AdminInvariant plane.database) (adminInvariant_initial plane)
      (fun _ _ inv care => inv.step env care) fun _ event inv _ => inv.isolated env event,
    (undisputed.invariant (AdminInvariant plane.database) (adminInvariant_initial plane)
      fun _ _ inv care => inv.step env care).backed⟩

namespace Sample

/-- Two tenants with one assignable role each. -/
def tenants : ControlPlane where
  clock := nine
  database :=
    { tenants := ⟨[⟨"acme".toList, .active⟩, ⟨"globex".toList, .active⟩], by decide⟩
      tenantHostnames :=
        ⟨[⟨"host-acme".toList, "acme".toList, "acme.test".toList⟩,
          ⟨"host-globex".toList, "globex".toList, "globex.test".toList⟩], by decide⟩
      tenantRoleBundles :=
        ⟨[⟨"acme-staff".toList, "acme".toList, "Staff".toList, .tenantCustom, true,
            ⟨[], [], [], [], []⟩⟩,
          ⟨"globex-staff".toList, "globex".toList, "Staff".toList, .tenantCustom, true,
            ⟨[], [], [], [], []⟩⟩], by decide⟩ }

/-- Make a principal of a tenant the member `member-1`. -/
def membership (tenantId : Id) (hostname : String) (principalId roleId : Id) : Request :=
  .tenantAdmin tenantId hostname.toList
    (.upsertMembership ⟨id "member-1", principalId, .active, [roleId]⟩)

def acmeMembership : Request := membership (id "acme") "acme.test" (id "ann") (id "acme-staff")

def globexMembership : Request :=
  membership (id "globex") "globex.test" (id "bob") (id "globex-staff")

/-- Both tenants ask for the same free id; the second writes between the first one's check and
write. -/
def disputed : List Event :=
  [Event.receive acmeMembership, .receive globexMembership] ++ List.replicate 3 (Event.step 0) ++
    List.replicate 6 (Event.step 1) ++ List.replicate 2 (Event.step 0)

def globexMember : TenantMembershipRow where
  id := "member-1".toList
  tenantId := "globex".toList
  principalId := "bob".toList
  status := .active
  roleIds := ["globex-staff".toList]
  createdAt := "2026-07-01T09:00:00.000Z".toList
  updatedAt := "2026-07-01T09:00:00.000Z".toList

end Sample

/-- The first tenant's write changes the row of the second. -/
theorem tenantAdmin_isolated_fails_disputed :
    ¬ Steps (System.step Sample.env) (IsolatedStep Sample.env) (.initial Sample.tenants)
      (Sample.disputed ++ [.step 0]) := by
  intro isolated
  have keeps := isolated.last 0 (Sample.id "acme") _ _ rfl (by rfl)
  have stored : Sample.globexMember ∈
      (Sample.disputed.foldl (System.step Sample.env)
        (.initial Sample.tenants)).plane.database.tenantMemberships.rows := by decide +kernel
  have changed : Sample.globexMember ∉
      ((Sample.disputed.foldl (System.step Sample.env) (.initial Sample.tenants)).step Sample.env
        (.step 0)).plane.database.tenantMemberships.rows := by decide
  exact changed ((keeps.memberships Sample.globexMember (by decide)).mpr stored)

/-- One tenant's request after the other's meets the condition. -/
theorem tenantAdmin_isolated_sequential :
    Backed Sample.tenants.database
      (System.run Sample.env (.initial Sample.tenants)
        (.receive Sample.acmeMembership :: List.replicate 8 (.step 0) ++
          .receive Sample.globexMembership :: List.replicate 4 (.step 1))) :=
  (tenantAdmin_isolated Sample.env Sample.tenants _ (by decide)).2

end SkillCentric.Control
