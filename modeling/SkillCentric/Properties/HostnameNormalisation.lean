import SkillCentric.Library.Stateful
import SkillCentric.Properties.HostnameForms

/-!
# Hostname resolution

A resolver keeps one authority under the normal form of each configured hostname.  Every spelling of
that normal form leads back to it exactly when the configured hostname is settled.
-/

namespace SkillCentric.HostnameNormalisation

open SkillCentric Control HostnameForms Stateful TenantHostnameResolver

variable {folding : CaseFolding} {tenants : List JsonObject} {resolver : TenantHostnameResolver}
  {tenantId areaId status hostname name spelling : Text} {tenant : JsonObject} {record : Json}

/-- The table holds the tenant under the normal form of the hostname. -/
def Configures (folding : CaseFolding) (tenantId hostname : Text)
    (byHostname : Dict Text TenantHostnameAuthority) : Prop :=
  ∃ authority, normalizeHostname folding hostname = .ok authority.hostname ∧
    authority.tenantId = tenantId ∧ byHostname.get? authority.hostname = some authority

variable {byHostname after : Dict Text TenantHostnameAuthority}

theorem addHostname_ok
    (added : addHostname folding tenantId areaId status byHostname record = .ok after) :
    ∃ hostname authority, requiredString record "hostname" = .ok hostname ∧
      normalizeHostname folding hostname = .ok authority.hostname ∧ authority.tenantId = tenantId ∧
        byHostname.get? authority.hostname = none ∧
          after = byHostname.set authority.hostname authority := by
  unfold addHostname at added
  split at added
  · cases added
  obtain ⟨hostname, read, added⟩ := Stateful.bind_eq_ok.mp added
  obtain ⟨name, normal, added⟩ := Stateful.bind_eq_ok.mp added
  cases free : byHostname.get? name with
  | some existing =>
      rw [free] at added
      cases added
  | none =>
      rw [free] at added
      obtain ⟨origin, -, added⟩ := Stateful.bind_eq_ok.mp added
      obtain ⟨proxied, -, added⟩ := Stateful.bind_eq_ok.mp added
      obtain ⟨purpose, -, added⟩ := Stateful.bind_eq_ok.mp added
      cases added
      exact ⟨hostname, ⟨tenantId, areaId, name, purpose, status, origin, proxied⟩,
        read, normal, rfl,
        free, rfl⟩

theorem Configures.addHostname {other : Text}
    (configures : Configures folding other hostname byHostname)
    (added : addHostname folding tenantId areaId status byHostname record = .ok after) :
    Configures folding other hostname after := by
  obtain ⟨authority, normal, own, found⟩ := configures
  obtain ⟨-, added, -, -, -, free, rfl⟩ := addHostname_ok added
  refine ⟨authority, normal, own, ?_⟩
  rw [Dict.get?_set_ne _ _ ?_, found]
  intro same
  rw [same, free] at found
  cases found

/-- The hostname of a record of a tenant. -/
def Hostname (tenant : JsonObject) (tenantId hostname : Text) : Prop :=
  requiredString (.obj tenant) "tenant_id" = .ok tenantId ∧ ∃ records,
    (Json.obj tenant).get? "hostnames" = some (.arr records) ∧
      ∃ record ∈ records, requiredString record "hostname" = .ok hostname

theorem addTenant_ok (added : addTenant folding byHostname tenant = .ok after) :
    ∃ tenantId areaId status records, requiredString (.obj tenant) "tenant_id" = .ok tenantId ∧
      (Json.obj tenant).get? "hostnames" = some (.arr records) ∧
        records.foldlM (addHostname folding tenantId areaId status) byHostname = .ok after := by
  unfold addTenant at added
  obtain ⟨tenantId, named, added⟩ := Stateful.bind_eq_ok.mp added
  obtain ⟨areaId, -, added⟩ := Stateful.bind_eq_ok.mp added
  obtain ⟨status, -, added⟩ := Stateful.bind_eq_ok.mp added
  split at added
  · rename_i records found
    exact ⟨tenantId, areaId, status, records, named, found, added⟩
  · cases added

theorem configures_of_addTenant (added : addTenant folding byHostname tenant = .ok after)
    (listed : Hostname tenant tenantId hostname) : Configures folding tenantId hostname after := by
  obtain ⟨own, areaId, status, records, named, found, ran⟩ := addTenant_ok added
  obtain ⟨named', records', found', record, member, read⟩ := listed
  cases named.symm.trans named'
  cases found.symm.trans found'
  refine foldlM_establishes (fun record byHostname => ∀ hostname,
    requiredString record "hostname" = .ok hostname →
      Configures folding tenantId hostname byHostname)
      ?_ ?_ ran record member hostname read
  · intro before record after turn hostname read
    obtain ⟨_, authority, read', normal, owned, -, rfl⟩ := addHostname_ok turn
    cases read.symm.trans read'
    exact ⟨authority, normal, owned, Dict.get?_set_self _ _ _⟩
  · exact fun other before record after turn holds hostname read =>
      (holds hostname read).addHostname turn

theorem Configures.addTenant (configures : Configures folding tenantId hostname byHostname)
    (added : addTenant folding byHostname tenant = .ok after) :
    Configures folding tenantId hostname after := by
  obtain ⟨_, _, _, _, -, -, ran⟩ := addTenant_ok added
  exact foldlM_keeps (fun _ _ _ turn holds => holds.addHostname turn) ran configures

theorem configures_of_built
    (built : ofTenants folding tenants = .ok resolver)
    (known : tenant ∈ tenants) (listed : Hostname tenant tenantId hostname) :
    Configures folding tenantId hostname resolver.byHostname := by
  obtain ⟨byHostname, ran, built⟩ := Stateful.bind_eq_ok.mp built
  cases built
  refine foldlM_establishes (fun tenant byHostname => ∀ tenantId hostname,
    Hostname tenant tenantId hostname → Configures folding tenantId hostname byHostname) ?_ ?_ ran
      tenant known tenantId hostname listed
  · exact fun _ _ _ turn _ _ listed => configures_of_addTenant turn listed
  · exact fun _ _ _ _ turn holds _ _ listed => (holds _ _ listed).addTenant turn

/-- Authorities are kept under their own hostnames. -/
def Keyed (byHostname : Dict Text TenantHostnameAuthority) : Prop :=
  ∀ key authority, byHostname.get? key = some authority → authority.hostname = key

theorem Keyed.addHostname (keyed : Keyed byHostname)
    (added : addHostname folding tenantId areaId status byHostname record = .ok after) :
    Keyed after := by
  obtain ⟨-, authority, -, -, -, -, rfl⟩ := addHostname_ok added
  intro key other found
  by_cases same : key = authority.hostname
  · subst same
    rw [Dict.get?_set_self] at found
    cases found
    rfl
  · rw [Dict.get?_set_ne _ _ same] at found
    exact keyed key other found

theorem keyed_of_built (built : ofTenants folding tenants = .ok resolver) :
    Keyed resolver.byHostname := by
  obtain ⟨byHostname, ran, built⟩ := Stateful.bind_eq_ok.mp built
  cases built
  refine foldlM_keeps (fun before tenant after added keyed => ?_) ran ?_
  · obtain ⟨_, _, _, _, -, -, records_ran⟩ := addTenant_ok added
    exact foldlM_keeps (fun _ _ _ turn holds => holds.addHostname turn) records_ran keyed
  · intro key authority found
    rw [Dict.get?_empty] at found
    cases found

/-- The name, followed by dots and a port perhaps, in any case. -/
def Spelling (folding : CaseFolding) (name spelling : Text) : Prop :=
  ∃ dots tail, folding.casefold spelling = name ++ dots ++ tail ∧ (∀ c ∈ dots, c = '.') ∧
    (tail = [] ∨ ∃ port, tail = ':' :: port ∧ isDigits port = true)

theorem normal_of_spelling (normal : normalizeHostname folding hostname = .ok name)
    (settled : Settled hostname) (spelled : Spelling folding name spelling) :
    normalizeHostname folding spelling = .ok name := by
  have spells := normalizeHostname_ok_iff.mp normal
  have head : ∀ c ∈ name.head?, isSpace c = false := by
    rw [spells.head?_eq]
    exact (trimmed_casefold.mpr (trimmed_strip hostname)).1
  obtain ⟨plain, last⟩ := (normalizeHostname_self_iff spells.folded spells head).mp
    ((normal_again_iff normal).mpr settled)
  obtain ⟨dots, tail, same, dotted, cut⟩ := spelled
  have trimmed : Trimmed (folding.casefold spelling) := by
    rw [same]
    refine ⟨fun c first => ?_, fun c ends => ?_⟩
    · rw [List.append_assoc, List.head?_append_of_ne_nil _ spells.nonempty] at first
      exact head c first
    · rcases cut with rfl | ⟨port, rfl, digits⟩
      · rw [List.append_nil] at ends
        by_cases none : dots = []
        · rw [none, List.append_nil] at ends
          exact last c ends
        · rw [List.getLast?_append_of_ne_nil _ none] at ends
          rw [dotted c (List.mem_of_getLast? ends)]
          decide
      · have filled : port ≠ [] := by
          rintro rfl
          cases digits
        rw [List.append_cons, List.getLast?_append_of_ne_nil _ filled] at ends
        exact isSpace_of_isDigit
          (List.all_eq_true.mp (Bool.and_eq_true_iff.mp digits).2 c (List.mem_of_getLast? ends))
  rw [normalizeHostname_ok_iff, (trimmed_casefold.mp trimmed).strip, same]
  refine ⟨spells.nonempty, spells.last, spells.path, dots, tail, rfl, dotted, ?_⟩
  exact cut.imp_left fun whole => ⟨whole, plain⟩

/-- The resolver answers the authority, if its tenant is active. -/
def Resolves (folding : CaseFolding) (resolver : TenantHostnameResolver) (hostname : Text)
    (authority : TenantHostnameAuthority) : Prop :=
  resolver.resolve folding hostname =
    if authority.status ∈ activeTenantStatuses then .ok authority
    else .error (("Tenant hostname is not active: " : Text) ++ authority.hostname)

/-- A configured hostname, its normal form and the spellings of it lead to one authority of the
tenant. -/
def SameTenant (folding : CaseFolding) (resolver : TenantHostnameResolver)
    (tenantId hostname : Text) : Prop :=
  ∃ authority, authority.tenantId = tenantId ∧
    normalizeHostname folding hostname = .ok authority.hostname ∧
      Resolves folding resolver hostname authority ∧
        ∀ spelling, Spelling folding authority.hostname spelling →
          Resolves folding resolver spelling authority

theorem resolve_of_refused {error : Text}
    (refused : normalizeHostname folding hostname = .error error) :
    resolver.resolve folding hostname = .error error := by
  rw [TenantHostnameResolver.resolve, refused]
  rfl

theorem resolve_of_absent (normal : normalizeHostname folding hostname = .ok name)
    (absent : resolver.byHostname.get? name = none) :
    resolver.resolve folding hostname = .error (("Unknown tenant hostname: " : Text) ++ name) := by
  rw [TenantHostnameResolver.resolve, normal]
  dsimp only [bind, Except.bind]
  rw [absent]
  rfl

theorem resolve_of_found {authority : TenantHostnameAuthority}
    (normal : normalizeHostname folding hostname = .ok name)
    (found : resolver.byHostname.get? name = some authority) :
    resolver.resolve folding hostname =
      if authority.status ∈ activeTenantStatuses then .ok authority
      else .error (("Tenant hostname is not active: " : Text) ++ name) := by
  rw [TenantHostnameResolver.resolve, normal]
  dsimp only [bind, Except.bind]
  rw [found]
  by_cases active : authority.status ∈ activeTenantStatuses
  · simp only [active, not_true_eq_false, if_false, if_true]
    rfl
  · simp only [active, not_false_eq_true, if_true, if_false]
    rfl

theorem head?_of_uncut {host error : Text}
    (refused : (if (host.rdropWhile (· == '.')).isEmpty = true then
      Except.error ("Hostname is required." : Text) else .ok (host.rdropWhile (· == '.'))) =
        .error error) : error.head? = some 'H' := by
  split at refused
  · cases refused
    rfl
  · cases refused

theorem head?_of_refused {error : Text}
    (refused : normalizeHostname folding hostname = .error error) :
    error.head? = some 'H' := by
  unfold normalizeHostname at refused
  generalize folding.casefold (strip hostname) = value at refused
  dsimp only at refused
  split at refused
  · cases refused
    rfl
  split at refused
  · cases refused
    rfl
  split at refused
  · split at refused
    · cases refused
      rfl
    · exact head?_of_uncut refused
  · exact head?_of_uncut refused

theorem normal_of_resolves {authority : TenantHostnameAuthority} (keyed : Keyed resolver.byHostname)
    (resolves : Resolves folding resolver hostname authority) :
    normalizeHostname folding hostname = .ok authority.hostname := by
  rw [Resolves] at resolves
  cases normal : normalizeHostname folding hostname with
  | error error =>
      rw [resolve_of_refused normal] at resolves
      by_cases active : authority.status ∈ activeTenantStatuses
      · rw [if_pos active] at resolves
        cases resolves
      · rw [if_neg active] at resolves
        have head := head?_of_refused normal
        rw [Except.error.inj resolves] at head
        cases head
  | ok name =>
      refine congrArg Except.ok ?_
      cases found : resolver.byHostname.get? name with
      | none =>
          rw [resolve_of_absent normal found] at resolves
          by_cases active : authority.status ∈ activeTenantStatuses
          · rw [if_pos active] at resolves
            cases resolves
          · rw [if_neg active] at resolves
            cases Except.error.inj resolves
      | some other =>
          rw [resolve_of_found normal found] at resolves
          by_cases active : authority.status ∈ activeTenantStatuses
          · rw [if_pos active] at resolves
            by_cases others : other.status ∈ activeTenantStatuses
            · rw [if_pos others] at resolves
              exact (keyed name other found).symm.trans
                (congrArg TenantHostnameAuthority.hostname (Except.ok.inj resolves))
            · rw [if_neg others] at resolves
              cases resolves
          · rw [if_neg active] at resolves
            by_cases others : other.status ∈ activeTenantStatuses
            · rw [if_pos others] at resolves
              cases resolves
            · rw [if_neg others] at resolves
              exact List.append_cancel_left (Except.error.inj resolves)

theorem sameTenant_iff (built : ofTenants folding tenants = .ok resolver)
    (known : tenant ∈ tenants) (listed : Hostname tenant tenantId hostname) :
    SameTenant folding resolver tenantId hostname ↔ Settled hostname := by
  constructor
  · rintro ⟨authority, -, normal, -, spelled⟩
    have folded := (normalizeHostname_ok_iff.mp normal).folded
    have again := spelled authority.hostname
      ⟨[], [], by rw [folded.casefold, List.append_nil, List.append_nil], by simp, .inl rfl⟩
    exact (normal_again_iff normal).mp (normal_of_resolves (keyed_of_built built) again)
  · intro settled
    obtain ⟨authority, normal, own, found⟩ := configures_of_built built known listed
    exact ⟨authority, own, normal, resolve_of_found normal found, fun spelling spelled =>
      resolve_of_found (normal_of_spelling normal settled spelled) found⟩

/-- The Worker and Python agree unless a dot follows a port, normal forms are their own unless a
colon or white space is left, and so are the hostnames that lead to one tenant in every spelling. -/
theorem normalization_exact (folding : CaseFolding) :
    (∀ hostname name, Ascii hostname → normalizeTenantHostname hostname = .ok name →
      (normalizeHostname folding hostname = .ok name ↔ ¬ PortThenDot (strip hostname))) ∧
    (∀ hostname name, normalizeHostname folding hostname = .ok name →
      (normalizeHostname folding name = .ok name ↔ Settled hostname)) ∧
    ∀ tenants resolver tenant tenantId hostname,
      ofTenants folding tenants = .ok resolver → tenant ∈ tenants →
        Hostname tenant tenantId hostname →
          (SameTenant folding resolver tenantId hostname ↔ Settled hostname) :=
  ⟨fun _ _ ascii normal => python_agrees_iff ascii normal,
    fun _ _ normal => normal_again_iff normal,
    fun _ _ _ _ _ built known listed => sameTenant_iff built known listed⟩

theorem lower_plain {c : Char} (upper : 'A' ≤ c ∧ c ≤ 'Z') :
    isSpace (Char.ofNat (c.toNat + 32)) = false ∧
      isHostSeparator (Char.ofNat (c.toNat + 32)) = false ∧
        ¬ ('A' ≤ Char.ofNat (c.toNat + 32) ∧ Char.ofNat (c.toNat + 32) ≤ 'Z') := by
  have low : 65 ≤ c.toNat := Char.le_def.mp upper.1
  have high : c.toNat ≤ 90 := Char.le_def.mp upper.2
  have plain : ∀ n ∈ List.range' 65 26, isSpace (Char.ofNat (n + 32)) = false ∧
      isHostSeparator (Char.ofNat (n + 32)) = false ∧
        ¬ ('A' ≤ Char.ofNat (n + 32) ∧ Char.ofNat (n + 32) ≤ 'Z') := by decide
  exact plain _ (List.mem_range'_1.mpr ⟨low, by omega⟩)

/-- Case folding on ASCII texts. -/
def asciiFolding : CaseFolding where
  char c := [if 'A' ≤ c ∧ c ≤ 'Z' then Char.ofNat (c.toNat + 32) else c]
  ascii _ _ := rfl
  space c space := by
    have capital : ∀ n ∈ spaces, ¬ ('A' ≤ Char.ofNat n ∧ Char.ofNat n ≤ 'Z') := by decide
    have small := capital _ (mem_spaces space)
    rw [Char.ofNat_toNat] at small
    rw [if_neg small]
  plain c folded member special := by
    obtain rfl := List.mem_singleton.mp member
    by_cases upper : 'A' ≤ c ∧ c ≤ 'Z'
    · rw [if_pos upper, (lower_plain upper).1, (lower_plain upper).2.1] at special
      rcases special with special | special <;> cases special
    · rw [if_neg upper]
  stable c folded member := by
    obtain rfl := List.mem_singleton.mp member
    by_cases upper : 'A' ≤ c ∧ c ≤ 'Z'
    · rw [if_pos upper, if_neg (lower_plain upper).2.2]
    · rw [if_neg upper, if_neg upper]
  nonempty _ := List.cons_ne_nil _ _

/-- A tenant with one hostname. -/
def acme : JsonObject :=
  [("tenant_id", .str "acme"), ("area_id", .str "acme"), ("status", .str "active"),
    ("hostnames", .arr [.obj [("hostname", .str "Acme.Test:443"), ("purpose", .str "primary-ui"),
      ("cloudflare_proxy_expected", .bool true)]])]

theorem ascii_of_all {value : Text} (checked : value.all (fun c => decide (c.toNat < 128)) = true) :
    Ascii value := fun c member => of_decide_eq_true (List.all_eq_true.mp checked c member)

theorem acme_settled : Settled "Acme.Test:443" := by
  refine ⟨by decide, ?_⟩
  rintro ⟨front, space, dots, tail, same, is_space, -⟩
  have checked : (strip "Acme.Test:443").all (fun c => !isSpace c) = true := by decide
  have plain : ∀ c ∈ strip "Acme.Test:443", isSpace c = false := fun c member =>
    (Bool.not_eq_true' _).mp (List.all_eq_true.mp checked c member)
  rw [plain space (same ▸ List.mem_append_right _ List.mem_cons_self)] at is_space
  cases is_space

/-- The hostname of acme is normalized alike, for good, and leads to acme in every spelling. -/
theorem acme_normalization :
    normalizeHostname asciiFolding "Acme.Test:443" = .ok "acme.test" ∧
      normalizeHostname asciiFolding "acme.test" = .ok "acme.test" ∧
        ∃ resolver, ofTenants asciiFolding [acme] = .ok resolver ∧
          SameTenant asciiFolding resolver "acme" "Acme.Test:443" := by
  have ascii : Ascii "Acme.Test:443" := ascii_of_all (by decide)
  have undotted : ¬ PortThenDot (strip "Acme.Test:443") := by
    rintro ⟨host, port, same⟩
    have ends := congrArg List.getLast? same
    rw [← List.cons_append, ← List.append_assoc, List.getLast?_concat] at ends
    revert ends
    decide
  have normal := ((normalization_exact asciiFolding).1 _ "acme.test" ascii rfl).mpr undotted
  refine ⟨normal, ((normalization_exact asciiFolding).2.1 _ _ normal).mpr acme_settled, _, rfl, ?_⟩
  exact ((normalization_exact asciiFolding).2.2 [acme] _ acme _ _ rfl (List.mem_singleton.mpr rfl)
    ⟨rfl, _, rfl, _, List.mem_singleton.mpr rfl, rfl⟩).mpr acme_settled

/-- A port with a dot behind it is cut off by the Worker and refused by Python; of two ports one is
left, which the next normalization cuts off. -/
theorem port_and_dot_differ :
    Ascii "host:80." ∧ normalizeTenantHostname "host:80." = .ok "host" ∧
      normalizeHostname asciiFolding "host:80." = .error "Hostname port suffix is invalid." ∧
        normalizeHostname asciiFolding "a:1:2" = .ok "a:1" ∧
          normalizeHostname asciiFolding "a:1" = .ok "a" := by
  exact ⟨ascii_of_all (by decide), rfl, rfl, rfl, rfl⟩

end SkillCentric.HostnameNormalisation
