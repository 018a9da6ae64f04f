import SkillCentric.Library.Dict
import SkillCentric.Runtime.Coercions
import SkillCentric.Runtime.TenantStatus

/-!
# Tenant resolution

`TenantHostnameResolver` and `normalize_hostname`: one configured hostname leads to one tenant.
Case folding is a parameter that keeps what Unicode promises of it.
-/

namespace SkillCentric.Control

open SkillCentric Slug

/-- The separators of a hostname. -/
def isHostSeparator (c : Char) : Bool := c == ':' || c == '/' || c == '.'

/-- `str.casefold`, character by character. -/
structure CaseFolding where
  char : Char → Text
  /-- ASCII letters are folded to lower case, other ASCII characters are left alone. -/
  ascii : ∀ c, c.toNat < 128 →
    char c = [if 'A' ≤ c ∧ c ≤ 'Z' then Char.ofNat (c.toNat + 32) else c]
  /-- White space is left alone. -/
  space : ∀ c, isSpace c = true → char c = [c]
  /-- Nothing else is folded to white space or to a separator. -/
  plain : ∀ c, ∀ folded ∈ char c, isSpace folded = true ∨ isHostSeparator folded = true → c = folded
  /-- Nothing is left to fold. -/
  stable : ∀ c, ∀ folded ∈ char c, char folded = [folded]
  /-- No character disappears. -/
  nonempty : ∀ c, char c ≠ []

/-- `str.casefold`. -/
def CaseFolding.casefold (folding : CaseFolding) (value : Text) : Text := value.flatMap folding.char

/-- Characters that are digits besides the decimal ones, as ranges. -/
def otherDigits : List (Nat × Nat) :=
  [(0xB2, 0xB3), (0xB9, 0xB9), (0x1369, 0x1371), (0x19DA, 0x19DA), (0x2070, 0x2070),
    (0x2074, 0x2079), (0x2080, 0x2089), (0x2460, 0x2468), (0x2474, 0x247C), (0x2488, 0x2490),
    (0x24EA, 0x24EA), (0x24F5, 0x24FD), (0x24FF, 0x24FF), (0x2776, 0x277E), (0x2780, 0x2788),
    (0x278A, 0x2792), (0x10A40, 0x10A43), (0x10E60, 0x10E68), (0x11052, 0x1105A),
    (0x1F100, 0x1F10A)]

/-- `str.isdigit` of one character. -/
def isDigit (c : Char) : Bool :=
  (Json.digit? c).isSome || otherDigits.any fun range => range.1 ≤ c.toNat && c.toNat ≤ range.2

/-- `str.isdigit`. -/
def isDigits (value : Text) : Bool := !value.isEmpty && value.all isDigit

/-- `value.rpartition(":")` where a colon is there: what stands before and after the last one. -/
def rpartitionColon (value : Text) : Text × Text :=
  ((value.rdropWhile (· != ':')).dropLast, value.rtakeWhile (· != ':'))

/-- `normalize_hostname`. -/
def normalizeHostname (folding : CaseFolding) (hostname : Text) : Except Text Text := do
  let value := folding.casefold (strip hostname)
  if startsWith value "http://" || startsWith value "https://" then
    throw ("Hostname must not include a URL scheme." : Text)
  if value.contains '/' then throw ("Hostname must not include a path." : Text)
  let value ←
    if value.contains ':' then
      let (host, port) := rpartitionColon value
      if host.isEmpty || !isDigits port then throw ("Hostname port suffix is invalid." : Text)
      pure host
    else pure value
  let value := value.rdropWhile (· == '.')
  if value.isEmpty then throw ("Hostname is required." : Text)
  return value

/-- `TenantHostnameAuthority`. -/
structure TenantHostnameAuthority where
  tenantId : Text
  areaId : Text
  hostname : Text
  purpose : Text
  status : Text
  expectedOrigin : Option Text
  cloudflareProxyExpected : Bool
  deriving DecidableEq

/-- `_required_string`. -/
def requiredString (mapping : Json) (key : Text) : Except Text Text :=
  match mapping.get? key with
  | some (.str value) =>
      if (strip value).isEmpty then throw (key ++ (" is required." : Text)) else return strip value
  | _ => throw (key ++ (" is required." : Text))

/-- `expected_origin` of a hostname record. -/
def expectedOrigin (tenantId hostname : Text) (record : Json) : Except Text (Option Text) :=
  match record.get? "expected_origin" with
  | none | some .null => return none
  | some (.str origin) => return some origin
  | _ => throw (tenantId ++ (" hostname " : Text) ++ hostname ++
      (" expected_origin must be null or string." : Text))

/-- `cloudflare_proxy_expected` of a hostname record. -/
def cloudflareProxyExpected (tenantId hostname : Text) (record : Json) : Except Text Bool :=
  match record.get? "cloudflare_proxy_expected" with
  | some (.bool expected) => return expected
  | _ => throw (tenantId ++ (" hostname " : Text) ++ hostname ++
      (" cloudflare_proxy_expected must be bool." : Text))

variable (folding : CaseFolding)

/-- One turn of the loop of `_add_tenant`. -/
def addHostname (tenantId areaId status : Text) (byHostname : Dict Text TenantHostnameAuthority)
    (record : Json) : Except Text (Dict Text TenantHostnameAuthority) := do
  if !record.isMapping then
    throw (tenantId ++ (" tenant hostname record must be an object." : Text))
  let hostname ← normalizeHostname folding (← requiredString record "hostname")
  match byHostname.get? hostname with
  | some existing =>
      throw (("Duplicate tenant hostname " : Text) ++ Json.quoteText hostname ++ (" for " : Text) ++
        Json.quoteText existing.tenantId ++ (" and " : Text) ++ Json.quoteText tenantId ++
        ("." : Text))
  | none =>
      let expectedOrigin ← expectedOrigin tenantId hostname record
      let cloudflareProxyExpected ← cloudflareProxyExpected tenantId hostname record
      let purpose ← requiredString record "purpose"
      return byHostname.set hostname
        { tenantId, areaId, hostname, purpose, status, expectedOrigin, cloudflareProxyExpected }

/-- `_add_tenant`. -/
def addTenant (byHostname : Dict Text TenantHostnameAuthority) (tenant : JsonObject) :
    Except Text (Dict Text TenantHostnameAuthority) := do
  let tenantId ← requiredString (.obj tenant) "tenant_id"
  let areaId ← requiredString (.obj tenant) "area_id"
  let status ← requiredString (.obj tenant) "status"
  match (Json.obj tenant).get? "hostnames" with
  | some (.arr hostnames) =>
    hostnames.foldlM (addHostname folding tenantId areaId status) byHostname
  | _ => throw (tenantId ++ (" tenant hostnames must be a list." : Text))

/-- `TenantHostnameResolver`: its `_by_hostname`. -/
structure TenantHostnameResolver where
  byHostname : Dict Text TenantHostnameAuthority

namespace TenantHostnameResolver

/-- `TenantHostnameResolver(tenants)`. -/
def ofTenants (tenants : List JsonObject) : Except Text TenantHostnameResolver := do
  return ⟨← tenants.foldlM (addTenant folding) .empty⟩

/-- `ACTIVE_TENANT_STATUSES`. -/
def activeTenantStatuses : List Text := ["setup", "active"]

/-- `resolve`. -/
def resolve (resolver : TenantHostnameResolver) (hostname : Text) :
    Except Text TenantHostnameAuthority := do
  let normalized ← normalizeHostname folding hostname
  match resolver.byHostname.get? normalized with
  | none => throw (("Unknown tenant hostname: " : Text) ++ normalized)
  | some authority =>
      if authority.status ∉ activeTenantStatuses then
        throw (("Tenant hostname is not active: " : Text) ++ normalized)
      return authority

end TenantHostnameResolver

end SkillCentric.Control
