import SkillCentric.Runtime.JsonText
import SkillCentric.Runtime.ProfileComposer

/-!
# The policy denial ledger

`PolicyDenialLedger.lookup`: a request is denied again when an active record has its fingerprint, or
when an active record denies a scope from which the closure table reaches the requested one.  The
fingerprint is the SHA-256 digest of what is denied, written as a JSON text; the digest is a
parameter.
-/

namespace SkillCentric

open Slug
open RuntimeProfileComposer (subscript)

namespace PolicyDenials

/-- `DENIABLE_AUTHORITY_KINDS`. -/
def deniableAuthorityKinds : List Text :=
  ["tool", "policy", "data_scope", "knowledge_scope", "memory_scope", "validator", "budget",
    "failure_policy"]

/-- `DENIAL_STATUSES`. -/
def denialStatuses : List Text := ["active", "expired", "superseded"]

/-- The kinds that the closure table relates. -/
def scopeKinds : List Text := ["data_scope", "knowledge_scope", "memory_scope"]

/-- `PolicyDenialLedgerError(message)`, a `ValueError`. -/
def policyDenialLedgerError (message : Text) : PyError := ⟨.valueError, message, none⟩

/-- `raise PolicyDenialLedgerError(message)` under a condition. -/
def raiseIf (condition : Bool) (message : Text) : Except PyError Unit :=
  if condition then .error (policyDenialLedgerError message) else .ok ()

/-- `required` of `validate_policy_denial_record`. -/
def requiredFields : List Text :=
  ["contract_version", "id", "profile_id", "principal_id", "denial_predicate",
    "requested_authority", "policy_id", "closure_version", "denial_fingerprint", "status",
    "non_authoritative", "authority_effect"]

/-- Fields that would grant authority. -/
def forbiddenFields : List Text :=
  ["authority_grant", "granted_authority", "profile_patch", "runtime_profile_patch", "scope_grant",
    "policy_override"]

/-- `validate_policy_denial_record`. -/
def validatePolicyDenialRecord (record : JsonObject) : Except PyError JsonObject := do
  let missing := Json.missing requiredFields (record.map Prod.fst)
  raiseIf (missing ≠ []) (("missing fields: " : Text) ++ Json.join missing)
  raiseIf (!(← subscript (.obj record) "contract_version").equal (.str "0.1.0"))
    "contract_version must be 0.1.0"
  let requested ← subscript (.obj record) "requested_authority"
  raiseIf (!requested.isMapping) "requested_authority must be an object"
  raiseIf (!(← (requested.item "kind").isOneOf deniableAuthorityKinds))
    "requested_authority.kind is invalid"
  raiseIf (strip (requested.item "id" (.str [])).pyStr = []) "requested_authority.id is required"
  raiseIf (!(← (← subscript (.obj record) "status").isOneOf denialStatuses)) "status is invalid"
  raiseIf ((← subscript (.obj record) "non_authoritative") ≠ .bool true)
    "denial records must be non_authoritative"
  raiseIf (!(← subscript (.obj record) "authority_effect").equal (.str "deny_only"))
    "denial records must be deny_only"
  forbiddenFields.forM fun forbidden =>
    raiseIf ((record.map Prod.fst).contains forbidden)
      (("denial records must not contain " : Text) ++ forbidden)
  return record

/-- The keyword arguments of `build_policy_denial_record`. -/
structure DenialArguments where
  recordId : Text
  profileId : Text
  principalId : Text
  denialPredicate : Text
  requestedAuthorityKind : Text
  requestedAuthorityId : Text
  policyId : Text
  closureVersion : Text
  status : Text := "active"
  ttlExpiresAt : Option Text := none
  deriving DecidableEq

variable (sha256Hex : Text → Text)

/-- The payload of `_denial_fingerprint`, encoded. -/
def denialPayload (denial : DenialArguments) : Text :=
  JsonText.dumpObject
    [("closure_version", JsonText.dumpString denial.closureVersion),
      ("denial_predicate", JsonText.dumpString denial.denialPredicate),
      ("policy_id", JsonText.dumpString denial.policyId),
      ("principal_id", JsonText.dumpString denial.principalId),
      ("profile_id", JsonText.dumpString denial.profileId),
      ("requested_authority", JsonText.dumpObject
        [("id", JsonText.dumpString denial.requestedAuthorityId),
          ("kind", JsonText.dumpString denial.requestedAuthorityKind)])]

/-- `_denial_fingerprint`. -/
def denialFingerprint (denial : DenialArguments) : Text :=
  ("sha256:" : Text) ++ sha256Hex (denialPayload denial)

/-- `record` of `build_policy_denial_record`. -/
def denialRecord (denial : DenialArguments) : JsonObject :=
  [("contract_version", .str "0.1.0"),
    ("id", .str denial.recordId),
    ("profile_id", .str denial.profileId),
    ("principal_id", .str denial.principalId),
    ("denial_predicate", .str denial.denialPredicate),
    ("requested_authority", .obj
      [("kind", .str denial.requestedAuthorityKind), ("id", .str denial.requestedAuthorityId)]),
    ("policy_id", .str denial.policyId),
    ("closure_version", .str denial.closureVersion),
    ("denial_fingerprint", .str (denialFingerprint sha256Hex denial)),
    ("status", .str denial.status),
    ("ttl_expires_at", (denial.ttlExpiresAt.map Json.str).getD .null),
    ("non_authoritative", .bool true),
    ("authority_effect", .str "deny_only")]

/-- `build_policy_denial_record`. -/
def buildPolicyDenialRecord (denial : DenialArguments) : Except PyError JsonObject :=
  validatePolicyDenialRecord (denialRecord sha256Hex denial)

/-- `ScopePolicyClosure`. -/
structure ScopePolicyClosure where
  entries : List JsonObject := []

namespace ScopePolicyClosure

/-- `descendants_for`; the fields of a validated entry are present. -/
def descendantsFor (closure : ScopePolicyClosure)
    (scopeKind ancestorScopeId policyId closureVersion : Text) : List Text :=
  ((closure.entries.filter fun entry =>
      ((Json.obj entry).item "scope_kind").equal (.str scopeKind) &&
        ((Json.obj entry).item "ancestor_scope_id").equal (.str ancestorScopeId) &&
        ((Json.obj entry).item "policy_id").equal (.str policyId) &&
        ((Json.obj entry).item "closure_version").equal (.str closureVersion)).map fun entry =>
    ((Json.obj entry).item "descendant_scope_id").pyStr).eraseDups

/-- `is_descendant`. -/
def isDescendant (closure : ScopePolicyClosure)
    (scopeKind ancestorScopeId requestedScopeId policyId closureVersion : Text) : Bool :=
  if ancestorScopeId = requestedScopeId then true
  else (closure.descendantsFor scopeKind ancestorScopeId policyId closureVersion).contains
    requestedScopeId

end ScopePolicyClosure

/-- `PolicyDenialLookup`. -/
structure PolicyDenialLookup where
  denied : Bool
  reason : Text
  matchedRecordId : Option Text := none
  matchedBy : Option Text := none
  deriving DecidableEq

/-- `_scope_denial_subsumes`. -/
def scopeDenialSubsumes (record request : JsonObject) (closure : ScopePolicyClosure) :
    Except PyError Bool := do
  let denied ← subscript (.obj record) "requested_authority"
  let requested ← subscript (.obj request) "requested_authority"
  if !denied.isMapping || !requested.isMapping then return false
  if !(denied.item "kind").equal (requested.item "kind") then return false
  if !(← (denied.item "kind").isOneOf scopeKinds) then return false
  if !((Json.obj record).item "profile_id").equal ((Json.obj request).item "profile_id") then
    return false
  if !((Json.obj record).item "principal_id").equal ((Json.obj request).item "principal_id") then
    return false
  if !((Json.obj record).item "policy_id").equal ((Json.obj request).item "policy_id") then
    return false
  return closure.isDescendant (← subscript denied "kind").pyStr (← subscript denied "id").pyStr
    (← subscript requested "id").pyStr (← subscript (.obj record) "policy_id").pyStr
    (← subscript (.obj record) "closure_version").pyStr

/-- `PolicyDenialLedger`. -/
structure PolicyDenialLedger where
  records : List JsonObject
  closure : ScopePolicyClosure

namespace PolicyDenialLedger

/-- `PolicyDenialLedger(records, closure=closure)`. -/
def ofRecords (records : List JsonObject) (closure : ScopePolicyClosure) :
    Except PyError PolicyDenialLedger :=
  return ⟨← records.mapM validatePolicyDenialRecord, closure⟩

/-- The scan of `lookup` over the records at hand. -/
def scan (closure : ScopePolicyClosure) (requestRecord : JsonObject) (requestFingerprint : Text) :
    List JsonObject → Except PyError PolicyDenialLookup
  | [] => .ok { denied := false, reason := "no matching denial" }
  | record :: rest => do
      if !(← subscript (.obj record) "status").equal (.str "active") then
        scan closure requestRecord requestFingerprint rest
      else if (← subscript (.obj record) "denial_fingerprint").equal (.str requestFingerprint) then
        return {
          denied := true
          reason := "exact denial fingerprint already exists"
          matchedRecordId := some (← subscript (.obj record) "id").pyStr
          matchedBy := some "fingerprint" }
      else if ← scopeDenialSubsumes record requestRecord closure then
        return {
          denied := true
          reason := "requested scope is subsumed by an existing denied scope"
          matchedRecordId := some (← subscript (.obj record) "id").pyStr
          matchedBy := some "scope_closure" }
      else scan closure requestRecord requestFingerprint rest

/-- `PolicyDenialLedger.lookup`. -/
def lookup (ledger : PolicyDenialLedger) (request : DenialArguments) :
    Except PyError PolicyDenialLookup := do
  let requestRecord ← buildPolicyDenialRecord sha256Hex request
  let requestFingerprint := (← subscript (.obj requestRecord) "denial_fingerprint").pyStr
  scan ledger.closure requestRecord requestFingerprint ledger.records

end PolicyDenialLedger

/-- A ledger of built records is asked. -/
def ask (closure : ScopePolicyClosure) (denials : List DenialArguments)
    (request : DenialArguments) :
    Except PyError PolicyDenialLookup := do
  let records ← denials.mapM (buildPolicyDenialRecord sha256Hex)
  let ledger ← PolicyDenialLedger.ofRecords records closure
  ledger.lookup sha256Hex request

end PolicyDenials

end SkillCentric
