import SkillCentric.Runtime.PolicyDenials

/-!
# Denial lookups

What a lookup answers on records that were built, against the rule of the ledger: a request is
denied under an active denial of the same authority, or under an active denial of a scope that
reaches the requested scope in the same version of the closure table.
-/

namespace SkillCentric

namespace DenialLookups

open PolicyDenials JsonText
open RuntimeProfileComposer (subscript)

variable {sha256Hex : Text → Text} {closure : ScopePolicyClosure} {denial request : DenialArguments}

/-- The same authority is denied to the same principal for the same reason. -/
structure SameDenial (denial request : DenialArguments) : Prop where
  profileId : denial.profileId = request.profileId
  principalId : denial.principalId = request.principalId
  denialPredicate : denial.denialPredicate = request.denialPredicate
  requestedAuthorityKind : denial.requestedAuthorityKind = request.requestedAuthorityKind
  requestedAuthorityId : denial.requestedAuthorityId = request.requestedAuthorityId
  policyId : denial.policyId = request.policyId
  closureVersion : denial.closureVersion = request.closureVersion

/-- An entry of the table puts the descendant below the ancestor. -/
structure EntryFor (entry : Json) (kind ancestor descendant policy version : Text) : Prop where
  scopeKind : entry.item "scope_kind" = .str kind
  ancestorScopeId : entry.item "ancestor_scope_id" = .str ancestor
  descendantScopeId : (entry.item "descendant_scope_id").pyStr = descendant
  policyId : entry.item "policy_id" = .str policy
  closureVersion : entry.item "closure_version" = .str version

/-- A scope is denied that is the requested one, or above it in a version of the table. -/
structure Covers (closure : ScopePolicyClosure) (version : Text)
    (denial request : DenialArguments) :
    Prop where
  isScope : denial.requestedAuthorityKind ∈ scopeKinds
  requestedAuthorityKind : denial.requestedAuthorityKind = request.requestedAuthorityKind
  profileId : denial.profileId = request.profileId
  principalId : denial.principalId = request.principalId
  policyId : denial.policyId = request.policyId
  reaches : denial.requestedAuthorityId = request.requestedAuthorityId ∨
    ∃ entry ∈ closure.entries, EntryFor (.obj entry) denial.requestedAuthorityKind
      denial.requestedAuthorityId request.requestedAuthorityId denial.policyId version

/-- The rule: an active denial is the requested one, or covers it in the version of the request. -/
def Denies (closure : ScopePolicyClosure) (denials : List DenialArguments)
    (request : DenialArguments) : Prop :=
  ∃ denial ∈ denials, denial.status = "active" ∧
    (SameDenial denial request ∨
      denial.closureVersion = request.closureVersion ∧
        Covers closure request.closureVersion denial request)

/-- An active denial of another version covers the request in its own version of the table. -/
def CoveredByStale (closure : ScopePolicyClosure) (denials : List DenialArguments)
    (request : DenialArguments) : Prop :=
  ∃ denial ∈ denials, denial.status = "active" ∧ denial.closureVersion ≠ request.closureVersion ∧
    Covers closure denial.closureVersion denial request

/-- The arguments make a record. -/
def Built (sha256Hex : Text → Text) (denial : DenialArguments) : Prop :=
  ∃ record, buildPolicyDenialRecord sha256Hex denial = .ok record

/-- The lookup answers `denied`. -/
def Denied (sha256Hex : Text → Text) (closure : ScopePolicyClosure)
    (denials : List DenialArguments) (request : DenialArguments) : Prop :=
  ∃ answer, ask sha256Hex closure denials request = .ok answer ∧ answer.denied = true

theorem denialPayload_eq (denial : DenialArguments) :
    denialPayload denial =
      Char.ofNat 0x7b :: [','].intercalate
        [dumpField "closure_version" (dumpString denial.closureVersion),
          dumpField "denial_predicate" (dumpString denial.denialPredicate),
          dumpField "policy_id" (dumpString denial.policyId),
          dumpField "principal_id" (dumpString denial.principalId),
          dumpField "profile_id" (dumpString denial.profileId),
          dumpField "requested_authority" (Char.ofNat 0x7b :: [','].intercalate
            [dumpField "id" (dumpString denial.requestedAuthorityId),
              dumpField "kind" (dumpString denial.requestedAuthorityKind)] ++ [Char.ofNat 0x7d])] ++
        [Char.ofNat 0x7d] := rfl

theorem denialPayload_inj :
    denialPayload denial = denialPayload request ↔ SameDenial denial request := by
  constructor
  · intro same
    rw [denialPayload_eq, denialPayload_eq] at same
    simp only [List.intercalate, List.intersperse, List.flatten_cons, List.flatten_nil,
      List.append_assoc, List.nil_append, List.cons_append, List.cons.injEq, true_and,
      List.append_nil] at same
    obtain ⟨closure_version, same⟩ := dumpField_append_inj same
    obtain ⟨denial_predicate, same⟩ := dumpField_append_inj (List.cons.inj same).2
    obtain ⟨policy_id, same⟩ := dumpField_append_inj (List.cons.inj same).2
    obtain ⟨principal_id, same⟩ := dumpField_append_inj (List.cons.inj same).2
    obtain ⟨profile_id, same⟩ := dumpField_append_inj (List.cons.inj same).2
    have authority := List.append_cancel_left (List.append_cancel_right (List.cons.inj same).2)
    obtain ⟨authority_id, same⟩ :=
      dumpField_append_inj (List.cons.inj (List.cons.inj authority).2).2
    obtain ⟨authority_kind, -⟩ := dumpField_append_inj (List.cons.inj same).2
    exact ⟨profile_id, principal_id, denial_predicate, authority_kind, authority_id, policy_id,
      closure_version⟩
  · rintro ⟨profile_id, principal_id, denial_predicate, authority_kind, authority_id, policy_id,
      closure_version⟩
    unfold denialPayload
    rw [profile_id, principal_id, denial_predicate, authority_kind, authority_id, policy_id,
      closure_version]

theorem denialFingerprint_inj (digest_injective : Function.Injective sha256Hex) :
    denialFingerprint sha256Hex denial = denialFingerprint sha256Hex request ↔
      SameDenial denial request := by
  unfold denialFingerprint
  rw [List.append_cancel_left_eq, digest_injective.eq_iff, denialPayload_inj]

private theorem buildPolicyDenialRecord_eq (sha256Hex : Text → Text) (denial : DenialArguments) :
    buildPolicyDenialRecord sha256Hex denial = (do
      raiseIf (!deniableAuthorityKinds.contains denial.requestedAuthorityKind)
        "requested_authority.kind is invalid"
      raiseIf (strip denial.requestedAuthorityId = []) "requested_authority.id is required"
      raiseIf (!denialStatuses.contains denial.status) "status is invalid"
      return denialRecord sha256Hex denial) := by
  rfl

theorem Built.eq (built : Built sha256Hex denial) :
    buildPolicyDenialRecord sha256Hex denial = .ok (denialRecord sha256Hex denial) := by
  obtain ⟨record, built⟩ := built
  rw [buildPolicyDenialRecord_eq] at built ⊢
  simp only [Stateful.bind_eq_ok] at built ⊢
  obtain ⟨kind, kind_ok, id, id_ok, status, status_ok, -⟩ := built
  exact ⟨kind, kind_ok, id, id_ok, status, status_ok, rfl⟩

theorem isDescendant_iff {kind ancestor descendant policy version : Text} :
    closure.isDescendant kind ancestor descendant policy version = true ↔
      ancestor = descendant ∨ ∃ entry ∈ closure.entries,
        EntryFor (.obj entry) kind ancestor descendant policy version := by
  unfold ScopePolicyClosure.isDescendant ScopePolicyClosure.descendantsFor
  split
  · rename_i same
    exact ⟨fun _ => .inl same, fun _ => rfl⟩
  · rename_i other
    simp only [List.contains_iff_mem, List.mem_eraseDups, List.mem_map, List.mem_filter,
      Bool.and_eq_true, Json.equal_str, other, false_or]
    constructor
    · rintro ⟨entry, ⟨listed, ⟨⟨of_kind, below⟩, under⟩, at_version⟩, above⟩
      exact ⟨entry, listed, of_kind, below, above, under, at_version⟩
    · rintro ⟨entry, listed, of_kind, below, above, under, at_version⟩
      exact ⟨entry, ⟨listed, ⟨⟨of_kind, below⟩, under⟩, at_version⟩, above⟩

theorem scopeDenialSubsumes_eq (sha256Hex : Text → Text) (closure : ScopePolicyClosure)
    (denial request : DenialArguments) :
    scopeDenialSubsumes (denialRecord sha256Hex denial) (denialRecord sha256Hex request) closure =
      if !(Json.str denial.requestedAuthorityKind).equal (.str request.requestedAuthorityKind) then
        .ok false
      else if !scopeKinds.contains denial.requestedAuthorityKind then .ok false
      else if !(Json.str denial.profileId).equal (.str request.profileId) then .ok false
      else if !(Json.str denial.principalId).equal (.str request.principalId) then .ok false
      else if !(Json.str denial.policyId).equal (.str request.policyId) then .ok false
      else .ok (closure.isDescendant denial.requestedAuthorityKind denial.requestedAuthorityId
        request.requestedAuthorityId denial.policyId denial.closureVersion) := rfl

theorem scopeDenialSubsumes_iff (sha256Hex : Text → Text) (closure : ScopePolicyClosure)
    (denial request : DenialArguments) :
    ∃ subsumes, scopeDenialSubsumes (denialRecord sha256Hex denial) (denialRecord sha256Hex request)
        closure = .ok subsumes ∧
      (subsumes = true ↔ Covers closure denial.closureVersion denial request) := by
  rw [scopeDenialSubsumes_eq]
  split_ifs with kind scope profile principal policy
  · refine ⟨false, rfl, iff_of_false Bool.false_ne_true fun covers => ?_⟩
    simp [Json.equal, covers.requestedAuthorityKind] at kind
  · refine ⟨false, rfl, iff_of_false Bool.false_ne_true fun covers => ?_⟩
    simp [covers.isScope] at scope
  · refine ⟨false, rfl, iff_of_false Bool.false_ne_true fun covers => ?_⟩
    simp [Json.equal, covers.profileId] at profile
  · refine ⟨false, rfl, iff_of_false Bool.false_ne_true fun covers => ?_⟩
    simp [Json.equal, covers.principalId] at principal
  · refine ⟨false, rfl, iff_of_false Bool.false_ne_true fun covers => ?_⟩
    simp [Json.equal, covers.policyId] at policy
  · simp only [Bool.not_eq_true', Bool.not_eq_false, Json.equal_str, Json.str.injEq,
      List.contains_iff_mem] at kind scope profile principal policy
    refine ⟨_, rfl, isDescendant_iff.trans ?_⟩
    exact ⟨fun reaches => ⟨scope, kind, profile, principal, policy, reaches⟩,
      fun covers => covers.reaches⟩

/-- The recorded denial is active and denies or covers the request. -/
def Matches (closure : ScopePolicyClosure) (denial request : DenialArguments) : Prop :=
  denial.status = "active" ∧
    (SameDenial denial request ∨ Covers closure denial.closureVersion denial request)

theorem scan_cons (sha256Hex : Text → Text) (closure : ScopePolicyClosure)
    (denial request : DenialArguments) (rest : List JsonObject) :
    PolicyDenialLedger.scan closure (denialRecord sha256Hex request)
        (denialFingerprint sha256Hex request) (denialRecord sha256Hex denial :: rest) =
      if !(Json.str denial.status).equal (.str "active") then
        PolicyDenialLedger.scan closure (denialRecord sha256Hex request)
          (denialFingerprint sha256Hex request) rest
      else if (Json.str (denialFingerprint sha256Hex denial)).equal
          (.str (denialFingerprint sha256Hex request)) then
        .ok ⟨true, "exact denial fingerprint already exists", some denial.recordId,
          some "fingerprint"⟩
      else scopeDenialSubsumes (denialRecord sha256Hex denial) (denialRecord sha256Hex request)
          closure >>= fun subsumes =>
        if subsumes then
          .ok ⟨true, "requested scope is subsumed by an existing denied scope",
            some denial.recordId, some "scope_closure"⟩
        else PolicyDenialLedger.scan closure (denialRecord sha256Hex request)
          (denialFingerprint sha256Hex request) rest := rfl

theorem scan_iff (digest_injective : Function.Injective sha256Hex) (closure : ScopePolicyClosure)
    (request : DenialArguments) (denials : List DenialArguments) :
    ∃ answer, PolicyDenialLedger.scan closure (denialRecord sha256Hex request)
        (denialFingerprint sha256Hex request) (denials.map (denialRecord sha256Hex)) = .ok answer ∧
      (answer.denied = true ↔ ∃ denial ∈ denials, Matches closure denial request) := by
  induction denials with
  | nil => exact ⟨_, rfl, by simp⟩
  | cons denial rest ih =>
      obtain ⟨answer, scanned, denied_iff⟩ := ih
      obtain ⟨subsumes, subsumed, covers_iff⟩ :=
        scopeDenialSubsumes_iff sha256Hex closure denial request
      rw [List.map_cons, scan_cons]
      simp only [List.mem_cons, exists_eq_or_imp]
      split_ifs with inactive same
      · refine ⟨answer, scanned, denied_iff.trans (or_iff_right fun matched => ?_).symm⟩
        simp [Json.equal, matched.1] at inactive
      · simp only [Bool.not_eq_true', Bool.not_eq_false, Json.equal_str,
          Json.str.injEq] at inactive same
        have exact_match := (denialFingerprint_inj digest_injective).mp same
        exact ⟨_, rfl, iff_of_true rfl (.inl ⟨inactive, .inl exact_match⟩)⟩
      · simp only [Bool.not_eq_true', Bool.not_eq_false, Json.equal_str,
          Json.str.injEq] at inactive same
        rw [subsumed]
        cases subsumes with
        | true => exact ⟨_, rfl, iff_of_true rfl (.inl ⟨inactive, .inr (covers_iff.mp rfl)⟩)⟩
        | false =>
            refine ⟨answer, scanned, denied_iff.trans (or_iff_right ?_).symm⟩
            rintro ⟨-, exact_match | covers⟩
            · exact same ((denialFingerprint_inj digest_injective).mpr exact_match)
            · exact Bool.false_ne_true (covers_iff.mpr covers)

variable {denials : List DenialArguments}

theorem ask_iff (digest_injective : Function.Injective sha256Hex) (closure : ScopePolicyClosure)
    (denials_built : ∀ denial ∈ denials, Built sha256Hex denial)
    (request_built : Built sha256Hex request) :
    ∃ answer, ask sha256Hex closure denials request = .ok answer ∧
      (answer.denied = true ↔ ∃ denial ∈ denials, Matches closure denial request) := by
  obtain ⟨answer, scanned, denied_iff⟩ := scan_iff digest_injective closure request denials
  refine ⟨answer, ?_, denied_iff⟩
  have built : denials.mapM (buildPolicyDenialRecord sha256Hex) =
      .ok (denials.map (denialRecord sha256Hex)) :=
    Stateful.mapM_ok fun denial listed => (denials_built denial listed).eq
  have validated : (denials.map (denialRecord sha256Hex)).mapM validatePolicyDenialRecord =
      .ok (denials.map (denialRecord sha256Hex)) := by
    rw [Stateful.mapM_ok (g := id), List.map_id]
    intro record listed
    obtain ⟨denial, denial_listed, rfl⟩ := List.mem_map.mp listed
    exact (denials_built denial denial_listed).eq
  have opened : PolicyDenialLedger.ofRecords (denials.map (denialRecord sha256Hex)) closure =
      .ok ⟨denials.map (denialRecord sha256Hex), closure⟩ :=
    Stateful.bind_eq_ok.mpr ⟨_, validated, rfl⟩
  unfold ask PolicyDenialLedger.lookup
  rw [built, request_built.eq]
  exact Stateful.bind_eq_ok.mpr ⟨_, rfl, Stateful.bind_eq_ok.mpr ⟨_, opened, scanned⟩⟩

theorem denied_iff (digest_injective : Function.Injective sha256Hex)
    (denials_built : ∀ denial ∈ denials, Built sha256Hex denial)
    (request_built : Built sha256Hex request) :
    Denied sha256Hex closure denials request ↔
      ∃ denial ∈ denials, Matches closure denial request := by
  obtain ⟨answer, asked, answer_iff⟩ := ask_iff digest_injective closure denials_built request_built
  refine Iff.trans ⟨?_, fun denied => ⟨answer, asked, denied⟩⟩ answer_iff
  rintro ⟨other, other_asked, denied⟩
  cases asked.symm.trans other_asked
  exact denied

theorem matches_iff :
    (∃ denial ∈ denials, Matches closure denial request) ↔
      Denies closure denials request ∨ CoveredByStale closure denials request := by
  constructor
  · rintro ⟨denial, listed, active, exact_match | covers⟩
    · exact .inl ⟨denial, listed, active, .inl exact_match⟩
    · by_cases same : denial.closureVersion = request.closureVersion
      · exact .inl ⟨denial, listed, active, .inr ⟨same, same ▸ covers⟩⟩
      · exact .inr ⟨denial, listed, active, same, covers⟩
  · rintro (⟨denial, listed, active, exact_match | ⟨same, covers⟩⟩
      | ⟨denial, listed, active, -, covers⟩)
    · exact ⟨denial, listed, active, .inl exact_match⟩
    · exact ⟨denial, listed, active, .inr (same ▸ covers)⟩
    · exact ⟨denial, listed, active, .inr covers⟩

/-- A lookup answers as the rule says exactly when no denial of another version of the table is all
that covers the request; its answer depends on the set of denials alone, and grows with it. -/
theorem lookup_exact_iff (digest_injective : Function.Injective sha256Hex)
    (closure : ScopePolicyClosure) (denials : List DenialArguments) (request : DenialArguments)
    (denials_built : ∀ denial ∈ denials, Built sha256Hex denial)
    (request_built : Built sha256Hex request) :
    (∃ answer, ask sha256Hex closure denials request = .ok answer) ∧
      ((Denied sha256Hex closure denials request ↔ Denies closure denials request) ↔
        (CoveredByStale closure denials request → Denies closure denials request)) ∧
      (∀ reordered, reordered.Perm denials →
        (Denied sha256Hex closure reordered request ↔ Denied sha256Hex closure denials request)) ∧
      ∀ more, denials ⊆ more → (∀ denial ∈ more, Built sha256Hex denial) →
        Denied sha256Hex closure denials request → Denied sha256Hex closure more request := by
  have denied : Denied sha256Hex closure denials request ↔
      ∃ denial ∈ denials, Matches closure denial request :=
    denied_iff digest_injective denials_built request_built
  refine ⟨?_, ?_, ?_, ?_⟩
  · obtain ⟨answer, asked, -⟩ := ask_iff digest_injective closure denials_built request_built
    exact ⟨answer, asked⟩
  · rw [denied, matches_iff]
    exact ⟨fun exact_answer stale => exact_answer.mp (.inr stale),
      fun accompanied => ⟨fun found => found.elim id accompanied, .inl⟩⟩
  · intro reordered permuted
    rw [denied, denied_iff digest_injective
      (fun denial listed => denials_built denial (permuted.mem_iff.mp listed)) request_built]
    simp only [permuted.mem_iff]
  · intro more grows more_built
    rw [denied, denied_iff digest_injective more_built request_built]
    rintro ⟨denial, listed, matched⟩
    exact ⟨denial, grows listed, matched⟩

/-- The scope `repository-readonly` is denied in a version of the table. -/
def repositoryDenial (closureVersion : Text) : DenialArguments where
  recordId := "pdl-profile-code-review-repository-readonly"
  profileId := "profile-code-review"
  principalId := "repository-maintainer"
  denialPredicate := "data_scope_not_in_runtime_profile"
  requestedAuthorityKind := "data_scope"
  requestedAuthorityId := "repository-readonly"
  policyId := "no-destructive-commands"
  closureVersion := closureVersion

/-- The denial on record. -/
def recorded : DenialArguments := repositoryDenial "scope-policy-closure-0-1-0"

/-- The same scope, requested under the next version. -/
def requestedNext : DenialArguments := repositoryDenial "scope-policy-closure-0-2-0"

def knownDigest (known known' digest digest' text : Text) : Text :=
  if text = known then digest else if text = known' then digest' else 'x' :: text

theorem knownDigest_injective {known known' digest digest' : Text} (different : digest ≠ digest')
    (hex : digest.head? ≠ some 'x') (hex' : digest'.head? ≠ some 'x') :
    Function.Injective (knownDigest known known' digest digest') := by
  intro left right same
  unfold knownDigest at same
  grind

/-- SHA-256 on the payloads of the two. -/
def sha256 : Text → Text :=
  knownDigest (denialPayload recorded) (denialPayload requestedNext)
    "ed8986bf5c3229afd153b4ec9dd2c548449e96c4c3e78e7c36808900d7702cc1"
    "62a7b9ce3995031954e2605285f7e199036d9677b84bd5c00acc667c0af928fc"

theorem sha256_injective : Function.Injective sha256 :=
  knownDigest_injective (by decide) (by decide) (by decide)

theorem repositoryDenial_built (closureVersion : Text) :
    Built sha256 (repositoryDenial closureVersion) :=
  ⟨denialRecord sha256 (repositoryDenial closureVersion), rfl⟩

/-- The same request again is denied. -/
theorem recorded_denied : Denied sha256 ⟨[]⟩ [recorded] recorded := by
  have denies : Denies ⟨[]⟩ [recorded] recorded :=
    ⟨recorded, List.mem_singleton_self _, rfl, .inl ⟨rfl, rfl, rfl, rfl, rfl, rfl, rfl⟩⟩
  have built : ∀ denial ∈ [recorded], Built sha256 denial :=
    List.forall_mem_singleton.mpr (repositoryDenial_built _)
  have lookup := lookup_exact_iff sha256_injective ⟨[]⟩ [recorded] recorded built
    (repositoryDenial_built _)
  exact (lookup.2.1.mpr fun _ => denies).mpr denies

private theorem repositoryDenial_covers (version version' : Text) :
    Covers ⟨[]⟩ version (repositoryDenial version) (repositoryDenial version') :=
  ⟨List.mem_cons_self, rfl, rfl, rfl, rfl, .inl rfl⟩

/-- The request of the next version is denied as well, against the rule. -/
theorem stale_scope_denied :
    Function.Injective sha256 ∧ Built sha256 recorded ∧ Built sha256 requestedNext ∧
      ¬ (Denied sha256 ⟨[]⟩ [recorded] requestedNext ↔ Denies ⟨[]⟩ [recorded] requestedNext) := by
  refine ⟨sha256_injective, repositoryDenial_built _, repositoryDenial_built _,
    fun exact_answer => ?_⟩
  have other_version : recorded.closureVersion ≠ requestedNext.closureVersion := by decide
  have denied : Denied sha256 ⟨[]⟩ [recorded] requestedNext :=
    (denied_iff sha256_injective (List.forall_mem_singleton.mpr (repositoryDenial_built _))
      (repositoryDenial_built _)).mpr
        ⟨recorded, List.mem_singleton_self _, rfl, .inr (repositoryDenial_covers _ _)⟩
  obtain ⟨denial, listed, -, same | ⟨version, -⟩⟩ := exact_answer.mp denied
  · rw [List.mem_singleton.mp listed] at same
    exact other_version same.closureVersion
  · rw [List.mem_singleton.mp listed] at version
    exact other_version version

end DenialLookups

end SkillCentric
