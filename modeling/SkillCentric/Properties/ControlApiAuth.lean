import SkillCentric.Control.RequestAuth

/-!
# What the control API lets through

A request passes exactly when its header is a bearer credential whose token has the bytes of a
configured variable that grants the scope.  Any division of the white space between the scheme and
the token gives the same trimmed token, so the order in which the match tries them does not matter.
-/

namespace SkillCentric.Properties.ControlApiAuth

open SkillCentric JsString Control

/-- The header is a bearer credential with this trimmed token. -/
def BearerCredential (header token : JsString) : Prop :=
  ∃ scheme gap credential, header.units = scheme ++ (gap ++ credential) ∧
    scheme.map canonicalize = unitsOf "BEARER" ∧
    (gap ≠ [] ∧ ∀ unit ∈ gap, isSpace unit = true) ∧
    (credential ≠ [] ∧ ∀ unit ∈ credential, isLineTerminator unit = false) ∧
    token.units = trimUnits credential

def tokenOf (env : AuthEnv) : EndpointScope → Option JsString
  | .composition => env.compositionToken
  | .ingestion => env.ingestionToken
  | .retrieval => env.retrievalToken
  | .aiGateway => env.aiGatewayToken
  | .tenantAdmin => env.tenantAdminToken

/-- A variable with this value grants the scope, or all scopes. -/
def Grants (env : AuthEnv) (scope : EndpointScope) (value : JsString) : Prop :=
  env.controlApiToken = some value ∨ tokenOf env scope = some value

/-- A value counts as configured on a host. -/
def Configured (hostname value : JsString) : Prop :=
  value.trim.units ≠ [] ∧ value.trim.units ≠ unitsOf "unset" ∧
    (value.trim.units = unitsOf "local-test-token" → unitsOf ".test" <:+ hostname.units)

section Header

variable {header rest group token : JsString} {spaces : Nat}

theorem groupAfter_eq_some : groupAfter rest spaces = some group ↔
    rest.drop spaces = group ∧ group.units ≠ [] ∧
      ∀ unit ∈ group.units, isLineTerminator unit = false := by
  rw [groupAfter]
  constructor
  · intro found
    split at found
    next valid =>
      have same : rest.drop spaces = group := Option.some.inj found
      rw [same, List.all_eq_true] at valid
      exact ⟨same, valid.1, fun unit inGroup => by simpa using valid.2 unit inGroup⟩
    next => exact absurd found (by simp)
  · rintro ⟨same, nonempty, single⟩
    rw [same, if_pos ⟨nonempty, List.all_eq_true.mpr fun unit inGroup => by
      rw [single unit inGroup]; rfl⟩]

theorem isSpace_of_mem_take {units : List UInt16} {count : Nat}
    (within : count ≤ (units.takeWhile isSpace).length) :
    ∀ unit ∈ units.take count, isSpace unit = true := by
  intro unit inTake
  have starts : units.take count <+: units.takeWhile isSpace := by
    refine List.prefix_of_prefix_length_le (List.take_prefix count units)
      (List.takeWhile_prefix isSpace) ?_
    rw [List.length_take]
    exact (min_le_left _ _).trans within
  exact List.mem_takeWhile_imp (starts.subset inTake)

theorem matchBearer_spec (found : matchBearer header = some group) :
    (header.units.take 6).map canonicalize = unitsOf "BEARER" ∧
      ∃ spaces, 0 < spaces ∧ spaces ≤ ((header.drop 6).units.takeWhile isSpace).length ∧
        groupAfter (header.drop 6) spaces = some group := by
  rw [matchBearer] at found
  split at found
  next scheme =>
    obtain ⟨spaces, tried, taken⟩ := List.exists_of_findSome?_eq_some found
    obtain ⟨before, inRange, rfl⟩ := List.mem_map.mp tried
    have within := List.mem_range.mp (List.mem_reverse.mp inRange)
    exact ⟨scheme, before + 1, Nat.succ_pos before, within, taken⟩
  next => exact absurd found (by simp)

theorem credential_of_matchBearer (found : matchBearer header = some group) :
    BearerCredential header group.trim := by
  obtain ⟨scheme, spaces, positive, within, taken⟩ := matchBearer_spec found
  obtain ⟨same, nonempty, single⟩ := groupAfter_eq_some.mp taken
  have units : (header.drop 6).units.drop spaces = group.units := congrArg JsString.units same
  refine ⟨header.units.take 6, (header.drop 6).units.take spaces, group.units, ?_, scheme,
    ⟨?_, isSpace_of_mem_take within⟩, ⟨nonempty, single⟩, rfl⟩
  · rw [← units, List.take_append_drop]
    exact (List.take_append_drop 6 header.units).symm
  · intro none
    have length := congrArg List.length none
    have bound := within.trans (List.takeWhile_prefix isSpace).length_le
    rw [List.length_take, List.length_nil, min_eq_left bound] at length
    omega

theorem matchBearer_of_credential (credential : BearerCredential header token) :
    ∃ group, matchBearer header = some group ∧ group.trim = token := by
  obtain ⟨scheme, gap, secret, units, bearer, ⟨gapNonempty, gapSpaces⟩,
    ⟨nonempty, single⟩, trimmed⟩ := credential
  have six : scheme.length = 6 := by
    rw [← List.length_map canonicalize, bearer]
    rfl
  have schemeUnits : header.units.take 6 = scheme := by rw [units, ← six, List.take_left]
  have restUnits : (header.drop 6).units = gap ++ secret := by
    change header.units.drop 6 = gap ++ secret
    rw [units, ← six, List.drop_left]
  have groupUnits : ((header.drop 6).drop gap.length).units = secret := by
    change (header.drop 6).units.drop gap.length = secret
    rw [restUnits, List.drop_left]
  have taken : groupAfter (header.drop 6) gap.length = some ((header.drop 6).drop gap.length) :=
    groupAfter_eq_some.mpr ⟨rfl, by rwa [groupUnits], by rwa [groupUnits]⟩
  have within : gap.length ≤ ((header.drop 6).units.takeWhile isSpace).length := by
    rw [restUnits, List.takeWhile_append_of_pos gapSpaces, List.length_append]
    exact Nat.le_add_right _ _
  have positive := List.length_pos_iff.mpr gapNonempty
  -- the division of the credential is one of those tried, so the search ends with some group
  have matched : (matchBearer header).isSome = true := by
    rw [matchBearer, if_pos (by rw [schemeUnits, bearer]), List.findSome?_isSome_iff]
    refine ⟨gap.length, List.mem_map.mpr ⟨gap.length - 1, ?_, by omega⟩, by rw [taken]; rfl⟩
    exact List.mem_reverse.mpr (List.mem_range.mpr (by omega))
  obtain ⟨group, found⟩ := Option.isSome_iff_exists.mp matched
  refine ⟨group, found, JsString.ext ?_⟩
  obtain ⟨-, spaces, -, spacesWithin, chosen⟩ := matchBearer_spec found
  have chosenUnits := congrArg JsString.units (groupAfter_eq_some.mp chosen).1
  change (header.drop 6).units.drop spaces = group.units at chosenUnits
  have whole := trimUnits_append (isSpace_of_mem_take spacesWithin)
    ((header.drop 6).units.drop spaces)
  rw [List.take_append_drop, restUnits, trimUnits_append gapSpaces] at whole
  rw [trimmed, whole, ← restUnits, chosenUnits]
  rfl

end Header

section Tokens

variable {env : AuthEnv} {hostname value token : JsString} {scope : EndpointScope}

theorem allowsLocalTestToken_iff :
    allowsLocalTestToken hostname = true ↔ unitsOf ".test" <:+ hostname.units := by
  rw [allowsLocalTestToken, Bool.or_eq_true, List.isSuffixOf_iff_suffix, beq_iff_eq]
  constructor
  · rintro (ends | named)
    · exact ends
    · rw [named]
      exact ⟨unitsOf "control-api", rfl⟩
  · exact Or.inl

theorem configuredToken_eq_some {setting : Option JsString} :
    configuredToken setting (allowsLocalTestToken hostname) = some token ↔
      ∃ value, setting = some value ∧ Configured hostname value ∧ value.trim = token := by
  cases setting with
  | none => simp [configuredToken]
  | some value =>
      rw [configuredToken, Option.map_some]
      simp only [Option.some.injEq, exists_eq_left', Configured, ← allowsLocalTestToken_iff]
      by_cases named : value.trim.units = [] ∨ value.trim.units = unitsOf "unset"
      · rw [if_pos named]
        constructor
        · exact fun found => absurd found (by simp)
        · rintro ⟨⟨nonempty, set, -⟩, -⟩
          exact absurd named (by simp [nonempty, set])
      · rw [if_neg named]
        obtain ⟨nonempty, set⟩ := not_or.mp named
        by_cases localToken : value.trim.units = unitsOf "local-test-token" ∧
            allowsLocalTestToken hostname = false
        · rw [if_pos localToken]
          constructor
          · exact fun found => absurd found (by simp)
          · rintro ⟨⟨-, -, allowed⟩, -⟩
            rw [allowed localToken.1] at localToken
            exact absurd localToken.2 (by simp)
        · rw [if_neg localToken, Option.some.injEq]
          refine ⟨fun same => ⟨⟨nonempty, set, fun isLocal => ?_⟩, same⟩, fun found => found.2⟩
          by_contra forbidden
          exact localToken ⟨isLocal, by simpa using forbidden⟩

theorem mem_pushToken {setting : Option JsString} {scopes : List TokenScope} {entry : AuthToken} :
    entry ∈ pushToken setting scopes (allowsLocalTestToken hostname) ↔
      ∃ value, setting = some value ∧ Configured hostname value ∧
        entry = ⟨value.trim, scopes⟩ := by
  rw [pushToken]
  cases found : configuredToken setting (allowsLocalTestToken hostname) with
  | none =>
      refine ⟨fun inNil => absurd inNil (by simp), ?_⟩
      rintro ⟨value, set, configured, -⟩
      rw [configuredToken_eq_some.mpr ⟨value, set, configured, rfl⟩] at found
      exact absurd found (by simp)
  | some token =>
      obtain ⟨value, set, configured, rfl⟩ := configuredToken_eq_some.mp found
      rw [List.mem_singleton]
      constructor
      · exact fun same => ⟨value, set, configured, same⟩
      · rintro ⟨other, otherSet, -, same⟩
        rw [same, Option.some.inj (otherSet.symm.trans set)]

theorem granting_iff :
    (∃ entry ∈ configuredAuthTokens env hostname, encode entry.value = encode token ∧
        (entry.scopes.contains (.endpoint scope) || entry.scopes.contains .all) = true) ↔
      ∃ value, Grants env scope value ∧ Configured hostname value ∧
        encode value.trim = encode token := by
  constructor
  · rintro ⟨entry, inTokens, same, granted⟩
    simp only [configuredAuthTokens, List.mem_append, mem_pushToken] at inTokens
    obtain ((((⟨value, set, configured, rfl⟩ | ⟨value, set, configured, rfl⟩) |
      ⟨value, set, configured, rfl⟩) | ⟨value, set, configured, rfl⟩) |
      ⟨value, set, configured, rfl⟩) | ⟨value, set, configured, rfl⟩ := inTokens
    · exact ⟨value, Or.inl set, configured, same⟩
    all_goals
      simp only [List.contains_cons, List.contains_nil, Bool.or_false, Bool.or_eq_true, beq_iff_eq,
        TokenScope.endpoint.injEq, reduceCtorEq, or_false] at granted
      subst granted
      exact ⟨value, Or.inr set, configured, same⟩
  · rintro ⟨value, granted, configured, same⟩
    simp only [configuredAuthTokens, List.mem_append, mem_pushToken]
    obtain set | set := granted
    · exact ⟨⟨value.trim, [.all]⟩, by simp [set, configured], same, by simp⟩
    · refine ⟨⟨value.trim, [.endpoint scope]⟩, ?_, same, by simp⟩
      cases scope <;> rw [tokenOf] at set <;> simp [set, configured]

theorem value_ne_nil {entry : AuthToken} (inTokens : entry ∈ configuredAuthTokens env hostname) :
    entry.value.units ≠ [] := by
  simp only [configuredAuthTokens, List.mem_append, mem_pushToken] at inTokens
  obtain ((((⟨_, _, configured, rfl⟩ | ⟨_, _, configured, rfl⟩) | ⟨_, _, configured, rfl⟩) |
    ⟨_, _, configured, rfl⟩) | ⟨_, _, configured, rfl⟩) | ⟨_, _, configured, rfl⟩ := inTokens
  all_goals exact configured.1

end Tokens

/-- `constantTimeEqual` holds for equal bytes. -/
theorem constantTimeEqual_iff {left right : JsString} :
    constantTimeEqual left right = true ↔ encode left = encode right :=
  bytesEqual_iff (length_encode_lt left) (length_encode_lt right)

theorem encode_ne_nil {string : JsString} (nonempty : string.units ≠ []) : encode string ≠ [] := by
  have chars : scalars string.units ≠ [] := by
    generalize string.units = units at nonempty
    fun_cases scalars units with
    | case1 => exact absurd rfl nonempty
    | case2 => exact List.cons_ne_nil _ _
    | case3 => exact List.cons_ne_nil _ _
    | case4 => exact List.cons_ne_nil _ _
  obtain ⟨first, others, list⟩ := List.exists_cons_of_ne_nil chars
  rw [encode, list, List.flatMap_cons]
  intro none
  have length := congrArg List.length (List.append_eq_nil_iff.mp none).1
  rw [String.length_utf8EncodeChar, List.length_nil] at length
  exact absurd length first.utf8Size_pos.ne'

section Request

variable {env : AuthEnv} {hostname token : JsString} {header : Option JsString}
  {scope : EndpointScope}

theorem refusal_eq_none {refused : Prop} [Decidable refused] {response : ErrorResponse}
    {rest : Option ErrorResponse} :
    (if refused then some response else rest) = none ↔ ¬ refused ∧ rest = none := by
  by_cases failed : refused
  · simp [failed]
  · simp [failed]

theorem authorize_of_match {group : JsString}
    (found : matchBearer (header.getD JsString.empty) = some group) :
    authorizeControlApiRequest env hostname header scope = none ↔
      ∃ entry ∈ configuredAuthTokens env hostname, encode entry.value = encode group.trim ∧
        (entry.scopes.contains (.endpoint scope) || entry.scopes.contains .all) = true := by
  rw [authorizeControlApiRequest, found]
  simp only
  constructor
  · intro passed
    obtain ⟨-, passed⟩ := refusal_eq_none.mp passed
    obtain ⟨-, passed⟩ := refusal_eq_none.mp passed
    obtain ⟨-, passed⟩ := refusal_eq_none.mp passed
    have granted := by_contra fun denied => absurd ((if_neg denied).symm.trans passed) (by simp)
    obtain ⟨entry, inMatched, scopes⟩ := List.any_eq_true.mp granted
    obtain ⟨inTokens, equal⟩ := List.mem_filter.mp inMatched
    exact ⟨entry, inTokens, constantTimeEqual_iff.mp equal, scopes⟩
  · rintro ⟨entry, inTokens, equal, scopes⟩
    have inMatched : entry ∈ (configuredAuthTokens env hostname).filter
        fun token => constantTimeEqual token.value group.trim :=
      List.mem_filter.mpr ⟨inTokens, constantTimeEqual_iff.mpr equal⟩
    have someTokens : (configuredAuthTokens env hostname).isEmpty = false :=
      List.isEmpty_eq_false_iff.mpr (List.ne_nil_of_mem inTokens)
    have someMatched := List.isEmpty_eq_false_iff.mpr (List.ne_nil_of_mem inMatched)
    -- an empty presented token has no bytes, and every configured token has some
    have presented : group.trim.units.isEmpty = false := by
      refine List.isEmpty_eq_false_iff.mpr fun none => ?_
      have noBytes : encode group.trim = [] := by rw [encode, none]; rfl
      exact encode_ne_nil (value_ne_nil inTokens) (equal.trans noBytes)
    simp only [someTokens, presented, someMatched, Bool.false_eq_true, if_false]
    exact if_pos (List.any_eq_true.mpr ⟨entry, inMatched, scopes⟩)

theorem authorize_of_no_match (unmatched : matchBearer (header.getD JsString.empty) = none) :
    authorizeControlApiRequest env hostname header scope ≠ none := by
  rw [authorizeControlApiRequest, unmatched]
  exact fun passed => absurd (refusal_eq_none.mp passed).2 (by simp)

theorem empty_not_credential : ¬ BearerCredential JsString.empty token := by
  rintro ⟨scheme, gap, credential, units, -, ⟨gapNonempty, -⟩, -⟩
  exact gapNonempty (List.append_eq_nil_iff.mp (List.append_eq_nil_iff.mp units.symm).2).1

theorem authorize_iff :
    authorizeControlApiRequest env hostname header scope = none ↔
      ∃ credential token value, header = some credential ∧ BearerCredential credential token ∧
        Grants env scope value ∧ Configured hostname value ∧
        encode value.trim = encode token := by
  constructor
  · intro passed
    cases found : matchBearer (header.getD JsString.empty) with
    | none => exact absurd passed (authorize_of_no_match found)
    | some group =>
        obtain ⟨value, granted, configured, same⟩ :=
          granting_iff.mp ((authorize_of_match found).mp passed)
        have isCredential := credential_of_matchBearer found
        cases header with
        | none => exact absurd isCredential empty_not_credential
        | some credential =>
            exact ⟨credential, _, value, rfl, isCredential, granted, configured, same⟩
  · rintro ⟨credential, token, value, rfl, isCredential, granted, configured, same⟩
    obtain ⟨group, found, trimmed⟩ := matchBearer_of_credential isCredential
    change matchBearer ((some credential).getD JsString.empty) = some group at found
    refine (authorize_of_match found).mpr (granting_iff.mpr ⟨value, granted, configured, ?_⟩)
    rw [trimmed, same]

end Request

/-- A request passes exactly when its header is a bearer credential whose trimmed token has the
bytes of the trimmed value of a configured variable that grants the scope or all scopes, and two
strings compare equal exactly when their bytes are equal. -/
theorem authorization_exact :
    (∀ (env : AuthEnv) (hostname : JsString) (header : Option JsString) (scope : EndpointScope),
      authorizeControlApiRequest env hostname header scope = none ↔
        ∃ credential token value, header = some credential ∧ BearerCredential credential token ∧
          Grants env scope value ∧ Configured hostname value ∧
          encode value.trim = encode token) ∧
    ∀ left right : JsString, constantTimeEqual left right = true ↔ encode left = encode right :=
  ⟨fun _ _ _ _ => authorize_iff, fun _ _ => constantTimeEqual_iff⟩

end SkillCentric.Properties.ControlApiAuth
