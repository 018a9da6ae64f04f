import SkillCentric.Runtime.MemoryCandidates

/-!
# The safety compiler

`SafetyCompiler`: a guard policy of contrastive pairs, checked when the compiler is made, and the
gate of a learned prior that carries an authority delta.
-/

namespace SkillCentric

/-- `BLOCKING_GATES`. -/
def blockingGates : List Text :=
  ["freeze_prior", "needs_human_review", "needs_more_evidence", "reject"]

/-- `AUTHORITY_DELTAS`. -/
def authorityDeltas : List Text :=
  ["tool_addition", "scope_expansion", "budget_increase", "validator_removal",
    "failure_mode_relaxation", "policy_exception", "data_access_expansion",
    "memory_scope_expansion", "knowledge_scope_expansion"]

namespace SafetyCompiler

/-- `_mapping`. -/
def mapping (value : Json) : Json := if value.isMapping then value else .obj []

/-- The fields of a mapping. -/
def fields : Json → JsonObject
  | .obj fields => fields
  | _ => []

/-- `{str(delta) for delta in items if isinstance(delta, str)}`. -/
def deltaTexts (items : List Json) : List Text :=
  items.filterMap fun
    | .str delta => some delta
    | _ => none

/-- `any(delta not in AUTHORITY_DELTAS for delta in deltas)`. -/
def anyUnknown : List Json → Except PyError Bool
  | [] => .ok false
  | delta :: rest => do
      if ← delta.isOneOf authorityDeltas then anyUnknown rest else .ok true

/-- A failure when a condition holds. -/
def failureIf (condition : Bool) (failure : Text) : List Text := if condition then [failure] else []

/-- The failures of the authority delta of a pair. -/
def deltaFailures (pairId : Text) : Json → Except PyError (List Text)
  | .arr (delta :: deltas) => do
      return failureIf (← anyUnknown (delta :: deltas))
        (pairId ++ (": unknown authority_delta" : Text))
  | _ => .ok [pairId ++ (": authority_delta missing" : Text)]

/-- The failures of a contrastive pair. -/
def pairFailures (pair : Json) : Except PyError (List Text) :=
  if pair.isMapping then
    let pairId := (pair.item "pair_id" (.str "<unknown>")).pyStr
    let forbidden := pair.item "forbidden_generalization"
    if forbidden.isMapping then do
      let unknown ← deltaFailures pairId (forbidden.item "authority_delta")
      let blocking ← (pair.item "expected_gate").isOneOf blockingGates
      return unknown ++ failureIf (!blocking) (pairId ++ (": non-blocking gate" : Text))
    else .ok [pairId ++ (": forbidden boundary missing" : Text)]
  else .ok ["each contrastive pair must be an object"]

/-- The failures of the contrastive pairs. -/
def pairsFailures : Json → Except PyError (List Text)
  | .arr (pair :: pairs) => do return (← (pair :: pairs).mapM pairFailures).flatten
  | _ => .ok ["contrastive_pairs must be a non-empty array"]

/-- `_validate_guard_policy`. -/
def validateGuardPolicy (guard : JsonObject) : Except PyError (List Text) := do
  let blocking ← ((Json.obj guard).item "default_on_match").isOneOf blockingGates
  let failures ← pairsFailures ((Json.obj guard).item "contrastive_pairs")
  return failureIf (!((Json.obj guard).item "guard_id").equal (.str "semantic-drift-guard"))
      "guard_id must be semantic-drift-guard" ++
    failureIf (!((Json.obj guard).item "authority_invariant").equal
        (.str "learned_context_not_authority"))
      "authority_invariant must be learned_context_not_authority" ++
    failureIf (!blocking) "default_on_match must be a blocking gate" ++ failures

end SafetyCompiler

/-- `SafetyCompiler`: a guard policy without failures. -/
structure SafetyCompiler where
  guardPolicy : JsonObject
  valid : SafetyCompiler.validateGuardPolicy guardPolicy = .ok []

namespace SafetyCompiler

/-- `SafetyCompilerDecision`, with the fields that promotion does not read. -/
structure Decision extends SafetyCompilerDecision where
  authorityDelta : List Text
  reviewedPolicyArtifacts : List Text
  reason : Text

/-- `_context_contains`. -/
def contextContains (actual : Json) (expected : JsonObject) : Bool :=
  expected.all fun entry => (actual.item entry.1).equal entry.2

/-- A pair matches a prior with authority deltas. -/
def pairMatches (prior : JsonObject) (deltas : List Text) (pair : Json) : Except PyError Bool := do
  let positive := mapping (pair.item "positive_context")
  let forbidden := mapping (pair.item "forbidden_generalization")
  let forbiddenDeltas := deltaTexts (← (forbidden.item "authority_delta" (.arr [])).iterate)
  let forbiddenContext :=
    (fields forbidden).filter fun entry => entry.1 ≠ ("authority_delta" : Text)
  return contextContains (mapping ((Json.obj prior).item "source_context")) (fields positive) &&
    contextContains (mapping ((Json.obj prior).item "target_context")) forbiddenContext &&
    deltas.any forbiddenDeltas.contains

/-- The identifier and the gate of a pair. -/
def matchOf (pair : Json) : Except PyError (Text × Text) := do
  let pairId ← RuntimeProfileComposer.subscript pair "pair_id"
  let gate ← RuntimeProfileComposer.subscript pair "expected_gate"
  return (pairId.pyStr, gate.pyStr)

/-- The contrastive pairs that are looked at. -/
def pairs (guardPolicy : JsonObject) : List Json :=
  match (Json.obj guardPolicy).item "contrastive_pairs" (.arr []) with
  | .arr pairs => pairs.filter Json.isMapping
  | _ => []

/-- The loop of `_matching_pairs`. -/
def matchesAmong (prior : JsonObject) (deltas : List Text) :
    List Json → Except PyError (List (Text × Text))
  | [] => .ok []
  | pair :: rest => do
      if ← pairMatches prior deltas pair then
        let found ← matchOf pair
        return found :: (← matchesAmong prior deltas rest)
      else matchesAmong prior deltas rest

/-- `_matching_pairs`. -/
def matchingPairs (compiler : SafetyCompiler) (prior : JsonObject) (deltas : List Text) :
    Except PyError (List (Text × Text)) :=
  matchesAmong prior deltas (pairs compiler.guardPolicy)

/-- `priority[gate]`. -/
def priority (gate : Text) : Option Nat :=
  if gate = ("freeze_prior" : Text) then some 1
  else if gate = ("needs_more_evidence" : Text) then some 2
  else if gate = ("needs_human_review" : Text) then some 3
  else if gate = ("reject" : Text) then some 4
  else none

/-- A gate with `priority[gate]`. -/
def ranked (gate : Text) : Except PyError (Text × Nat) :=
  match priority gate with
  | some rank => .ok (gate, rank)
  | none => .error (RuntimeProfileComposer.keyError gate)

/-- The stronger of two ranked gates, the first one when they are equal. -/
def stronger (best next : Text × Nat) : Text × Nat := if best.2 < next.2 then next else best

/-- `_strongest_gate`. -/
def strongestGate (gates : List Text) : Except PyError Text := do
  match ← gates.mapM ranked with
  | [] => .error ⟨.valueError, "max() arg is an empty sequence", none⟩
  | first :: rest => return (rest.foldl stronger first).1

/-- `sorted(set(texts))`. -/
def sortedTexts (texts : List Text) : List Text := texts.eraseDups.insertionSort (· ≤ ·)

/-- The authority delta that a prior carries. -/
def carriedDelta (prior : JsonObject) : Except PyError (List Text) := do
  return sortedTexts (deltaTexts (← ((Json.obj prior).item "authority_delta" (.arr [])).iterate))

/-- The artifacts that are not blank. -/
def reviewedArtifacts (artifacts : List Text) : List Text :=
  sortedTexts ((artifacts.map strip).filter (· ≠ []))

/-- The decision on a prior without an authority delta. -/
def rankingDecision (reviewedArtifacts : List Text) : Decision where
  decision := "allow_ranking_only"
  automaticPromotionAllowed := true
  matchedPairIds := []
  authorityDelta := []
  reviewedPolicyArtifacts := reviewedArtifacts
  reason := "Learned context changes ranking only and carries no authority delta."

/-- The decision on a prior that some pairs match. -/
def matchedDecision (matchedPairs : List (Text × Text))
    (authorityDelta reviewedArtifacts : List Text) :
    Except PyError Decision := do
  return {
    decision := ← strongestGate (matchedPairs.map Prod.snd)
    automaticPromotionAllowed := false
    matchedPairIds := matchedPairs.map Prod.fst
    authorityDelta
    reviewedPolicyArtifacts := reviewedArtifacts
    reason := "Learned authority delta matches a forbidden contrastive boundary." }

/-- The decision on a prior that no pair matches. -/
def unmatchedDecision (authorityDelta reviewedArtifacts : List Text) : Decision :=
  if reviewedArtifacts = [] then {
    decision := "reject"
    automaticPromotionAllowed := false
    matchedPairIds := []
    authorityDelta
    reviewedPolicyArtifacts := []
    reason := "Learned authority delta has no reviewed policy artifact." }
  else {
    decision := "allow_ranking_only"
    automaticPromotionAllowed := true
    matchedPairIds := []
    authorityDelta
    reviewedPolicyArtifacts := reviewedArtifacts
    reason := ("Authority delta is bound to reviewed policy artifacts; learned context remains " :
      Text) ++ ("ranking-only." : Text) }

/-- `compile_learned_authority_prior`. -/
def compileLearnedAuthorityPrior (compiler : SafetyCompiler) (prior : JsonObject)
    (reviewedPolicyArtifacts : List Text) : Except PyError Decision := do
  let authorityDelta ← carriedDelta prior
  let reviewedArtifacts := reviewedArtifacts reviewedPolicyArtifacts
  if authorityDelta = [] then
    return rankingDecision reviewedArtifacts
  else
    let matchedPairs ← compiler.matchingPairs prior authorityDelta
    if matchedPairs = [] then
      return unmatchedDecision authorityDelta reviewedArtifacts
    else
      matchedDecision matchedPairs authorityDelta reviewedArtifacts

end SafetyCompiler

end SkillCentric
