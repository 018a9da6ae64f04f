import SkillCentric.Runtime.SafetyCompiler

/-!
# The drift guard

The gate of a learned prior under a checked guard policy.  A pair matches when both contexts contain
its own and a delta of the prior is forbidden; the gate is the strongest one among the pairs that
match, and more pairs or deltas only add matches.
-/

namespace SkillCentric

namespace DriftGuard

open SafetyCompiler Stateful

variable {compiler : SafetyCompiler} {prior : JsonObject} {deltas : List Text} {pair : Json}
  {artifacts : List Text}

/-- The context of the profile has the entry. -/
def HasEntry (prior : JsonObject) (context : Text) (entry : Text × Json) : Prop :=
  (((Json.obj prior).item context).item entry.1).equal entry.2 = true

/-- A pair matches a prior that carries deltas. -/
structure Matches (prior : JsonObject) (deltas : List Text) (pair : Json) : Prop where
  positive : ∀ entry ∈ fields (pair.item "positive_context"), HasEntry prior "source_context" entry
  forbidden : ∀ entry ∈ fields (pair.item "forbidden_generalization"),
    entry.1 ≠ ("authority_delta" : Text) → HasEntry prior "target_context" entry
  delta : ∃ delta ∈ deltas, ∃ forbidden,
    (pair.item "forbidden_generalization").item "authority_delta" = .arr forbidden ∧
      .str delta ∈ forbidden

/-- The pairs of a compiler. -/
def guarded (compiler : SafetyCompiler) : List Json := pairs compiler.guardPolicy

/-- The pair expects the gate. -/
def HasGate (pair : Json) (gate : Text) : Prop := pair.item "expected_gate" = .str gate

/-- Priority of a gate, zero when it does not block. -/
def rank (gate : Text) : Nat := (priority gate).getD 0

/-- The gate is the strongest of the pairs that match. -/
def IsStrongest (compiler : SafetyCompiler) (prior : JsonObject) (deltas : List Text)
    (gate : Text) :
    Prop :=
  (∃ pair ∈ guarded compiler, Matches prior deltas pair ∧ HasGate pair gate) ∧
    ∀ pair ∈ guarded compiler, Matches prior deltas pair → ∀ other, HasGate pair other →
      rank other ≤ rank gate

/-- No pair matches. -/
def Unmatched (compiler : SafetyCompiler) (prior : JsonObject) (deltas : List Text) : Prop :=
  ∀ pair ∈ guarded compiler, ¬Matches prior deltas pair

/-- What a decision says about a prior. -/
structure Decides (compiler : SafetyCompiler) (prior : JsonObject) (deltas artifacts : List Text)
    (decision : Decision) : Prop where
  allowed : decision.automaticPromotionAllowed = true ↔
    deltas = [] ∨ Unmatched compiler prior deltas ∧ ∃ artifact ∈ artifacts, strip artifact ≠ []
  blocked : decision.automaticPromotionAllowed = false →
    IsStrongest compiler prior deltas decision.decision ∨
      Unmatched compiler prior deltas ∧ decision.decision = "reject"

/-- What holds of every pair of an accepted policy. -/
structure Checked (pair : Json) : Prop where
  isMapping : pair.isMapping = true
  delta : ∃ forbidden,
    (pair.item "forbidden_generalization").item "authority_delta" = .arr forbidden
  gate : ∃ gate ∈ blockingGates, HasGate pair gate

theorem failureIf_eq_nil {condition : Bool} {failure : Text} :
    failureIf condition failure = [] ↔ condition = false := by
  cases condition with
  | true => simp [failureIf]
  | false => simp [failureIf]

theorem isOneOf_ok {value : Json} {allowed : List Text}
    (listed : value.isOneOf allowed = .ok true) :
    ∃ text ∈ allowed, value = .str text := by
  cases value with
  | str text =>
      refine ⟨text, ?_, rfl⟩
      simpa [Json.isOneOf] using listed
  | _ => cases listed

theorem checked_of_pairFailures (clean : pairFailures pair = .ok []) : Checked pair := by
  unfold pairFailures at clean
  split_ifs at clean with mapping
  · simp only at clean
    split_ifs at clean with forbidden
    · obtain ⟨unknown, deltas, clean⟩ := bind_eq_ok.mp clean
      obtain ⟨blocking, gate, clean⟩ := bind_eq_ok.mp clean
      obtain ⟨rfl, blocks⟩ := List.append_eq_nil_iff.mp (Except.ok.inj clean)
      rw [failureIf_eq_nil, Bool.not_eq_false'] at blocks
      subst blocks
      refine ⟨mapping, ?_, isOneOf_ok gate⟩
      cases delta : (pair.item "forbidden_generalization").item "authority_delta" with
      | arr listed => exact ⟨listed, rfl⟩
      | _ =>
          rw [delta] at deltas
          cases deltas
    · cases clean
  · cases clean

variable {items : List Json} {found : List (Text × Text)}

theorem checked_of_pairsFailures (clean : pairsFailures (.arr items) = .ok []) :
    ∀ pair ∈ items, Checked pair := by
  cases items with
  | nil => cases clean
  | cons first rest =>
      obtain ⟨results, passed, clean⟩ := bind_eq_ok.mp clean
      have empty : ∀ result ∈ results, result = [] :=
        List.flatten_eq_nil_iff.mp (Except.ok.inj clean)
      intro pair listed
      obtain ⟨result, member, checked⟩ := mem_of_mapM_ok passed pair listed
      rw [empty result member] at checked
      exact checked_of_pairFailures checked

theorem checked_of_guarded (listed : pair ∈ guarded compiler) : Checked pair := by
  have valid := compiler.valid
  unfold validateGuardPolicy at valid
  obtain ⟨_, -, valid⟩ := bind_eq_ok.mp valid
  obtain ⟨failures, clean, valid⟩ := bind_eq_ok.mp valid
  obtain ⟨-, rfl⟩ := List.append_eq_nil_iff.mp (Except.ok.inj valid)
  unfold guarded pairs Json.item at listed
  unfold Json.item at clean
  cases stored : (Json.obj compiler.guardPolicy).get? "contrastive_pairs" with
  | none =>
      rw [stored] at clean
      cases clean
  | some value =>
      rw [stored] at listed clean
      cases value with
      | arr items => exact checked_of_pairsFailures clean pair (List.mem_filter.mp listed).1
      | _ => cases clean

@[simp]
theorem fields_mapping (value : Json) : fields (mapping value) = fields value := by
  cases value with
  | obj entries => rfl
  | _ => rfl

@[simp]
theorem item_mapping (value : Json) (key : Text) : (mapping value).item key = value.item key := by
  cases value with
  | obj entries => rfl
  | _ => rfl

theorem contextContains_iff {context : Text} {expected : JsonObject} :
    contextContains (mapping ((Json.obj prior).item context)) expected = true ↔
      ∀ entry ∈ expected, HasEntry prior context entry := by
  simp only [contextContains, List.all_eq_true, item_mapping, HasEntry]

theorem mem_deltaTexts {delta : Text} :
    delta ∈ deltaTexts items ↔ .str delta ∈ items := by
  rw [deltaTexts, List.mem_filterMap]
  constructor
  · rintro ⟨item, listed, text⟩
    cases item with
    | str other =>
        cases text
        exact listed
    | _ => cases text
  · exact fun listed => ⟨.str delta, listed, rfl⟩

theorem pairMatches_ok (checked : Checked pair) :
    ∃ found,
      pairMatches prior deltas pair = .ok found ∧ (found = true ↔ Matches prior deltas pair) := by
  obtain ⟨forbidden, listed⟩ := checked.delta
  have iterated : ((mapping (pair.item "forbidden_generalization")).item "authority_delta"
      (.arr [])).iterate = .ok forbidden := by
    rw [Json.item_default (.arr []) ((item_mapping _ _).trans listed) nofun]
    rfl
  refine ⟨_, by rw [pairMatches, iterated]; rfl, ?_⟩
  simp only [Bool.and_eq_true, contextContains_iff, fields_mapping, List.any_eq_true,
    List.contains_iff_mem, mem_deltaTexts, List.mem_filter, decide_eq_true_eq]
  constructor
  · rintro ⟨⟨positive, context⟩, delta, carried, known⟩
    exact ⟨positive, fun entry member other => context entry ⟨member, other⟩,
      delta, carried, forbidden, listed, known⟩
  · rintro ⟨positive, context, delta, carried, others, same, known⟩
    rw [listed] at same
    cases same
    exact ⟨⟨positive, fun entry member => context entry member.1 member.2⟩, delta, carried, known⟩

theorem Matches.mono {grown : JsonObject} {more : List Text} (hits : Matches prior deltas pair)
    (source : (Json.obj grown).item "source_context" = (Json.obj prior).item "source_context")
    (target : (Json.obj grown).item "target_context" = (Json.obj prior).item "target_context")
    (within : ∀ delta ∈ deltas, delta ∈ more) : Matches grown more pair := by
  obtain ⟨positive, forbidden, delta, carried, known⟩ := hits
  refine ⟨fun entry member => ?_, fun entry member other => ?_, delta, within delta carried, known⟩
  · rw [HasEntry, source]
    exact positive entry member
  · rw [HasEntry, target]
    exact forbidden entry member other

theorem hasGate_iff (checked : Checked pair) {own : Text × Text} (read : matchOf pair = .ok own)
    {gate : Text} : HasGate pair gate ↔ gate = own.2 := by
  obtain ⟨known, -, gated⟩ := checked.gate
  obtain ⟨_, -, read⟩ := bind_eq_ok.mp read
  obtain ⟨value, found, read⟩ := bind_eq_ok.mp read
  cases read
  rw [RuntimeProfileComposer.subscript, Json.get?_of_item gated nofun] at found
  cases found
  rw [HasGate, show pair.item "expected_gate" = .str known from gated, Json.str.injEq]
  exact eq_comm

theorem matchOf_total (checked : Checked pair) (named : (pair.get? "pair_id").isSome) :
    ∃ own, matchOf pair = .ok own := by
  obtain ⟨known, -, gated⟩ := checked.gate
  obtain ⟨id, found⟩ := Option.isSome_iff_exists.mp named
  unfold matchOf RuntimeProfileComposer.subscript
  rw [found, Json.get?_of_item gated nofun]
  exact ⟨_, rfl⟩

theorem matchesAmong_ok {among : List Json} (checked : ∀ pair ∈ among, Checked pair)
    {found : List (Text × Text)} (passed : matchesAmong prior deltas among = .ok found)
    (gate : Text) :
    gate ∈ found.map Prod.snd ↔ ∃ pair ∈ among, Matches prior deltas pair ∧ HasGate pair gate := by
  induction among generalizing found with
  | nil =>
      cases passed
      simp
  | cons pair rest ih =>
      have rest_checked := fun other listed => checked other (List.mem_cons_of_mem _ listed)
      obtain ⟨hit, matched, hit_iff⟩ :=
        @pairMatches_ok prior deltas pair (checked pair List.mem_cons_self)
      simp only [List.mem_cons, exists_eq_or_imp, ← hit_iff]
      unfold matchesAmong at passed
      rw [matched] at passed
      cases hit with
      | false => simpa using ih rest_checked passed
      | true =>
          have passed :
              (matchOf pair >>= fun own => matchesAmong prior deltas rest >>= fun others =>
              pure (own :: others)) = .ok found := passed
          obtain ⟨first, own, passed⟩ := bind_eq_ok.mp passed
          obtain ⟨others, later, passed⟩ := bind_eq_ok.mp passed
          cases passed
          rw [List.map_cons, List.mem_cons, ih rest_checked later,
            hasGate_iff (checked pair List.mem_cons_self) own]
          simp

theorem matchesAmong_total {among : List Json} (checked : ∀ pair ∈ among, Checked pair)
    (named : ∀ pair ∈ among, Matches prior deltas pair → (pair.get? "pair_id").isSome) :
    ∃ found, matchesAmong prior deltas among = .ok found := by
  induction among with
  | nil => exact ⟨[], rfl⟩
  | cons pair rest ih =>
      obtain ⟨found, later⟩ := ih
        (fun other listed => checked other (List.mem_cons_of_mem _ listed))
        (fun other listed => named other (List.mem_cons_of_mem _ listed))
      obtain ⟨hit, matched, hit_iff⟩ :=
        @pairMatches_ok prior deltas pair (checked pair List.mem_cons_self)
      unfold matchesAmong
      rw [matched]
      cases hit with
      | false => exact ⟨found, later⟩
      | true =>
          obtain ⟨own, owned⟩ := matchOf_total (checked pair List.mem_cons_self)
            (named pair List.mem_cons_self (hit_iff.mp rfl))
          refine ⟨own :: found, ?_⟩
          change (matchOf pair >>= fun own => matchesAmong prior deltas rest >>= fun others =>
            pure (own :: others)) = _
          rw [owned, later]
          rfl

theorem foldl_stronger (first : Text × Nat) (rest : List (Text × Nat)) :
    rest.foldl stronger first ∈ first :: rest ∧
      ∀ other ∈ first :: rest, other.2 ≤ (rest.foldl stronger first).2 := by
  induction rest generalizing first with
  | nil => simp
  | cons next rest ih =>
      obtain ⟨member, greatest⟩ := ih (stronger first next)
      have own : stronger first next = first ∨ stronger first next = next := by
        unfold stronger
        split_ifs
        · exact .inr rfl
        · exact .inl rfl
      have above : first.2 ≤ (stronger first next).2 ∧ next.2 ≤ (stronger first next).2 := by
        unfold stronger
        split_ifs with less
        · exact ⟨less.le, le_rfl⟩
        · exact ⟨le_rfl, not_lt.mp less⟩
      have top := greatest _ List.mem_cons_self
      rw [List.foldl_cons]
      refine ⟨?_, fun other listed => ?_⟩
      · rcases List.mem_cons.mp member with same | listed
        · rw [same]
          rcases own with first_kept | next_kept
          · rw [first_kept]
            exact List.mem_cons_self
          · rw [next_kept]
            exact List.mem_cons_of_mem _ List.mem_cons_self
        · exact List.mem_cons_of_mem _ (List.mem_cons_of_mem _ listed)
      · rcases List.mem_cons.mp listed with rfl | listed
        · exact above.1.trans top
        · rcases List.mem_cons.mp listed with rfl | listed
          · exact above.2.trans top
          · exact greatest other (List.mem_cons_of_mem _ listed)

theorem priority_of_blocking : ∀ gate ∈ blockingGates, priority gate = some (rank gate) := by decide

theorem strongestGate_ok {gates : List Text} (gates_ne : gates ≠ [])
    (blocking : ∀ gate ∈ gates, gate ∈ blockingGates) :
    ∃ gate ∈ gates, strongestGate gates = .ok gate ∧ ∀ other ∈ gates, rank other ≤ rank gate := by
  have all_ranked : gates.mapM ranked = .ok (gates.map fun gate => (gate, rank gate)) := by
    refine mapM_ok fun gate listed => ?_
    rw [ranked, priority_of_blocking gate (blocking gate listed)]
  obtain ⟨first, rest, rfl⟩ := List.exists_cons_of_ne_nil gates_ne
  obtain ⟨member, greatest⟩ :=
    foldl_stronger (first, rank first) (rest.map fun gate => (gate, rank gate))
  obtain ⟨gate, listed, same⟩ := List.mem_map.mp
    (show _ ∈ (first :: rest).map fun gate => (gate, rank gate) from member)
  refine ⟨gate, listed, ?_, fun other among => ?_⟩
  · rw [strongestGate, all_ranked]
    change Except.ok ((rest.map fun gate => (gate, rank gate)).foldl stronger
      (first, rank first)).1 = _
    rw [← same]
  · have listed : (other, rank other) ∈ (first :: rest).map fun gate => (gate, rank gate) :=
      List.mem_map.mpr ⟨other, among, rfl⟩
    have below := greatest _ listed
    rw [← same] at below
    exact below

private theorem mem_sortedTexts {texts : List Text} {text : Text} :
    text ∈ sortedTexts texts ↔ text ∈ texts := by
  rw [sortedTexts, (List.perm_insertionSort _ _).mem_iff, List.mem_eraseDups]

theorem reviewedArtifacts_eq_nil :
    reviewedArtifacts artifacts = [] ↔ ¬∃ artifact ∈ artifacts, strip artifact ≠ [] := by
  rw [List.eq_nil_iff_forall_not_mem]
  simp only [reviewedArtifacts, mem_sortedTexts, List.mem_filter, List.mem_map, decide_eq_true_eq,
    not_and, not_not, not_exists]
  constructor
  · intro blank artifact listed
    exact blank _ ⟨artifact, listed, rfl⟩
  · rintro blank _ ⟨artifact, listed, rfl⟩
    exact blank artifact listed

theorem matchingPairs_gates
    (passed : compiler.matchingPairs prior deltas = .ok found) (gate : Text) :
    gate ∈ found.map Prod.snd ↔
      ∃ pair ∈ guarded compiler, Matches prior deltas pair ∧ HasGate pair gate :=
  matchesAmong_ok (fun _ listed => checked_of_guarded listed) passed gate

theorem matchingPairs_eq_nil (passed : compiler.matchingPairs prior deltas = .ok found) :
    found = [] ↔ Unmatched compiler prior deltas := by
  rw [← List.map_eq_nil_iff (f := Prod.snd), List.eq_nil_iff_forall_not_mem]
  simp only [matchingPairs_gates passed, not_exists, not_and]
  constructor
  · intro none pair listed hits
    obtain ⟨gate, -, gated⟩ := (checked_of_guarded listed).gate
    exact none gate pair listed hits gated
  · exact fun unmatched gate pair listed hits => (unmatched pair listed hits).elim

theorem strongest_of_found
    (passed : compiler.matchingPairs prior deltas = .ok found) (found_ne : found ≠ []) :
    ∃ gate, strongestGate (found.map Prod.snd) = .ok gate ∧
      IsStrongest compiler prior deltas gate := by
  have blocking : ∀ gate ∈ found.map Prod.snd, gate ∈ blockingGates := by
    intro gate listed
    obtain ⟨pair, among, -, gated⟩ := (matchingPairs_gates passed gate).mp listed
    obtain ⟨known, blocks, own⟩ := (checked_of_guarded among).gate
    cases gated.symm.trans own
    exact blocks
  obtain ⟨gate, listed, chosen, greatest⟩ :=
    strongestGate_ok (List.map_eq_nil_iff.not.mpr found_ne) blocking
  refine ⟨gate, chosen, (matchingPairs_gates passed gate).mp listed, ?_⟩
  intro pair among hits other gated
  exact greatest other ((matchingPairs_gates passed other).mpr ⟨pair, among, hits, gated⟩)

theorem decides_unmatched (deltas_ne : deltas ≠ []) (unmatched : Unmatched compiler prior deltas) :
    Decides compiler prior deltas artifacts
      (unmatchedDecision deltas (reviewedArtifacts artifacts)) := by
  unfold unmatchedDecision
  split_ifs with unreviewed
  · refine ⟨⟨nofun, ?_⟩, fun _ => .inr ⟨unmatched, rfl⟩⟩
    rintro (none | ⟨-, reviewed⟩)
    · exact (deltas_ne none).elim
    · exact (reviewedArtifacts_eq_nil.mp unreviewed reviewed).elim
  · have reviewed := not_not.mp (reviewedArtifacts_eq_nil.not.mp unreviewed)
    exact ⟨⟨fun _ => .inr ⟨unmatched, reviewed⟩, fun _ => rfl⟩, nofun⟩

theorem decides_matched (deltas_ne : deltas ≠ [])
    (passed : compiler.matchingPairs prior deltas = .ok found) (found_ne : found ≠ []) :
    ∃ decision, matchedDecision found deltas (reviewedArtifacts artifacts) = .ok decision ∧
      Decides compiler prior deltas artifacts decision := by
  obtain ⟨gate, chosen, strongest⟩ := strongest_of_found passed found_ne
  refine ⟨_, by rw [matchedDecision, chosen]; rfl, ?_⟩
  refine ⟨⟨nofun, ?_⟩, fun _ => .inl strongest⟩
  rintro (none | ⟨unmatched, -⟩)
  · exact (deltas_ne none).elim
  · exact (found_ne ((matchingPairs_eq_nil passed).mpr unmatched)).elim

theorem decides_of_compiled {decision : Decision}
    (compiled : compiler.compileLearnedAuthorityPrior prior artifacts = .ok decision) :
    ∃ deltas,
      carriedDelta prior = .ok deltas ∧ Decides compiler prior deltas artifacts decision := by
  obtain ⟨deltas, carried, compiled⟩ := bind_eq_ok.mp compiled
  refine ⟨deltas, carried, ?_⟩
  simp only at compiled
  by_cases ranking : deltas = []
  · rw [if_pos ranking] at compiled
    cases compiled
    exact ⟨⟨fun _ => .inl ranking, fun _ => rfl⟩, nofun⟩
  · rw [if_neg ranking] at compiled
    obtain ⟨found, passed, compiled⟩ := bind_eq_ok.mp compiled
    by_cases none_found : found = []
    · rw [if_pos none_found] at compiled
      cases compiled
      exact decides_unmatched ranking ((matchingPairs_eq_nil passed).mp none_found)
    · rw [if_neg none_found] at compiled
      obtain ⟨other, decided, decides⟩ :=
        @decides_matched _ _ _ artifacts _ ranking passed none_found
      cases compiled.symm.trans decided
      exact decides

theorem compiled_of_iterable
    (iterable : ((Json.obj prior).item "authority_delta" (.arr [])).iterate = .ok items)
    (named : ∀ pair ∈ guarded compiler, (pair.get? "pair_id").isSome) :
    ∃ decision, compiler.compileLearnedAuthorityPrior prior artifacts = .ok decision := by
  obtain ⟨deltas, carried⟩ : ∃ deltas, carriedDelta prior = .ok deltas := by
    rw [carriedDelta, iterable]
    exact ⟨_, rfl⟩
  obtain ⟨found, passed⟩ := @matchesAmong_total prior deltas (guarded compiler)
    (fun _ listed => checked_of_guarded listed) (fun pair listed _ => named pair listed)
  have passed : compiler.matchingPairs prior deltas = .ok found := passed
  unfold compileLearnedAuthorityPrior
  simp only [carried, bind, Except.bind]
  by_cases ranking : deltas = []
  · rw [if_pos ranking]
    exact ⟨_, rfl⟩
  · rw [if_neg ranking, passed]
    by_cases none_found : found = []
    · exact ⟨_, if_pos none_found⟩
    · obtain ⟨decision, decided, -⟩ := @decides_matched _ _ _ artifacts _ ranking passed none_found
      exact ⟨decision, (if_neg none_found).trans decided⟩

/-- A prior with the contexts of another and all of its deltas. -/
structure Grows (prior grown : JsonObject) : Prop where
  source : (Json.obj grown).item "source_context" = (Json.obj prior).item "source_context"
  target : (Json.obj grown).item "target_context" = (Json.obj prior).item "target_context"
  deltas : ∀ before after, carriedDelta prior = .ok before → carriedDelta grown = .ok after →
    ∀ delta ∈ before, delta ∈ after

theorem Decides.mono {wider : SafetyCompiler} {grown : JsonObject} {more : List Text}
    {decision later : Decision} (decides : Decides compiler prior deltas artifacts decision)
    (decides_later : Decides wider grown more artifacts later)
    (pairs_kept : ∀ pair ∈ guarded compiler, pair ∈ guarded wider)
    (hits_kept : ∀ pair, Matches prior deltas pair → Matches grown more pair)
    (deltas_kept : ∀ delta ∈ deltas, delta ∈ more)
    (blocked : decision.automaticPromotionAllowed = false) :
    later.automaticPromotionAllowed = false ∧
      (¬Unmatched compiler prior deltas → rank decision.decision ≤ rank later.decision) := by
  have unmatched_before (unmatched : Unmatched wider grown more) :
      Unmatched compiler prior deltas :=
    fun pair listed hits => unmatched pair (pairs_kept pair listed) (hits_kept pair hits)
  have blocked_later : later.automaticPromotionAllowed = false := by
    by_contra allowed
    have still : decision.automaticPromotionAllowed = true := by
      refine decides.allowed.mpr ?_
      rcases decides_later.allowed.mp (Bool.of_not_eq_false allowed) with none
        | ⟨unmatched, reviewed⟩
      · exact .inl (List.eq_nil_iff_forall_not_mem.mpr fun delta carried => by
          have later_carried := deltas_kept delta carried
          rw [none] at later_carried
          cases later_carried)
      · exact .inr ⟨unmatched_before unmatched, reviewed⟩
    rw [blocked] at still
    cases still
  refine ⟨blocked_later, fun matched => ?_⟩
  rcases decides.blocked blocked with ⟨⟨pair, listed, hits, gated⟩, -⟩ | ⟨unmatched, -⟩
  · rcases decides_later.blocked blocked_later with ⟨-, strongest⟩ | ⟨unmatched, -⟩
    · exact strongest pair (pairs_kept pair listed) (hits_kept pair hits) _ gated
    · exact (matched (unmatched_before unmatched)).elim
  · exact (matched unmatched).elim

/-- A decision is returned for an authority delta that can be iterated.  It allows promotion exactly
when no delta is carried, or no pair matches and an artifact was reviewed.  What is blocked has the
strongest gate of the matching pairs, or is rejected without one.  More pairs and deltas keep it
blocked, and keep its gate at least as strong once a pair has matched. -/
theorem drift_guard (compiler : SafetyCompiler) (prior : JsonObject) (artifacts : List Text) :
    (∀ items, ((Json.obj prior).item "authority_delta" (.arr [])).iterate = .ok items →
      (∀ pair ∈ guarded compiler, (pair.get? "pair_id").isSome) →
        ∃ decision, compiler.compileLearnedAuthorityPrior prior artifacts = .ok decision) ∧
    ∀ decision, compiler.compileLearnedAuthorityPrior prior artifacts = .ok decision →
      ∃ deltas, carriedDelta prior = .ok deltas ∧ Decides compiler prior deltas artifacts decision ∧
        ∀ wider grown later, (∀ pair ∈ guarded compiler, pair ∈ guarded wider) → Grows prior grown →
          wider.compileLearnedAuthorityPrior grown artifacts = .ok later →
          decision.automaticPromotionAllowed = false →
            later.automaticPromotionAllowed = false ∧
              (¬Unmatched compiler prior deltas →
                rank decision.decision ≤ rank later.decision) := by
  refine ⟨fun items iterable named => compiled_of_iterable iterable named, ?_⟩
  intro decision compiled
  obtain ⟨deltas, carried, decides⟩ := decides_of_compiled compiled
  refine ⟨deltas, carried, decides, ?_⟩
  intro wider grown later pairs_kept grows compiled_later
  obtain ⟨more, carried_later, decides_later⟩ := decides_of_compiled compiled_later
  have deltas_kept := grows.deltas deltas more carried carried_later
  exact decides.mono decides_later pairs_kept
    (fun pair hits => hits.mono grows.source grows.target deltas_kept) deltas_kept

def samplePair (gate delta : Text) : Json :=
  .obj [("pair_id", .str "staging-to-prod"), ("positive_context", .obj []),
    ("forbidden_generalization", .obj [("authority_delta", .arr [.str delta])]),
    ("expected_gate", .str gate)]

def samplePolicy (pairs : List Json) : JsonObject :=
  [("guard_id", .str "semantic-drift-guard"),
    ("authority_invariant", .str "learned_context_not_authority"),
    ("default_on_match", .str "reject"), ("contrastive_pairs", .arr pairs)]

def narrow : SafetyCompiler where
  guardPolicy := samplePolicy [samplePair "reject" "tool_addition"]
  valid := by decide

def wide : SafetyCompiler where
  guardPolicy := samplePolicy
    [samplePair "reject" "tool_addition", samplePair "freeze_prior" "budget_increase"]
  valid := by decide

/-- A prior that asks for a larger budget. -/
def samplePrior : JsonObject := [("authority_delta", .arr [.str "budget_increase"])]

theorem unreviewed_budget_rejected :
    ∃ deltas, carriedDelta samplePrior = .ok deltas ∧
      Decides narrow samplePrior deltas [] (unmatchedDecision ["budget_increase"] []) := by
  obtain ⟨deltas, carried, decides, -⟩ := (drift_guard narrow samplePrior []).2 _ rfl
  exact ⟨deltas, carried, decides⟩

/-- One more pair turns the rejection of an unreviewed prior into a freeze. -/
theorem added_pair_weakens :
    ¬∀ (compiler wider : SafetyCompiler) (prior : JsonObject) (artifacts : List Text)
      (decision later : Decision), (∀ pair ∈ guarded compiler, pair ∈ guarded wider) →
      compiler.compileLearnedAuthorityPrior prior artifacts = .ok decision →
      wider.compileLearnedAuthorityPrior prior artifacts = .ok later →
      decision.automaticPromotionAllowed = false →
        rank decision.decision ≤ rank later.decision := by
  intro keeps
  have kept := keeps narrow wide samplePrior [] _ _ (by decide) rfl rfl rfl
  exact absurd kept (by decide)

end DriftGuard

end SkillCentric
