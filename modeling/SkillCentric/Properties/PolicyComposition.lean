import SkillCentric.Properties.ComposerAgreement

/-!
# Policy decisions at composition

The composer looks a module up in a map of the decisions by name, in which a later decision replaces
an earlier one, and tolerates a candidate without a decision.  So a composed profile is closed under
the decisions exactly when every candidate tool has one and decisions on the same module agree.
-/

namespace SkillCentric

open RuntimeProfileComposer RuntimeProfileEnforcer Stateful

namespace PolicyComposition

/-- A decision of the response on a module. -/
def Decision (context : JsonObject) (name : Text) (decision : Json) : Prop :=
  decision ∈ policyDecisions context ∧ decides name decision = true

/-- Every decision on the module allows it. -/
def Allowed (context : JsonObject) (name : Text) : Prop :=
  ∀ decision, Decision context name decision → decision.item "effect" = .str "allow"

/-- Every tool of the profile has an allowing decision and no other, and no candidate module in the
profile has a decision that does not allow it. -/
structure Closed (context profile : JsonObject) : Prop where
  tools : ∀ items, (Json.obj profile).item "tools" = .arr items → ∀ tool, .str tool ∈ items →
    (∃ decision, Decision context tool decision ∧ decision.item "effect" = .str "allow") ∧
      Allowed context tool
  candidates : ∀ reference ∈ references context "candidate_modules", ∀ name,
    reference.item "name" = .str name → name ∈ selectedModules profile → Allowed context name

/-- The decisions on the module have one effect, and have one at all. -/
def Agree (context : JsonObject) (name : Text) : Prop :=
  ∀ first second, Decision context name first → Decision context name second →
    first.item "effect" = second.item "effect" ∧ first.item "effect" ≠ .null

/-- Every candidate tool has a decision, and the decisions on a selected tool or a selected
candidate module agree. -/
structure DecisionsAgree (task : TaskAnalysis) (context : JsonObject) : Prop where
  named : ∀ tool ∈ namesOf (references context "candidate_modules") "tool",
    ∃ decision, Decision context tool decision
  tools : ∀ tool ∈ selectedTools context, Agree context tool
  candidates : ∀ reference ∈ references context "candidate_modules", ∀ name,
    reference.item "name" = .str name → name ∈ (selection task context).all → Agree context name

section Effects

variable {context : JsonObject} {name : Text}

theorem Decision.mem_moduleDecisions {decision : Json} (decided : Decision context name decision) :
    decision ∈ moduleDecisions context := by
  refine List.mem_filter.mpr ⟨decided.1, ?_⟩
  have named : (decision.item "module").item "name" = .str name := by
    simpa [decides] using decided.2
  cases module : decision.item "module" with
  | obj fields => rfl
  | _ =>
      rw [module] at named
      cases named

theorem policyEffect_of_decision {decision : Json} (decided : Decision context name decision) :
    ∃ last, Decision context name last ∧ policyEffect context name = last.item "effect" := by
  unfold policyEffect
  cases found : (moduleDecisions context).reverse.find? (decides name) with
  | none =>
      have passed := List.find?_eq_none.mp found decision
        (List.mem_reverse.mpr decided.mem_moduleDecisions)
      exact absurd decided.2 passed
  | some last =>
      have member := List.mem_reverse.mp (List.mem_of_find?_eq_some found)
      exact ⟨last, ⟨(List.mem_filter.mp member).1, List.find?_some found⟩, rfl⟩

theorem exists_decision_of_effect (effect : policyEffect context name ≠ .null) :
    ∃ decision, Decision context name decision := by
  unfold policyEffect at effect
  cases found : (moduleDecisions context).reverse.find? (decides name) with
  | none =>
      rw [found] at effect
      exact absurd rfl effect
  | some last =>
      have member := List.mem_reverse.mp (List.mem_of_find?_eq_some found)
      exact ⟨last, (List.mem_filter.mp member).1, List.find?_some found⟩

theorem Agree.allowed (agree : Agree context name)
    (effect : policyEffect context name = .null ∨ policyEffect context name = .str "allow") :
    Allowed context name := by
  intro decision decided
  obtain ⟨last, last_decided, effect_eq⟩ := policyEffect_of_decision decided
  obtain ⟨same, nonnull⟩ := agree decision last decided last_decided
  rw [effect_eq, ← same] at effect
  exact effect.resolve_left nonnull

theorem Allowed.agree (allowed : Allowed context name) : Agree context name := by
  intro first second first_decided second_decided
  rw [allowed first first_decided, allowed second second_decided]
  exact ⟨rfl, by simp⟩

end Effects

section Composed

variable {task : TaskAnalysis} {context : JsonObject} {generation : Int}
  {parentProfileId recompositionReason : Option Text} {profile : JsonObject}

theorem policies_of_compose (review : task.requiresHumanReview = false)
    (composed : compose task context generation parentProfileId recompositionReason = .ok profile) :
    (∀ reference ∈ references context "candidate_modules",
      assertCandidate context reference = .ok ()) ∧
      ∀ reference ∈ ofKind (graphReferences context) "tool",
        assertReachableTool context reference = .ok () := by
  obtain ⟨_, -, composed⟩ := bind_eq_ok.mp composed
  obtain ⟨_, composable, -⟩ := bind_eq_ok.mp composed
  obtain ⟨_, -, composable⟩ := bind_eq_ok.mp composable
  obtain ⟨_, -, composable⟩ := bind_eq_ok.mp composable
  obtain ⟨_, -, composable⟩ := bind_eq_ok.mp composable
  obtain ⟨_, -, composable⟩ := bind_eq_ok.mp composable
  rw [if_neg (by simp [review])] at composable
  obtain ⟨_, -, policies⟩ := bind_eq_ok.mp composable
  obtain ⟨_, -, policies⟩ := bind_eq_ok.mp policies
  obtain ⟨_, candidates, tools⟩ := bind_eq_ok.mp policies
  exact ⟨forM_eq_ok.mp candidates, forM_eq_ok.mp tools⟩

variable {reference : Json}

theorem subscript_of_item {key name : Text}
    (named : reference.item key = .str name) : subscript reference key = .ok (.str name) := by
  unfold subscript Json.item at *
  cases found : reference.get? key with
  | none =>
      rw [found] at named
      cases named
  | some value =>
      rw [found] at named
      exact congrArg Except.ok named

variable {name : Text}

theorem effect_of_candidate (checked : assertCandidate context reference = .ok ())
    (named : reference.item "name" = .str name) :
    policyEffect context name = .null ∨ policyEffect context name = .str "allow" := by
  obtain ⟨value, found, raised⟩ := bind_eq_ok.mp checked
  cases (subscript_of_item named).symm.trans found
  have passed := raiseIf_eq_ok.mp raised
  rw [Json.pyStr] at passed
  by_cases null : policyEffect context name = .null
  · exact .inl null
  · right
    simpa [null] using passed

theorem effect_of_reachable (checked : assertReachableTool context reference = .ok ())
    (named : reference.item "name" = .str name) : policyEffect context name = .str "allow" := by
  obtain ⟨value, found, raised⟩ := bind_eq_ok.mp checked
  cases (subscript_of_item named).symm.trans found
  have passed := raiseIf_eq_ok.mp raised
  simpa [Json.pyStr] using passed

theorem mem_names {references : List Json} :
    name ∈ names references ↔ ∃ reference ∈ references, reference.item "name" = .str name := by
  unfold names
  rw [List.mem_filterMap]
  refine exists_congr fun reference => and_congr_right fun _ => ?_
  cases reference.item "name" with
  | str text => simp [textOf?]
  | _ => simp [textOf?]

/-- A composed profile is closed under the policy decisions exactly when every candidate tool has a
decision and decisions on the same selected module agree. -/
theorem policy_composition (review : task.requiresHumanReview = false)
    (composed : compose task context generation parentProfileId recompositionReason = .ok profile) :
    Closed context profile ↔ DecisionsAgree task context := by
  obtain ⟨candidates, reachable⟩ := policies_of_compose review composed
  obtain ⟨authority, skillRoles, versions, made⟩ := ComposerAgreement.compose_ok composed
  have selected_eq : selectedModules profile = (selection task context).all := by
    rw [← made.fields]
    exact ComposerAgreement.selectedModules_profileFields
  have tools_eq :
      (Json.obj profile).item "tools" = .arr ((selectedTools context).map Json.str) := by
    have chosen : (selection task context).tools = selectedTools context := by
      rw [selection, if_neg (by simp [review])]
    rw [← made.fields, ← chosen]
    rfl
  have mem_tools : ∀ tool, .str tool ∈ (selectedTools context).map Json.str ↔
      tool ∈ selectedTools context := by
    intro tool
    simp
  have split_tools : ∀ tool, tool ∈ selectedTools context ↔
      tool ∈ namesOf (references context "candidate_modules") "tool" ∨
        tool ∈ namesOf (graphReferences context) "tool" := by
    intro tool
    rw [selectedTools, List.mem_eraseDups, List.mem_append]
  constructor
  · intro closed
    refine ⟨fun tool member => ?_, fun tool member => ?_,
      fun reference listed name named chosen => ?_⟩
    · obtain ⟨⟨decision, decided, -⟩, -⟩ := closed.tools _ tools_eq tool
        ((mem_tools tool).mpr ((split_tools tool).mpr (.inl member)))
      exact ⟨decision, decided⟩
    · exact (closed.tools _ tools_eq tool ((mem_tools tool).mpr member)).2.agree
    · rw [← selected_eq] at chosen
      exact (closed.candidates reference listed name named chosen).agree
  · intro agree
    refine ⟨fun items items_eq tool member => ?_, fun reference listed name named chosen => ?_⟩
    · obtain rfl := Json.arr.inj (items_eq.symm.trans tools_eq)
      rw [mem_tools] at member
      have checked : (∃ decision, Decision context tool decision) ∧
          (policyEffect context tool = .null ∨ policyEffect context tool = .str "allow") := by
        rcases (split_tools tool).mp member with candidate | graph
        · obtain ⟨reference, of_kind, named⟩ := mem_names.mp candidate
          exact ⟨agree.named tool candidate,
            effect_of_candidate (candidates reference (List.mem_filter.mp of_kind).1) named⟩
        · obtain ⟨reference, of_kind, named⟩ := mem_names.mp graph
          have effect := effect_of_reachable (reachable reference of_kind) named
          exact ⟨exists_decision_of_effect (by simp [effect]), .inr effect⟩
      obtain ⟨⟨decision, decided⟩, effect⟩ := checked
      have allowed := (agree.tools tool member).allowed effect
      exact ⟨⟨decision, decided, allowed decision decided⟩, allowed⟩
    · rw [selected_eq] at chosen
      exact (agree.candidates reference listed name named chosen).allowed
        (effect_of_candidate (candidates reference listed) named)

end Composed

/-- A task of the global tenant. -/
def sampleTask : TaskAnalysis :=
  { ComposerAgreement.sampleTask with
    authClaims := { ComposerAgreement.sampleTask.authClaims with tenantId := "global" } }

/-- A context response with one candidate tool and the given decisions. -/
def sampleContext (decisions : List Json) : JsonObject :=
  [("composition_status", .str "ready"), ("graph_validation", .obj [("is_valid", .bool true)]),
    ("candidate_modules", .arr [.obj
      [("name", .str "git-read"), ("kind", .str "tool"), ("version", .str "0.1.0")]]),
    ("applicable_policies", .arr [.obj [("name", .str "read-only"), ("version", .str "0.1.0")]]),
    ("policy_decisions", .arr decisions)]

def sampleDecision (effect : Text) : Json :=
  .obj [("module", .obj [("name", .str "git-read")]), ("effect", .str effect)]

def sampleProfile (decisions : List Json) : JsonObject :=
  (compose sampleTask (sampleContext decisions) 1 none none).toOption.getD []

theorem policy_composition_one_decision :
    Closed (sampleContext [sampleDecision "allow"]) (sampleProfile [sampleDecision "allow"]) := by
  have single : ∀ {name decision}, Decision (sampleContext [sampleDecision "allow"]) name decision →
      decision = sampleDecision "allow" := fun decided => List.mem_singleton.mp decided.1
  have agree : ∀ name, Agree (sampleContext [sampleDecision "allow"]) name := by
    intro name first second first_decided second_decided
    rw [single first_decided, single second_decided]
    exact ⟨rfl, by decide⟩
  refine (@policy_composition sampleTask _ 1 none none _ rfl
    (Stateful.eq_ok_of_isOk [] (by decide))).mpr
    ⟨fun tool member => ?_, fun tool _ => agree tool, fun _ _ name _ _ => agree name⟩
  obtain rfl := List.mem_singleton.mp member
  exact ⟨sampleDecision "allow", List.mem_singleton.mpr rfl, by decide⟩

/-- A candidate tool nobody decided on is in the profile. -/
theorem undecided_tool_composed :
    ¬∀ (task : TaskAnalysis) (context : JsonObject) (generation : Int)
      (parentProfileId recompositionReason : Option Text) (profile : JsonObject),
      task.requiresHumanReview = false →
      compose task context generation parentProfileId recompositionReason = .ok profile →
      Closed context profile := by
  intro closes
  have closed := closes sampleTask (sampleContext []) 1 none none (sampleProfile []) rfl
    (Stateful.eq_ok_of_isOk [] (by decide))
  obtain ⟨⟨decision, decided, -⟩, -⟩ := closed.tools [.str "git-read"] (by decide) "git-read"
    (by simp)
  exact absurd decided.1 List.not_mem_nil

end PolicyComposition

end SkillCentric
