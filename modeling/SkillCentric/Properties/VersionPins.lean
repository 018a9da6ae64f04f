import SkillCentric.Properties.ComposerAgreement

/-!
# Version pins

`module_versions` is keyed by name, and the last reference that carries a version for a name decides
its pin.  A pin therefore belongs to the kind under which the module was selected unless references
of another kind carry the name as well, or no reference carries a version for it.
-/

namespace SkillCentric

open RuntimeProfileComposer RuntimeProfileEnforcer Stateful

namespace VersionPins

/-- The reference has the name and the version. -/
def Carries (reference : Json) (name version : Text) : Prop :=
  reference.item "name" = .str name ∧ reference.item "version" = .str version

/-- References with the same name and kind do not carry different versions. -/
def Consistent (context : JsonObject) : Prop :=
  ∀ left ∈ versionReferences context, ∀ right ∈ versionReferences context, ∀ name version other,
    Carries left name version → Carries right name other →
      left.item "kind" = right.item "kind" → version = other

/-- The last reference of the name carries the version. -/
def LastCarrying (references : List Json) (name version : Text) (reference : Json) : Prop :=
  ∃ before after, references = before ++ reference :: after ∧ Carries reference name version ∧
    ∀ later ∈ after, ∀ other, ¬ Carries later name other

/-- The fields of a profile whose modules are skills, tools, policies, validators and scopes. -/
def pinnedFields : List Text :=
  ["skills", "tools", "knowledge_scopes", "data_scopes", "memory_scopes", "policies", "validators"]

def selecting (task : TaskAnalysis) (context : JsonObject) (field : Text) : List Json :=
  if field = ("policies" : Text) then references context "applicable_policies"
  else if task.requiresHumanReview then []
  else if field = ("skills" : Text) then ofKind (references context "candidate_modules") "skill"
  else if field = ("tools" : Text) then
    ofKind (references context "candidate_modules") "tool" ++
      ofKind (graphReferences context) "tool"
  else if field = ("knowledge_scopes" : Text) then references context "allowed_knowledge_scopes"
  else if field = ("data_scopes" : Text) then references context "allowed_data_scopes"
  else if field = ("memory_scopes" : Text) then references context "allowed_memory_scopes"
  else if field = ("validators" : Text) then references context "validation_requirements"
  else []

/-- A module is selected in a field under a kind: by a reference of that kind, or by the composer
itself, whose own validator is a validator. -/
inductive SelectedUnder (task : TaskAnalysis) (context : JsonObject) : Text → Text → Json → Prop
  | reference {field name : Text} {reference : Json}
      (selects : reference ∈ selecting task context field)
      (named : reference.item "name" = .str name) :
      SelectedUnder task context field name (reference.item "kind")
  | composer : SelectedUnder task context "validators" "runtime-profile-schema" (.str "validator")

def ownVersion (task : TaskAnalysis) (name : Text) : Option Text :=
  (lookup name baselineModuleVersions).or (lookup name (taskInstructionVersions task.taskType))

/-- How the pin of a module selected in a field comes about. -/
inductive Pinned (task : TaskAnalysis) (context : JsonObject) (field name pin : Text) : Prop
  /-- Its version in the references of the kind under which it was selected. -/
  | selectedKind (reference : Json) (among : reference ∈ versionReferences context)
      (carries : Carries reference name pin)
      (kind : SelectedUnder task context field name (reference.item "kind"))
      (only : ∀ other ∈ versionReferences context, ∀ version, Carries other name version →
        other.item "kind" = reference.item "kind" → version = pin)
  /-- The last version in the references, which none carries of the kind that selected it. -/
  | otherKind (reference : Json)
      (last : LastCarrying (versionReferences context) name pin reference)
      (differs : ∀ other ∈ versionReferences context,
        SelectedUnder task context field name (other.item "kind") → ¬ Carries other name pin)
  /-- No reference has a version for the name. -/
  | own (none :
    ∀ reference ∈ versionReferences context, ∀ version, ¬ Carries reference name version)
      (version : ownVersion task name = some pin)

theorem nodup_eraseDups (names : List Text) : names.eraseDups.Nodup := by
  induction size : names.length using Nat.strong_induction_on generalizing names with
  | _ size ih =>
      cases names with
      | nil => exact List.nodup_nil
      | cons first rest =>
          rw [List.eraseDups_cons, List.nodup_cons]
          refine ⟨fun again => ?_, ih _ ?_ _ rfl⟩
          · rw [List.mem_eraseDups, List.mem_filter] at again
            simp at again
          · rw [← size, List.length_cons]
            exact Nat.lt_succ_of_le (List.length_filter_le _ _)

section Versions

variable {task : TaskAnalysis} {context : JsonObject} {name version : Text} {refs : List Json}
  {reference : Json}

theorem textOf?_eq_some {value : Json} : textOf? value = some version ↔ value = .str version := by
  cases value <;> simp [textOf?]

theorem carried_iff :
    (if reference.item "name" = .str name then textOf? (reference.item "version") else none) =
      some version ↔ Carries reference name version := by
  by_cases named : reference.item "name" = .str name
  · rw [if_pos named, textOf?_eq_some]
    exact (and_iff_right named).symm
  · rw [if_neg named]
    exact ⟨fun absent => absurd absent (by simp), fun carries => absurd carries.1 named⟩

theorem lastCarrying_of_versionByName (found : versionByName refs name = some version) :
    ∃ reference, LastCarrying refs name version reference := by
  rw [versionByName, List.findSome?_eq_some_iff] at found
  obtain ⟨after, reference, before, split, carried, earlier⟩ := found
  have order : refs = before.reverse ++ reference :: after.reverse := by
    rw [← List.reverse_reverse refs, split, List.reverse_append, List.reverse_cons,
      List.append_assoc]
    rfl
  refine ⟨reference, _, _, order, carried_iff.mp carried, fun later inAfter other carries => ?_⟩
  have missing := earlier later (List.mem_reverse.mp inAfter)
  rw [carried_iff.mpr carries] at missing
  cases missing

theorem not_carries_of_versionByName (absent : versionByName refs name = none) :
    ∀ reference ∈ refs, ∀ version, ¬ Carries reference name version := by
  intro reference among version carries
  have missing := List.findSome?_eq_none_iff.mp absent reference (List.mem_reverse.mpr among)
  rw [carried_iff.mpr carries] at missing
  cases missing

theorem pin_cases (pinned : versionFor task context name = .ok version) :
    (∃ reference, LastCarrying (versionReferences context) name version reference) ∨
      ((∀ reference ∈ versionReferences context, ∀ other, ¬ Carries reference name other) ∧
        ownVersion task name = some version) := by
  rw [versionFor] at pinned
  cases found : versionByName (versionReferences context) name with
  | some last =>
      rw [found] at pinned
      obtain rfl := Except.ok.inj pinned
      exact Or.inl (lastCarrying_of_versionByName found)
  | none =>
      rw [found] at pinned
      refine Or.inr ⟨not_carries_of_versionByName found, ?_⟩
      cases known : ownVersion task name with
      | none =>
          rw [ownVersion] at known
          simp only [known] at pinned
          cases pinned
      | some own =>
          rw [ownVersion] at known
          simp only [known] at pinned
          rw [Except.ok.inj pinned]

theorem versionFor_of_mem {names : List Text} {versions : JsonObject} {value : Json}
    (pinned : moduleVersions task context names = .ok versions) (entry : (name, value) ∈ versions) :
    ∃ version, versionFor task context name = .ok version ∧ value = .str version := by
  induction names generalizing versions with
  | nil =>
      cases pinned
      cases entry
  | cons first rest ih =>
      obtain ⟨version, found, pinned⟩ := bind_eq_ok.mp pinned
      obtain ⟨others, restPinned, returned⟩ := bind_eq_ok.mp pinned
      cases returned
      obtain same | inRest := List.mem_cons.mp entry
      · cases same
        exact ⟨version, found, rfl⟩
      · exact ih restPinned inRest

end Versions

section Selected

variable {task : TaskAnalysis} {context : JsonObject} {field name : Text} {refs : List Json}

theorem mem_names : name ∈ names refs ↔ ∃ reference ∈ refs, reference.item "name" = .str name := by
  rw [names, List.mem_filterMap]
  exact exists_congr fun reference => and_congr_right fun _ => textOf?_eq_some

theorem field_eq_names (pinned : field ∈ pinnedFields) (other : field ≠ ("validators" : Text)) :
    (selection task context).field field = (names (selecting task context field)).eraseDups := by
  have append : ∀ left right : List Json, names (left ++ right) = names left ++ names right :=
    fun left right => List.filterMap_append
  simp only [pinnedFields, List.mem_cons, List.not_mem_nil, or_false] at pinned
  cases review : task.requiresHumanReview
  all_goals
    unfold selection selecting
    simp only [review, Bool.false_eq_true, if_false, if_true]
    rcases pinned with rfl | rfl | rfl | rfl | rfl | rfl | rfl
    · rfl
    · first | rfl | exact (congrArg List.eraseDups (append _ _)).symm
    · rfl
    · rfl
    · rfl
    · rfl
    · exact absurd rfl other

theorem validators_eq : (selection task context).field "validators" =
    (("runtime-profile-schema" : Text) ::
      names (selecting task context "validators")).eraseDups := by
  unfold selection selecting
  cases review : task.requiresHumanReview
  · simp only [Bool.false_eq_true, if_false]
    rfl
  · simp only [if_true]
    rfl

theorem SelectedUnder.of_ne_validators {kind : Json}
    (under : SelectedUnder task context field name kind) (other : field ≠ ("validators" : Text)) :
    ∃ reference ∈ selecting task context field, reference.item "kind" = kind := by
  cases under with
  | reference among named => exact ⟨_, among, rfl⟩
  | composer => exact absurd rfl other

theorem selected_iff (pinned : field ∈ pinnedFields) :
    name ∈ (selection task context).field field ↔
      ∃ kind, SelectedUnder task context field name kind := by
  have referenced : name ∈ names (selecting task context field) →
      ∃ kind, SelectedUnder task context field name kind := by
    rw [mem_names]
    rintro ⟨reference, among, named⟩
    exact ⟨_, .reference among named⟩
  by_cases validators : field = ("validators" : Text)
  · subst validators
    rw [validators_eq, List.mem_eraseDups, List.mem_cons]
    constructor
    · rintro (rfl | among)
      · exact ⟨_, .composer⟩
      · exact referenced among
    · rintro ⟨kind, under⟩
      cases under with
      | reference among named => exact Or.inr (mem_names.mpr ⟨_, among, named⟩)
      | composer => exact Or.inl rfl
  · rw [field_eq_names pinned validators, List.mem_eraseDups]
    refine ⟨referenced, ?_⟩
    rintro ⟨kind, under⟩
    cases under with
    | reference among named => exact mem_names.mpr ⟨_, among, named⟩
    | composer => exact absurd rfl validators

end Selected

/-- The modules that a field of a profile lists. -/
def modulesOf (profile : JsonObject) (field : Text) : List Text :=
  match (Json.obj profile).item field (.arr []) with
  | .arr values => values.map Json.pyStr
  | _ => []

section Composed

variable {task : TaskAnalysis} {context : JsonObject} {generation : Int}
  {parentProfileId recompositionReason : Option Text} {profile : JsonObject}
  {authority skillRoles : Json} {selected : Selection} {versions : JsonObject}

theorem modulesOf_profileFields {field : Text} (known : field ∈ moduleFields) :
    modulesOf
      (profileFields task generation parentProfileId recompositionReason authority skillRoles
      selected versions) field = selected.field field := by
  have back : ∀ values : List Text, (values.map Json.str).map Json.pyStr = values := by
    intro values
    rw [List.map_map]
    exact List.map_id values
  simp only [moduleFields, List.mem_cons, List.not_mem_nil, or_false] at known
  rcases known with rfl | rfl | rfl | rfl | rfl | rfl | rfl | rfl <;> exact back _

theorem pinned_of_versionFor {field name pin : Text} (consistent : Consistent context)
    (found : versionFor task context name = .ok pin) : Pinned task context field name pin := by
  obtain ⟨last, isLast⟩ | ⟨none, own⟩ := pin_cases found
  · by_cases among : ∃ reference ∈ versionReferences context,
        SelectedUnder task context field name (reference.item "kind") ∧ Carries reference name pin
    · obtain ⟨reference, inReferences, kind, carries⟩ := among
      refine .selectedKind reference inReferences carries
        kind fun other inOthers version its same => ?_
      exact consistent other inOthers reference inReferences name version pin its carries same
    · exact .otherKind last isLast fun other inOthers kind carries =>
        among ⟨other, inOthers, kind, carries⟩
  · exact .own none own

end Composed

/-- In a context response whose references of one name and kind do not carry different versions, a
composed profile pins exactly the modules it selects, each to the version that a reference of the
name carries of the kind under which it was selected; but where the last version for the name
is that of a reference of another kind, to that one, and where no reference carries a version,
to the composer's own. -/
theorem pins_exact {task : TaskAnalysis} {context : JsonObject} {generation : Int}
    {parentProfileId recompositionReason : Option Text} {profile : JsonObject}
    (consistent : Consistent context)
    (composed : compose task context generation parentProfileId recompositionReason = .ok profile) :
    ∃ versions, (Json.obj profile).item "module_versions" = .obj versions ∧
      (versions.map Prod.fst).Nodup ∧
      (∀ name,
        name ∈ versions.map Prod.fst ↔ ∃ field ∈ moduleFields, name ∈ modulesOf profile field) ∧
      ∀ field ∈ pinnedFields, ∀ name ∈ modulesOf profile field,
        (∃ kind, SelectedUnder task context field name kind) ∧
          ∃ pin, (name, .str pin) ∈ versions ∧ Pinned task context field name pin := by
  obtain ⟨authority, skillRoles, versions, made⟩ := ComposerAgreement.compose_ok composed
  have keys := ComposerAgreement.keys_of_moduleVersions made.pinned
  have lists : selectedModules profile = (selection task context).all := by
    rw [← made.fields, ComposerAgreement.selectedModules_profileFields]
  have selects : ∀ name, name ∈ versions.map Prod.fst ↔
      ∃ field ∈ moduleFields, name ∈ modulesOf profile field := by
    intro name
    rw [keys, List.mem_eraseDups, ← lists]
    exact List.mem_flatMap
  refine ⟨versions, ?_, ?_, selects, fun field pinned name listed => ?_⟩
  · rw [← made.fields]
    rfl
  · rw [keys]
    exact nodup_eraseDups _
  · have known : field ∈ moduleFields := List.mem_cons_of_mem _ pinned
    have inKeys := (selects name).mpr ⟨field, known, listed⟩
    rw [← made.fields, modulesOf_profileFields known, selected_iff pinned] at listed
    obtain ⟨⟨key, value⟩, entry, rfl⟩ := List.mem_map.mp inKeys
    obtain ⟨pin, found, rfl⟩ := versionFor_of_mem made.pinned entry
    exact ⟨listed, pin, entry, pinned_of_versionFor consistent found⟩

/-- References of one name and kind have one version. -/
def Agreeing (context : JsonObject) : Prop :=
  ∀ left ∈ versionReferences context, ∀ right ∈ versionReferences context,
    left.item "name" = right.item "name" → left.item "kind" = right.item "kind" →
      left.item "version" = right.item "version"

instance (context : JsonObject) : Decidable (Agreeing context) :=
  inferInstanceAs (Decidable (∀ left ∈ versionReferences context,
    ∀ right ∈ versionReferences context, left.item "name" = right.item "name" →
      left.item "kind" = right.item "kind" → left.item "version" = right.item "version"))

theorem consistent_of_agreeing {context : JsonObject} (agreeing : Agreeing context) :
    Consistent context := by
  intro left inLeft right inRight name version other ofLeft ofRight kinds
  have same := agreeing left inLeft right inRight (ofLeft.1.trans ofRight.1.symm) kinds
  rw [ofLeft.2, ofRight.2] at same
  exact Json.str.inj same

/-- A task of no tenant. -/
def globalTask : TaskAnalysis :=
  { ComposerAgreement.sampleTask with
    authClaims := { ComposerAgreement.sampleTask.authClaims with tenantId := "global" } }

/-- A response in which a skill and a policy have one name. -/
def sharedContext : JsonObject :=
  [("composition_status", .str "ready"), ("graph_validation", .obj [("is_valid", .bool true)]),
    ("candidate_modules", .arr [.obj
      [("name", .str "triage"), ("kind", .str "skill"), ("version", .str "1.0.0")]]),
    ("applicable_policies", .arr [.obj
      [("name", .str "triage"), ("kind", .str "policy"), ("version", .str "2.0.0")]])]

/-- The profile composed from the response. -/
def sharedProfile : JsonObject := (compose globalTask sharedContext 1 none none).toOption.getD []

theorem shared_composed : compose globalTask sharedContext 1 none none = .ok sharedProfile :=
  Stateful.eq_ok_of_isOk [] (by decide)

theorem pins_exact_shared :
    ∃ versions, (Json.obj sharedProfile).item "module_versions" = .obj versions ∧
      (versions.map Prod.fst).Nodup ∧
      (∀ name, name ∈ versions.map Prod.fst ↔
        ∃ field ∈ moduleFields, name ∈ modulesOf sharedProfile field) ∧
      ∀ field ∈ pinnedFields, ∀ name ∈ modulesOf sharedProfile field,
        (∃ kind, SelectedUnder globalTask sharedContext field name kind) ∧
          ∃ pin, (name, .str pin) ∈ versions ∧ Pinned globalTask sharedContext field name pin :=
  pins_exact (consistent_of_agreeing (by decide)) shared_composed

/-- Every pin of a selected module is a version that a reference of the selected kind carries. -/
def PinnedBySelectedKind (field : Text) : Prop :=
  ∀ (task : TaskAnalysis) (context : JsonObject) (generation : Int)
    (parentProfileId recompositionReason : Option Text) (profile : JsonObject),
    Agreeing context →
    compose task context generation parentProfileId recompositionReason = .ok profile →
    ∀ name ∈ modulesOf profile field, ∀ pin,
      ((Json.obj profile).item "module_versions").item name = .str pin →
      ∃ reference ∈ versionReferences context, Carries reference name pin ∧
        SelectedUnder task context field name (reference.item "kind")

/-- Neither the pin of the shared skill nor that of the composer's own validator is a version that a
reference of the selected kind carries. -/
theorem pins_of_no_selected_kind :
    ¬PinnedBySelectedKind "skills" ∧ ¬PinnedBySelectedKind "validators" := by
  constructor
  · intro holds
    have pins := holds globalTask sharedContext 1 none none sharedProfile (by decide)
      shared_composed
    obtain ⟨reference, inReferences, carries, under⟩ :=
      pins "triage" (by decide) "2.0.0" (by decide)
    have ofPolicy : ∀ reference ∈ versionReferences sharedContext,
        reference.item "version" = .str "2.0.0" → reference.item "kind" ≠ .str "skill" := by
      decide
    have ofSkill : ∀ reference ∈ selecting globalTask sharedContext "skills",
        reference.item "kind" = .str "skill" := by
      decide
    obtain ⟨selects, among, same⟩ := under.of_ne_validators (by decide)
    exact ofPolicy reference inReferences carries.2 (same ▸ ofSkill selects among)
  · intro holds
    have pins := holds globalTask sharedContext 1 none none sharedProfile (by decide)
      shared_composed
    obtain ⟨reference, inReferences, carries, -⟩ :=
      pins "runtime-profile-schema" (by decide) "0.1.0" (by decide)
    have unreferenced : ∀ reference ∈ versionReferences sharedContext,
        reference.item "name" ≠ .str "runtime-profile-schema" := by
      decide
    exact unreferenced reference inReferences carries.1

end VersionPins

end SkillCentric
