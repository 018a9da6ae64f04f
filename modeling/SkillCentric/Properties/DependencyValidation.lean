import SkillCentric.Control.Composition
import SkillCentric.Control.ModuleFiles
import SkillCentric.Library.Exploration

/-!
# Graph validation of the control plane

`validateGraph` visits the modules that a selection depends on.  It ends, lists exactly these
modules, and accepts the selection exactly when its dependencies are sound, whatever the order of
the rows.
-/

namespace SkillCentric.DependencyValidation

open SkillCentric Control

section Specification

variable {host : Host} (dependencies : List ModuleDependencyRow)
  (modules : List (RegistryModule host))
  (scopeBindings : List ScopeBinding) (selected : List (RegistryModule host))

/-- A dependency row leads from the module to the next one. -/
def DependsOn (module next : RegistryModule host) : Prop :=
  ∃ dependency ∈ dependencies, dependency.moduleVersionId = module.moduleVersionId ∧
    next ∈ modules ∧ next.id = dependency.dependencyId

/-- The selection depends on the module, or holds it. -/
def Reached (module : RegistryModule host) : Prop :=
  ∃ start ∈ selected, Relation.ReflTransGen (DependsOn dependencies modules) start module

/-- A scope has an allow and no deny binding. -/
def Allowed (scopeId : Text) : Prop :=
  (∃ binding ∈ scopeBindings, binding.scopeId = scopeId ∧ binding.effect = .allow) ∧
    ∀ binding ∈ scopeBindings, binding.scopeId = scopeId → binding.effect ≠ .deny

/-- The dependencies of a selection exist with their declared kinds, are allowed for the principal,
and have no cycle. -/
structure Sound : Prop where
  exist : ∀ module, Reached dependencies modules selected module → ∀ dependency ∈ dependencies,
    dependency.moduleVersionId = module.moduleVersionId →
      ∃ next ∈ modules, next.id = dependency.dependencyId ∧ next.kind = dependency.dependencyKind
  allowed : ∀ module next, Reached dependencies modules selected module →
    DependsOn dependencies modules module next → next.kind.isScope = true →
      Allowed scopeBindings next.id
  acyclic : ∀ module, Reached dependencies modules selected module →
    ¬Relation.TransGen (DependsOn dependencies modules) module module

end Specification

variable {host : Host} {dependencies reordered : List ModuleDependencyRow}
  {modules : List (RegistryModule host)} {scopeBindings : List ScopeBinding}
  {selected others : List (RegistryModule host)} {module next : RegistryModule host}

theorem scopeBindingAllows_iff {scopeId : Text} :
    scopeBindingAllows scopeId scopeBindings = true ↔ Allowed scopeBindings scopeId := by
  simp only [scopeBindingAllows, Allowed]
  grind

section Order

variable (rows : ∀ dependency, dependency ∈ dependencies ↔ dependency ∈ reordered)
  (same : ∀ module, module ∈ selected ↔ module ∈ others)

include rows in
theorem dependsOn_congr : DependsOn dependencies modules = DependsOn reordered modules := by
  funext module next
  simp only [DependsOn, rows]

include rows same in
theorem reached_congr :
    Reached dependencies modules selected = Reached reordered modules others := by
  funext module
  simp only [Reached, same, dependsOn_congr rows]

include rows same in
theorem sound_congr : Sound dependencies modules scopeBindings selected ↔
    Sound reordered modules scopeBindings others := by
  have reached : Reached dependencies modules selected = Reached reordered modules others :=
    reached_congr rows same
  have depends : DependsOn dependencies modules = DependsOn reordered modules :=
    dependsOn_congr rows
  constructor
  · rintro ⟨exist, allowed, acyclic⟩
    rw [reached] at exist allowed acyclic
    rw [depends] at allowed acyclic
    exact ⟨fun module reached dependency listed =>
      exist module reached dependency ((rows dependency).mpr listed), allowed, acyclic⟩
  · rintro ⟨exist, allowed, acyclic⟩
    rw [← reached] at exist allowed acyclic
    rw [← depends] at allowed acyclic
    exact ⟨fun module reached dependency listed =>
      exist module reached dependency ((rows dependency).mp listed), allowed, acyclic⟩

end Order

section Traversal

variable (keyed : (modules.map RegistryModule.id).Nodup)

include keyed in
theorem moduleById_eq_some {id : Text} :
    moduleById modules id = some next ↔ next ∈ modules ∧ next.id = id := by
  constructor
  · intro found
    exact ⟨List.mem_of_find?_eq_some found, by simpa using List.find?_some found⟩
  · rintro ⟨listed, rfl⟩
    cases found : moduleById modules next.id with
    | none => exact absurd (List.find?_eq_none.mp found next listed) (by simp)
    | some other =>
        have same : other.id = next.id := by simpa using List.find?_some found
        rw [List.inj_on_of_nodup_map keyed (List.mem_of_find?_eq_some found) listed same]

theorem moduleById_eq_none {id : Text} :
    moduleById modules id = none ↔ ¬∃ next ∈ modules, next.id = id := by
  simp [moduleById]

variable {dependency : ModuleDependencyRow}

theorem mem_edges :
    dependency ∈ (dependencyGraphOver dependencies modules scopeBindings).edges module ↔
      dependency ∈ dependencies ∧ dependency.moduleVersionId = module.moduleVersionId := by
  change dependency ∈ dependenciesByVersionId dependencies module.moduleVersionId ↔ _
  rw [dependenciesByVersionId, List.mem_filter, decide_eq_true_eq]

include keyed in
theorem adjacent_iff :
    (dependencyGraphOver dependencies modules scopeBindings).Adjacent module next ↔
    DependsOn dependencies modules module next := by
  simp only [Traversal.Adjacent, mem_edges, DependsOn, and_assoc]
  refine exists_congr fun dependency => and_congr_right fun _ => and_congr_right fun _ => ?_
  exact moduleById_eq_some keyed

include keyed in
theorem adjacent_eq : (dependencyGraphOver dependencies modules scopeBindings).Adjacent =
    DependsOn dependencies modules :=
  funext₂ fun _ _ => propext (adjacent_iff keyed)

include keyed in
theorem reachable_iff :
    (dependencyGraphOver dependencies modules scopeBindings).Reachable selected module ↔
      Reached dependencies modules selected module := by
  rw [Traversal.Reachable, adjacent_eq keyed, Reached]

include keyed in
theorem lawful : (dependencyGraphOver dependencies modules scopeBindings).Lawful (· ∈ modules) where
  key_injective _ _ listed others same := List.inj_on_of_nodup_map keyed listed others same
  known_target _ _ found := ((moduleById_eq_some keyed).mp found).1
  missing module dependency nowhere := by
    have missing : moduleById modules dependency.dependencyId = none := nowhere
    intro silent
    simp only [dependencyGraphOver, missing] at silent
    exact List.cons_ne_nil _ _ silent

include keyed in
theorem edgeErrors_eq_nil :
    (dependencyGraphOver dependencies modules scopeBindings).edgeErrors module dependency = [] ↔
      ∃ next ∈ modules, next.id = dependency.dependencyId ∧ next.kind = dependency.dependencyKind ∧
        (next.kind.isScope = true → Allowed scopeBindings next.id) := by
  cases found : moduleById modules dependency.dependencyId with
  | none =>
      refine iff_of_false ((lawful keyed).missing module dependency found) ?_
      rintro ⟨next, listed, named, -⟩
      exact moduleById_eq_none.mp found ⟨next, listed, named⟩
  | some next =>
      obtain ⟨listed, named⟩ := (moduleById_eq_some keyed).mp found
      have clean :
          (dependencyGraphOver dependencies modules scopeBindings).edgeErrors module dependency =
          [] ↔ next.kind = dependency.dependencyKind ∧
            (next.kind.isScope = true → Allowed scopeBindings next.id) := by
        rw [← scopeBindingAllows_iff]
        simp only [dependencyGraphOver, found, List.append_eq_nil_iff]
        split_ifs <;> simp_all
      rw [clean]
      constructor
      · exact fun fine => ⟨next, listed, named, fine⟩
      · rintro ⟨other, other_listed, other_named, fine⟩
        rwa [List.inj_on_of_nodup_map keyed listed other_listed (named.trans other_named.symm)]

variable (registered : ∀ module ∈ selected, module ∈ modules)

theorem ids_card : (modules.map RegistryModule.id).toFinset.card < modules.length + 1 :=
  Nat.lt_succ_of_le ((List.toFinset_card_le _).trans_eq (List.length_map _))

theorem mem_ids (listed : module ∈ modules) :
    module.id ∈ (modules.map RegistryModule.id).toFinset :=
  List.mem_toFinset.mpr (List.mem_map_of_mem listed)

include keyed in
theorem target_mem_ids
    (found : (dependencyGraphOver dependencies modules scopeBindings).target dependency =
      some next) :
    next.id ∈ (modules.map RegistryModule.id).toFinset :=
  mem_ids ((moduleById_eq_some keyed).mp found).1

include keyed registered in
theorem visits_end :
    (dependencyGraphOver dependencies modules scopeBindings).Runs (.roots selected) {}
    ((dependencyGraphOver dependencies modules scopeBindings).traverse
      (modules.length + 1) selected) :=
  Traversal.runs_traverse (fun _ _ _ _ found => target_mem_ids keyed found) ids_card
    fun module listed => mem_ids (registered module listed)

include registered in
theorem reached_mem (reached : Reached dependencies modules selected module) :
    module ∈ modules := by
  obtain ⟨start, listed, path⟩ := reached
  cases path with
  | refl => exact registered module listed
  | tail _ step =>
      obtain ⟨-, -, -, listed, -⟩ := step
      exact listed

include keyed registered in
theorem mem_reachableModules_iff {identity : ModuleIdentity} :
    identity ∈ (validateGraphOver dependencies modules scopeBindings selected).reachableModules ↔
      ∃ module, Reached dependencies modules selected module ∧ module.identity = identity := by
  have met (key : Text) : key ∈ ((dependencyGraphOver dependencies modules scopeBindings).traverse
        (modules.length + 1) selected).reached ↔
      ∃ vertex, (dependencyGraphOver dependencies modules scopeBindings).Reachable selected vertex ∧
        (dependencyGraphOver dependencies modules scopeBindings).key vertex = key :=
    (visits_end keyed registered).mem_reached_iff (lawful keyed).key_injective
      (lawful keyed).known_target registered
  simp only [validateGraphOver, List.mem_insertionSort, List.mem_map, List.mem_filterMap, met,
    reachable_iff keyed]
  constructor
  · rintro ⟨found, ⟨key, ⟨module, reached, rfl⟩, at_id⟩, rfl⟩
    have same : found = module := Option.some.inj (at_id.symm.trans
      ((moduleById_eq_some keyed).mpr ⟨reached_mem registered reached, rfl⟩))
    exact ⟨found, same ▸ reached, rfl⟩
  · rintro ⟨module, reached, rfl⟩
    exact ⟨module, ⟨module.id, ⟨module, reached, rfl⟩,
      (moduleById_eq_some keyed).mpr ⟨reached_mem registered reached, rfl⟩⟩, rfl⟩

include keyed registered in
theorem reachableModules_nodup :
    (validateGraphOver dependencies modules scopeBindings selected).reachableModules.Nodup := by
  have distinct : ((dependencyGraphOver dependencies modules scopeBindings).traverse
      (modules.length + 1) selected).reached.Nodup :=
    (visits_end keyed registered).reached_nodup List.nodup_nil
  refine (List.perm_insertionSort _ _).nodup_iff.mpr ?_
  rw [List.map_filterMap]
  refine distinct.filterMap fun left right identity left_found right_found => ?_
  obtain ⟨first, found, rfl⟩ := Option.map_eq_some_iff.mp left_found
  obtain ⟨second, other, same⟩ := Option.map_eq_some_iff.mp right_found
  rw [← ((moduleById_eq_some keyed).mp found).2, ← ((moduleById_eq_some keyed).mp other).2]
  exact (congrArg ModuleIdentity.id same).symm

include keyed registered in
theorem isValid_iff :
    (validateGraphOver dependencies modules scopeBindings selected).isValid = true ↔
    Sound dependencies modules scopeBindings selected := by
  have lawful : (dependencyGraphOver dependencies modules scopeBindings).Lawful (· ∈ modules) :=
    lawful keyed
  have clean := Traversal.traverse_errors_eq_nil_iff lawful
    (fun _ _ _ _ found => target_mem_ids keyed found) ids_card registered
    fun module listed => mem_ids (registered module listed)
  simp only [validateGraphOver, List.isEmpty_iff, clean, reachable_iff keyed, adjacent_eq keyed,
    mem_edges, edgeErrors_eq_nil keyed]
  constructor
  · intro fine
    refine ⟨fun module reached dependency listed own => ?_,
      fun module next reached depends scope => ?_,
      fun module reached => (fine module reached).2⟩
    · obtain ⟨next, listed, named, kind, -⟩ := (fine module reached).1 dependency ⟨listed, own⟩
      exact ⟨next, listed, named, kind⟩
    · obtain ⟨dependency, listed, own, next_listed, named⟩ := depends
      obtain ⟨found, found_listed, found_named, -, allowed⟩ :=
        (fine module reached).1 dependency ⟨listed, own⟩
      obtain rfl := List.inj_on_of_nodup_map keyed next_listed found_listed
        (named.trans found_named.symm)
      exact allowed scope
  · rintro ⟨exist, allowed, acyclic⟩ module reached
    refine ⟨fun dependency listed => ?_, acyclic module reached⟩
    obtain ⟨next, next_listed, named, kind⟩ := exist module reached dependency listed.1 listed.2
    exact ⟨next, next_listed, named, kind, allowed module next reached
      ⟨dependency, listed.1, listed.2, next_listed, named⟩⟩

end Traversal

/-- `validateGraph` ends, lists the modules that the selection depends on, accepts sound
dependencies only, and does not look at the order of its rows. -/
theorem validateGraphOver_exact (keyed : (modules.map RegistryModule.id).Nodup)
    (registered : ∀ module ∈ selected, module ∈ modules) :
    (dependencyGraphOver dependencies modules scopeBindings).Runs (.roots selected) {}
      ((dependencyGraphOver dependencies modules scopeBindings).traverse
        (modules.length + 1) selected) ∧
    (∀ identity, identity ∈
      (validateGraphOver dependencies modules scopeBindings selected).reachableModules ↔
        ∃ module, Reached dependencies modules selected module ∧ module.identity = identity) ∧
    ((validateGraphOver dependencies modules scopeBindings selected).isValid = true ↔
      Sound dependencies modules scopeBindings selected) ∧
    ∀ reordered others, dependencies.Perm reordered → selected.Perm others →
      (validateGraphOver reordered modules scopeBindings others).isValid =
        (validateGraphOver dependencies modules scopeBindings selected).isValid ∧
      (validateGraphOver reordered modules scopeBindings others).reachableModules.Perm
        (validateGraphOver dependencies modules scopeBindings selected).reachableModules := by
  refine ⟨visits_end keyed registered, fun _ => mem_reachableModules_iff keyed registered,
    isValid_iff keyed registered, fun reordered others rows same => ?_⟩
  have registered_others : ∀ module ∈ others, module ∈ modules :=
    fun module listed => registered module (same.mem_iff.mpr listed)
  constructor
  · rw [Bool.eq_iff_iff, isValid_iff keyed registered, isValid_iff keyed registered_others]
    exact (sound_congr (fun _ => rows.mem_iff) fun _ => same.mem_iff).symm
  · rw [List.perm_ext_iff_of_nodup (reachableModules_nodup keyed registered_others)
      (reachableModules_nodup keyed registered)]
    intro identity
    rw [mem_reachableModules_iff keyed registered, mem_reachableModules_iff keyed registered_others,
      reached_congr (fun _ => rows.mem_iff) fun _ => same.mem_iff]

/-- A module with nothing but its identity. -/
def plainModule (id : Text) (kind : ModuleKind) : RegistryModule plainHost where
  id := id
  name := id
  kind := kind
  moduleVersionId := id ++ "@0.1.0"
  version := "0.1.0"
  description := ""
  capabilityClass := ""
  domainTags := []
  taskTypes := []
  riskLevels := []
  taskDomains := []
  requiredInputs := []
  phrases := []
  negativePhrases := []
  triggers := []
  inputs := []
  outputs := []
  baseScore := (0 : Int)
  scoreModifiers := []
  requiresAllPolicies := false

/-- A skill that reads from a knowledge scope. -/
def skillAndScope : List (RegistryModule plainHost) :=
  [plainModule "skill" .skill, plainModule "handbook" .knowledgeScope]

theorem skillAndScope_unsound :
    ¬Sound [⟨"1", "skill@0.1.0", .knowledgeScope, "handbook", true⟩] skillAndScope []
      skillAndScope :=
  (validateGraphOver_exact (by decide) fun _ listed => listed).2.2.1.not.mp (by decide)

end SkillCentric.DependencyValidation
