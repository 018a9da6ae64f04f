import SkillCentric.Control.RegistryGate

/-!
# The registry gate and the registry

Files that pass the gate make a registry, and the registry's own graph validation accepts every
selection, exactly when the versions parse, references to a name ask for the kind of its highest
version, and the highest versions refer to each other without a cycle.  The gate looks at all
versions and all kinds of a name, and at no cycle.
-/

namespace SkillCentric.GateSoundness

open SkillCentric Control InMemoryModuleRegistry

variable {host : Host} {toInt : Text → Option Int} {files : List (GovernedFile host)}
variable {inputs : GateInputs host} {result : List Text}

/-- The files make a registry whose graph validation accepts every selection of its names. -/
def AcceptsAll (toInt : Text → Option Int) (files : List (GovernedFile host)) : Prop :=
  ∃ registry, fromPaths toInt (files.map GovernedFile.toModuleFile) =
      .ok registry ∧
    ∀ selected : List Text, (∀ name ∈ selected, registry.knows name = true) →
      (registry.validateGraph selected).isValid = true

/-- The modules of the files. -/
def modulesOf (files : List (GovernedFile host)) : List (ModuleMetadata host) :=
  files.map fun file => file.module

/-- The module is the version of its name that the registry resolves to. -/
def Current (toInt : Text → Option Int) (files : List (GovernedFile host)) (name : Text)
    (module : ModuleMetadata host) : Prop :=
  (versionsOf toInt (modulesOf files) name).head? = some module

/-- The current version of the name refers to the next one. -/
def Refers (toInt : Text → Option Int) (files : List (GovernedFile host))
    (name next : Text) : Prop :=
  ∃ module, Current toInt files name module ∧
    ∃ reference ∈ module.allReferences, reference.targetName = next

/-- The highest versions fit together. -/
structure Consistent (toInt : Text → Option Int) (files : List (GovernedFile host)) : Prop where
  parsed : ∀ file ∈ files, (semverKey toInt file.module.version).isSome = true
  kinds : ∀ name module, Current toInt files name module → ∀ reference ∈ module.allReferences,
    ∀ target, Current toInt files reference.targetName target → target.kind = reference.field.kind
  acyclic : ∀ name, ¬ Relation.TransGen (Refers toInt files) name name

def registryOf (toInt : Text → Option Int) (files : List (GovernedFile host)) :
    InMemoryModuleRegistry host :=
  ⟨modulesOf files, versionsOf toInt (modulesOf files)⟩

variable {name : Text} {module : ModuleMetadata host}

theorem knows_iff : (registryOf toInt files).knows name = true ↔
    ∃ module, Current toInt files name module := by
  unfold Current
  show (!(versionsOf toInt (modulesOf files) name).isEmpty) = true ↔ _
  cases versionsOf toInt (modulesOf files) name <;> simp

theorem knows_of_mem (listed : module ∈ modulesOf files)
    (named : module.name = name) : (registryOf toInt files).knows name = true := by
  have member : module ∈ versionsOf toInt (modulesOf files) name :=
    mem_versionsOf.mpr ⟨listed, named⟩
  simpa [knows, registryOf] using List.ne_nil_of_mem member

theorem Current.mem
    (current : Current toInt files name module) : module ∈ modulesOf files ∧ module.name = name :=
  mem_versionsOf.mp (List.mem_of_head? current)

theorem Current.resolve (current : Current toInt files name module) :
    (registryOf toInt files).resolve name = .ok module :=
  resolve_eq_ok.mpr current

theorem Current.referencesOf (current : Current toInt files name module) :
    (registryOf toInt files).referencesOf name = module.allReferences := by
  rw [InMemoryModuleRegistry.referencesOf, current.resolve]

theorem mem_referencesOf {reference : FileReference} :
    reference ∈ (registryOf toInt files).referencesOf name ↔
      ∃ module, Current toInt files name module ∧ reference ∈ module.allReferences := by
  constructor
  · intro listed
    unfold referencesOf at listed
    split at listed
    · cases listed
    · rename_i module resolved
      exact ⟨module, resolve_eq_ok.mp resolved, listed⟩
  · rintro ⟨module, current, listed⟩
    rwa [current.referencesOf]

section Passed

variable (passes : validateRegistry inputs files = .ok result)

include passes

theorem target_known {reference : FileReference}
    (listed : reference ∈ (registryOf toInt files).referencesOf name) :
    (registryOf toInt files).knows reference.targetName = true := by
  obtain ⟨module, current, listed⟩ := mem_referencesOf.mp listed
  obtain ⟨file, filed, rfl⟩ := List.mem_map.mp current.mem.1
  have clean := (validateRegistry_eq_ok.mp passes).2.2.2.1
  obtain ⟨other, others, named, -⟩ :=
    missingErrors_eq_nil.mp (List.append_eq_nil_iff.mp clean).2 file
    filed reference.field reference.targetName (by
      simp only [ModuleMetadata.allReferences, List.mem_flatMap, List.mem_map] at listed
      obtain ⟨field, -, target, found, rfl⟩ := listed
      exact found)
  exact knows_of_mem (List.mem_map_of_mem others) named

theorem fromPaths_iff {registry : InMemoryModuleRegistry host} :
    fromPaths toInt (files.map GovernedFile.toModuleFile) = .ok registry ↔
      (∀ file ∈ files, (semverKey toInt file.module.version).isSome = true) ∧
        registry = registryOf toInt files := by
  have clean := (validateRegistry_eq_ok.mp passes).2.2.2.1
  have nodup := (duplicateErrors_eq_nil.mp (List.append_eq_nil_iff.mp clean).1).2
  have modules : (files.map GovernedFile.toModuleFile).map ModuleFile.module = modulesOf files := by
    rw [List.map_map]
    rfl
  rw [fromPaths, modules, create_eq_ok]
  refine and_congr ?_ Iff.rfl
  rw [modulesOf, List.map_map, List.forall_mem_map]
  exact and_iff_right nodup

end Passed

section Validation

variable (selected : List Text)

def reachable (toInt : Text → Option Int) (files : List (GovernedFile host))
    (selected : List Text) :
    List Text :=
  ((registryOf toInt files).reachability.traverse ((registryOf toInt files).modules.length + 1)
    (selected.eraseDups.filter (registryOf toInt files).knows)).reached.insertionSort (· ≤ ·)

theorem mem_reachable : name ∈ reachable toInt files selected ↔
    name ∈ ((registryOf toInt files).reachability.traverse
      ((registryOf toInt files).modules.length + 1)
      (selected.eraseDups.filter (registryOf toInt files).knows)).reached := by
  rw [reachable, List.mem_insertionSort]

theorem reachable_known (reached : name ∈ reachable toInt files selected) :
    (registryOf toInt files).knows name = true := by
  refine Traversal.reached_traverse_subset { name | (registryOf toInt files).knows name = true }
    ?_ ?_ name ((mem_reachable selected).mp reached)
  · intro vertex reference next _ at_end
    unfold reachability at at_end
    dsimp only at at_end
    split at at_end
    · rename_i known
      cases at_end
      exact known
    · cases at_end
  · exact fun root listed => (List.mem_filter.mp listed).2

theorem selected_reachable (member : name ∈ selected)
    (known : (registryOf toInt files).knows name = true) : name ∈ reachable toInt files selected :=
  (mem_reachable selected).mpr (Traversal.roots_reached name
    (List.mem_filter.mpr ⟨List.mem_eraseDups.mpr member, known⟩))

theorem isValid_iff (known : ∀ name ∈ selected, (registryOf toInt files).knows name = true) :
    ((registryOf toInt files).validateGraph selected).isValid = true ↔
      (∀ error ∈ ((registryOf toInt files).reachability.traverse
        ((registryOf toInt files).modules.length + 1)
        (selected.eraseDups.filter (registryOf toInt files).knows)).errors, error = none) ∧
      (∀ name ∈ reachable toInt files selected,
        ∀ reference ∈ (registryOf toInt files).referencesOf name,
          (registryOf toInt files).referenceErrors reference = []) ∧
      (((registryOf toInt files).cycles (reachable toInt files selected)).traverse
        ((registryOf toInt files).modules.length + 1)
          (reachable toInt files selected)).errors = [] := by
  have missing :
      (selected.eraseDups.filter fun name => !(registryOf toInt files).knows name) = [] := by
    rw [List.filter_eq_nil_iff]
    intro name listed
    simp [known name (List.mem_eraseDups.mp listed)]
  have capable (name : Text) : (registryOf toInt files).capabilityErrors [] name = [] := by
    unfold capabilityErrors
    split <;> rfl
  simp only [InMemoryModuleRegistry.validateGraph, missing, List.map_nil, List.nil_append, capable,
    List.append_nil, List.isEmpty_iff, List.append_eq_nil_iff, List.filterMap_eq_nil_iff, id_eq,
    List.flatMap_eq_nil_iff, and_assoc]
  rfl

end Validation

theorem consistent_of_acceptsAll (passes : validateRegistry inputs files = .ok result) :
    AcceptsAll toInt files → Consistent toInt files := by
  rintro ⟨registry, built, accepts⟩
  obtain ⟨parsed, rfl⟩ := (fromPaths_iff passes).mp built
  have known : ∀ name ∈ (modulesOf files).map ModuleMetadata.name,
      (registryOf toInt files).knows name = true := by
    intro name listed
    obtain ⟨module, member, named⟩ := List.mem_map.mp listed
    exact knows_of_mem member named
  obtain ⟨-, clean, uncycled⟩ := (isValid_iff _ known).mp (accepts _ known)
  have reached {name : Text} (knows : (registryOf toInt files).knows name = true) :
      name ∈ reachable toInt files ((modulesOf files).map ModuleMetadata.name) := by
    obtain ⟨module, current⟩ := knows_iff.mp knows
    exact selected_reachable _ (List.mem_map.mpr ⟨module, current.mem⟩) knows
  refine ⟨parsed, ?_, ?_⟩
  · intro name module current reference refers target targeted
    have none := clean name (reached (knows_iff.mpr ⟨module, current⟩)) reference
      (mem_referencesOf.mpr ⟨module, current, refers⟩)
    rw [referenceErrors, targeted.resolve] at none
    by_contra differ
    simp [differ] at none
  · intro name cycle
    have step (left right : Text) (refers : Refers toInt files left right) :
        ((registryOf toInt files).cycles (reachable toInt files
          ((modulesOf files).map ModuleMetadata.name))).Adjacent left right := by
      obtain ⟨module, current, reference, listed, rfl⟩ := refers
      have there := mem_referencesOf.mpr ⟨module, current, listed⟩
      refine ⟨reference.targetName, List.mem_filter.mpr ⟨List.mem_map_of_mem there, ?_⟩, rfl⟩
      exact List.contains_iff_mem.mpr (reached (target_known passes there))
    have lawful : ((registryOf toInt files).cycles (reachable toInt files
        ((modulesOf files).map ModuleMetadata.name))).Lawful fun _ => True :=
      ⟨fun _ _ _ _ same => same, fun _ _ _ => trivial, fun _ _ none => by cases none⟩
    obtain ⟨-, ⟨module, current, -⟩, -⟩ := Relation.TransGen.head'_iff.mp cycle
    exact (Traversal.traverse_clean lawful (fun _ _ => trivial) uncycled
      (reached (knows_iff.mpr ⟨module, current⟩)) .refl).2.2 (Relation.TransGen.mono step _ _ cycle)

/-- Files that pass the gate make a registry that accepts every selection exactly when their highest
versions fit together. -/
theorem acceptsAll_iff (passes : validateRegistry inputs files = .ok result) :
    AcceptsAll toInt files ↔ Consistent toInt files := by
  refine ⟨consistent_of_acceptsAll passes, fun consistent => ?_⟩
  refine ⟨_, (fromPaths_iff passes).mpr ⟨consistent.parsed, rfl⟩, fun selected known => ?_⟩
  rw [isValid_iff selected known]
  refine ⟨?_, ?_, ?_⟩
  · apply Traversal.errors_traverse
    · intro name reference listed error reported
      simp [reachability, target_known passes listed] at reported
    · exact fun _ _ => rfl
    · rfl
  · intro name _ reference listed
    obtain ⟨module, current, refers⟩ := mem_referencesOf.mp listed
    obtain ⟨target, targeted⟩ := knows_iff.mp (target_known passes listed)
    rw [referenceErrors, targeted.resolve]
    exact if_pos (consistent.kinds name module current reference refers target targeted)
  · have sound : ((registryOf toInt files).cycles (reachable toInt files selected)).Sound
        ((modulesOf files).map ModuleMetadata.name).toFinset := by
      refine ⟨fun _ _ same => same, ?_, fun _ _ _ => rfl, fun name cycle => ?_⟩
      · intro name edge next listed at_end
        cases at_end
        have inside := List.contains_iff_mem.mp (List.mem_filter.mp listed).2
        obtain ⟨module, current⟩ := knows_iff.mp (reachable_known selected inside)
        exact List.mem_toFinset.mpr (List.mem_map.mpr ⟨module, current.mem⟩)
      · refine consistent.acyclic name
          (Relation.TransGen.mono (fun left right adjacent => ?_) _ _ cycle)
        obtain ⟨edge, listed, at_end⟩ := adjacent
        cases at_end
        obtain ⟨reference, refers, rfl⟩ := List.mem_map.mp (List.mem_filter.mp listed).1
        obtain ⟨module, current, refers⟩ := mem_referencesOf.mp refers
        exact ⟨module, current, reference, refers, rfl⟩
    refine sound.traverse ?_ ?_
    · have card := List.toFinset_card_le ((modulesOf files).map ModuleMetadata.name)
      rw [List.length_map] at card
      exact Nat.lt_succ_of_le card
    · intro name reached
      obtain ⟨module, current⟩ := knows_iff.mp (reachable_known selected reached)
      exact List.mem_toFinset.mpr (List.mem_map.mpr ⟨module, current.mem⟩)

def validatorFile (name : Text) (validators : List Text) : GovernedFile plainHost where
  path := name ++ ("/module.json" : Text)
  repoPath := name ++ ("/module.json" : Text)
  digest := "d1"
  module :=
    { name
      version := "0.1.0"
      kind := .validator
      description := "A validator."
      capabilityClass := "validation"
      references := fun field => if field = .validators then validators else []
      mode := .dependencyOnly }
  status := "active"
  environments := ["dev"]

def devGate : GateInputs plainHost where
  registryRoot := "registry/modules"
  fileErrors _ := []
  environments := [⟨"dev", "allowlist", ["active"], ["validation"]⟩]
  environmentPath name := name ++ (".json" : Text)

theorem lone_validator_accepted : AcceptsAll plainInt [validatorFile "auditor" []] := by
  have alone : ∀ name module, Current plainInt [validatorFile "auditor" []] name module →
      module.allReferences = [] := fun name module current => by
    rw [List.mem_singleton.mp current.mem.1]
    rfl
  refine (acceptsAll_iff (show validateRegistry devGate _ = .ok [] from rfl)).mpr
    ⟨by decide, fun name module current reference member => ?_, fun name cycle => ?_⟩
  · rw [alone name module current] at member
    cases member
  · obtain ⟨_, ⟨module, current, reference, member, _⟩, _⟩ :=
      Relation.TransGen.head'_iff.mp cycle
    rw [alone name module current] at member
    cases member

/-- Two validators that refer to each other pass the gate. -/
theorem cycle_passes_gate :
    validateRegistry devGate
      [validatorFile "auditor" ["checker"], validatorFile "checker" ["auditor"]] =
        .ok [] ∧
      ¬ AcceptsAll plainInt
        [validatorFile "auditor" ["checker"], validatorFile "checker" ["auditor"]] := by
  refine ⟨rfl, fun accepts => ?_⟩
  have consistent :=
    consistent_of_acceptsAll (show validateRegistry devGate _ = .ok [] from rfl) accepts
  refine consistent.acyclic "auditor" (.tail (.single (b := ("checker" : Text)) ?_) ?_)
  · exact ⟨(validatorFile "auditor" ["checker"]).module, rfl,
      ⟨"auditor", .validators, "checker"⟩, by decide, rfl⟩
  · exact ⟨(validatorFile "checker" ["auditor"]).module, rfl,
      ⟨"checker", .validators, "auditor"⟩, by decide, rfl⟩

end SkillCentric.GateSoundness
