import SkillCentric.Control.CandidateFilter
import SkillCentric.Library.Exploration

/-!
# Graph validation of the registry

`validate_graph` reports the names that the highest versions lead to from a selection, and accepts
the selection exactly when these names fit together.  A policy context has a say on the capability
classes that are reached, and on nothing else.
-/

namespace SkillCentric.GraphValidation

open SkillCentric Control InMemoryModuleRegistry

section First

variable {α : Type} {before : α → α → Prop} [DecidableRel before] {list : List α} {item other : α}

/-- The item comes before all that follow it in the list, and none of those ahead of it comes before
it. -/
def First (before : α → α → Prop) (list : List α) (item : α) : Prop :=
  ∃ ahead behind, list = ahead ++ item :: behind ∧ (∀ other ∈ ahead, ¬before other item) ∧
    ∀ other ∈ behind, before item other

omit [DecidableRel before] in
theorem First.unique (first : First before list item) (second : First before list other) :
    item = other := by
  obtain ⟨ahead, behind, split, ahead_not, behind_after⟩ := first
  obtain ⟨front, back, split_other, front_not, back_after⟩ := second
  rw [split] at split_other
  rcases List.append_eq_append_iff.mp split_other with ⟨rest, rfl, same⟩ | ⟨rest, rfl, same⟩
  · cases rest with
    | nil => exact (List.cons.inj same).1
    | cons head tail =>
        obtain ⟨rfl, rfl⟩ := List.cons.inj same
        exact absurd (behind_after other (by simp)) (front_not item (by simp))
  · cases rest with
    | nil => exact ((List.cons.inj same).1).symm
    | cons head tail =>
        obtain ⟨rfl, rfl⟩ := List.cons.inj same
        exact absurd (back_after item (by simp)) (ahead_not other (by simp))

theorem head?_insertionSort
    (total : ∀ left ∈ list, ∀ right ∈ list, before left right ∨ before right left)
    (trans : ∀ left ∈ list, ∀ middle ∈ list, ∀ right ∈ list,
      before left middle → before middle right → before left right) :
    (list.insertionSort before).head? = some item ↔ First before list item := by
  have exists_first : ∀ list : List α,
      (∀ left ∈ list, ∀ right ∈ list, before left right ∨ before right left) →
      (∀ left ∈ list, ∀ middle ∈ list, ∀ right ∈ list,
        before left middle → before middle right → before left right) →
      list ≠ [] →
        ∃ head, (list.insertionSort before).head? = some head ∧ First before list head := by
    intro list total trans nonempty
    induction list with
    | nil => exact absurd rfl nonempty
    | cons head rest ih =>
        by_cases none : rest = []
        · subst none
          exact ⟨head, rfl, [], [], rfl, List.forall_mem_nil _, List.forall_mem_nil _⟩
        obtain ⟨low, low_head, ahead, behind, rfl, ahead_not, behind_after⟩ := ih
          (fun left listed right others => total left (.tail _ listed) right (.tail _ others))
          (fun left listed middle between right others =>
            trans left (.tail _ listed) middle (.tail _ between) right (.tail _ others)) none
        obtain ⟨tail, sorted⟩ : ∃ tail,
            (ahead ++ low :: behind).insertionSort before = low :: tail := by
          cases sorted : (ahead ++ low :: behind).insertionSort before with
          | nil => simp [sorted] at low_head
          | cons first tail =>
              rw [sorted, List.head?_cons, Option.some.injEq] at low_head
              exact ⟨tail, by rw [low_head]⟩
        rw [List.insertionSort_cons, sorted, List.orderedInsert]
        have low_mem : low ∈ head :: (ahead ++ low :: behind) := by simp
        split_ifs with head_first
        · refine ⟨head, rfl, [], _, rfl, List.forall_mem_nil _, fun other listed => ?_⟩
          have after_low : before low other := by
            rcases List.mem_append.mp listed with front | back
            · exact (total low low_mem other (by simp [front])).resolve_right
                (ahead_not other front)
            · rcases List.mem_cons.mp back with rfl | back
              · exact (total other low_mem other low_mem).elim id id
              · exact behind_after other back
          exact trans head List.mem_cons_self low low_mem other (.tail _ listed)
            head_first after_low
        · exact ⟨low, rfl, head :: ahead, behind, rfl,
            List.forall_mem_cons.mpr ⟨head_first, ahead_not⟩, behind_after⟩
  constructor
  · intro starts
    have nonempty : list ≠ [] := by
      rintro rfl
      cases starts
    obtain ⟨head, found, first⟩ := exists_first list total trans nonempty
    rw [found] at starts
    exact Option.some.inj starts ▸ first
  · intro first
    have nonempty : list ≠ [] := by
      obtain ⟨ahead, behind, rfl, -⟩ := first
      simp
    obtain ⟨head, found, other⟩ := exists_first list total trans nonempty
    rw [found, other.unique first]

end First

section Specification

variable {host : Host} (toInt : Text → Option Int) (modules : List (ModuleMetadata host))

/-- The version of the module is below that of the other. -/
def Lower (module other : ModuleMetadata host) : Prop :=
  ∃ lower upper, semverKey toInt module.version = some lower ∧
    semverKey toInt other.version = some upper ∧ lower < upper

/-- The first module of the name that no other one exceeds. -/
def Highest (name : Text) (module : ModuleMetadata host) : Prop :=
  ∃ ahead behind, modules = ahead ++ module :: behind ∧ module.name = name ∧
    (∀ other ∈ ahead, other.name = name → Lower toInt other module) ∧
    ∀ other ∈ behind, other.name = name → ¬Lower toInt module other

/-- A module has the name. -/
def Known (name : Text) : Prop := ∃ module ∈ modules, module.name = name

/-- The highest version of the name refers to the next one. -/
def Refers (name next : Text) : Prop :=
  ∃ module, Highest toInt modules name module ∧
    ∃ reference ∈ module.allReferences, reference.targetName = next

/-- A selection leads to a known name. -/
def LeadsTo (selected : List Text) (name : Text) : Prop :=
  Known modules name ∧ ∃ start ∈ selected, Relation.ReflTransGen (Refers toInt modules) start name

/-- What a selection leads to fits together. -/
structure Fits (selected deniedCapabilityClasses : List Text) : Prop where
  known : ∀ name ∈ selected, Known modules name
  references : ∀ name module, LeadsTo toInt modules selected name →
    Highest toInt modules name module → ∀ reference ∈ module.allReferences,
      ∃ target, Highest toInt modules reference.targetName target ∧
        target.kind = reference.field.kind
  allowed : ∀ name module, LeadsTo toInt modules selected name →
    Highest toInt modules name module → module.capabilityClass ∉ deniedCapabilityClasses
  acyclic : ∀ name, LeadsTo toInt modules selected name →
    ¬Relation.TransGen (Refers toInt modules) name name

end Specification

variable {host : Host} {toInt : Text → Option Int} {modules : List (ModuleMetadata host)}
variable {registry : InMemoryModuleRegistry host} {name : Text} {module : ModuleMetadata host}

theorem Highest.mem (highest : Highest toInt modules name module) :
    module ∈ modules ∧ module.name = name := by
  obtain ⟨ahead, behind, rfl, named, -⟩ := highest
  exact ⟨by simp, named⟩

section Registry

variable (created : create toInt modules = .ok registry)

theorem notAbove_iff {left right : ModuleMetadata host}
    (left_parsed : (semverKey toInt left.version).isSome = true)
    (right_parsed : (semverKey toInt right.version).isSome = true) :
    notAbove toInt left right = true ↔ ¬Lower toInt right left := by
  obtain ⟨lower, left_key⟩ := Option.isSome_iff_exists.mp left_parsed
  obtain ⟨upper, right_key⟩ := Option.isSome_iff_exists.mp right_parsed
  simp [notAbove, Lower, left_key, right_key]

theorem not_lower_trans {left middle right : ModuleMetadata host} (first : ¬Lower toInt left middle)
    (second : ¬Lower toInt middle right)
    (parsed : (semverKey toInt middle.version).isSome = true) : ¬Lower toInt left right := by
  obtain ⟨between, middle_key⟩ := Option.isSome_iff_exists.mp parsed
  rintro ⟨lower, upper, left_key, right_key, below⟩
  have first_le : between ≤ lower :=
    not_lt.mp fun less => first ⟨lower, between, left_key, middle_key, less⟩
  have second_le : upper ≤ between := not_lt.mp fun less =>
    second ⟨between, upper, middle_key, right_key, less⟩
  exact absurd (below.trans_le (second_le.trans first_le)) (lt_irrefl lower)

theorem lower_asymm {left right : ModuleMetadata host} (lower : Lower toInt left right) :
    ¬Lower toInt right left := by
  obtain ⟨low, high, left_key, right_key, below⟩ := lower
  rintro ⟨low', high', right_key', left_key', above⟩
  cases left_key.symm.trans left_key'
  cases right_key.symm.trans right_key'
  exact lt_asymm below above

theorem head?_versionsOf
    (parsed : ∀ module ∈ modules, (semverKey toInt module.version).isSome = true) :
    (versionsOf toInt modules name).head? = some module ↔
      Highest toInt modules name module := by
  have listed {other : ModuleMetadata host}
      (member : other ∈ modules.filter fun module => module.name = name) :
      (semverKey toInt other.version).isSome = true := parsed other (List.mem_filter.mp member).1
  rw [versionsOf, head?_insertionSort]
  · constructor
    · rintro ⟨ahead, behind, split, ahead_not, behind_after⟩
      obtain ⟨front, rest, rfl, rfl, rest_eq⟩ := List.filter_eq_append_iff.mp split
      obtain ⟨skipped, back, rfl, others, named, rfl⟩ := List.filter_eq_cons_iff.mp rest_eq
      have module_parsed := parsed module (by simp)
      refine ⟨front ++ skipped, back, by simp, by simpa using named, ?_, ?_⟩
      · intro other member same
        rcases List.mem_append.mp member with ahead | between
        · have above : ¬notAbove toInt module other = true :=
            ahead_not other (List.mem_filter.mpr ⟨ahead, by simpa using same⟩)
          rwa [notAbove_iff module_parsed (parsed other (by simp [ahead])), not_not] at above
        · exact absurd (by simpa using same) (others other between)
      · intro other member same
        have after : notAbove toInt other module = true :=
          behind_after other (List.mem_filter.mpr ⟨member, by simpa using same⟩)
        rwa [notAbove_iff (parsed other (by simp [member])) module_parsed] at after
    · rintro ⟨ahead, behind, rfl, named, ahead_lower, behind_not⟩
      have module_parsed := parsed module (by simp)
      refine ⟨ahead.filter fun module => module.name = name,
        behind.filter fun module => module.name = name, by simp [named], ?_, ?_⟩
      · intro other member
        obtain ⟨member, same⟩ := List.mem_filter.mp member
        show ¬notAbove toInt module other = true
        rw [notAbove_iff module_parsed (parsed other (by simp [member])), not_not]
        exact ahead_lower other member (by simpa using same)
      · intro other member
        obtain ⟨member, same⟩ := List.mem_filter.mp member
        show notAbove toInt other module = true
        rw [notAbove_iff (parsed other (by simp [member])) module_parsed]
        exact behind_not other member (by simpa using same)
  · intro left left_mem right right_mem
    rw [notAbove_iff (listed right_mem) (listed left_mem),
      notAbove_iff (listed left_mem) (listed right_mem)]
    exact (em (Lower toInt left right)).elim (fun lower => .inr (lower_asymm lower)) .inl
  · intro left left_mem middle middle_mem right right_mem
    rw [notAbove_iff (listed middle_mem) (listed left_mem),
      notAbove_iff (listed right_mem) (listed middle_mem),
      notAbove_iff (listed right_mem) (listed left_mem)]
    exact fun first second => not_lower_trans first second (listed middle_mem)

include created

theorem resolve_iff : registry.resolve name = .ok module ↔ Highest toInt modules name module := by
  obtain ⟨⟨-, parsed⟩, rfl⟩ := create_eq_ok.mp created
  rw [resolve_eq_ok, ← head?_versionsOf parsed]

theorem knows_iff : registry.knows name = true ↔ Known modules name := by
  rw [InMemoryModuleRegistry.knows_iff]
  constructor
  · rintro ⟨module, resolved⟩
    exact ⟨module, ((resolve_iff created).mp resolved).mem⟩
  · rintro ⟨module, listed, named⟩
    obtain ⟨-, rfl⟩ := create_eq_ok.mp created
    have member : module ∈ versionsOf toInt modules name :=
      mem_versionsOf.mpr ⟨listed, named⟩
    have nonempty := List.ne_nil_of_mem member
    exact InMemoryModuleRegistry.knows_iff.mp
      (by simpa [knows] using nonempty)

theorem known_iff_highest : Known modules name ↔ ∃ module, Highest toInt modules name module := by
  rw [← knows_iff created, InMemoryModuleRegistry.knows_iff]
  exact exists_congr fun module => resolve_iff created

theorem refers_iff {next : Text} : Refers toInt modules name next ↔
    ∃ reference ∈ registry.referencesOf name, reference.targetName = next := by
  simp only [mem_referencesOf, resolve_iff created]
  constructor
  · rintro ⟨module, highest, reference, listed, rfl⟩
    exact ⟨reference, ⟨module, highest, listed⟩, rfl⟩
  · rintro ⟨reference, ⟨module, highest, listed⟩, rfl⟩
    exact ⟨module, highest, reference, listed, rfl⟩

end Registry

section Reached

variable (created : create toInt modules = .ok registry)
  {selected : List Text} {next : Text}

theorem Refers.known (refers : Refers toInt modules name next) : Known modules name := by
  obtain ⟨module, highest, -⟩ := refers
  exact ⟨module, highest.mem⟩

theorem LeadsTo.tail (leads : LeadsTo toInt modules selected name)
    (refers : Refers toInt modules name next)
    (known : Known modules next) : LeadsTo toInt modules selected next := by
  obtain ⟨-, start, listed, path⟩ := leads
  exact ⟨known, start, listed, path.tail refers⟩

include created

theorem adjacent_iff :
    registry.reachability.Adjacent name next ↔
      Refers toInt modules name next ∧ Known modules next := by
  rw [refers_iff created, ← knows_iff created]
  show (∃ reference ∈ registry.referencesOf name, (if registry.knows reference.targetName then
    some reference.targetName else none) = some next) ↔ _
  constructor
  · rintro ⟨reference, listed, at_end⟩
    split at at_end
    · rename_i known
      cases at_end
      exact ⟨⟨reference, listed, rfl⟩, known⟩
    · cases at_end
  · rintro ⟨⟨reference, listed, rfl⟩, known⟩
    exact ⟨reference, listed, if_pos known⟩

theorem leadsTo_iff : LeadsTo toInt modules selected name ↔
    registry.reachability.Reachable (selected.eraseDups.filter registry.knows) name := by
  constructor
  · rintro ⟨known, start, listed, path⟩
    have whole : Known modules start ∧
        Relation.ReflTransGen registry.reachability.Adjacent start name := by
      induction path with
      | refl => exact ⟨known, .refl⟩
      | tail _ refers ih =>
          obtain ⟨start_known, path⟩ := ih refers.known
          exact ⟨start_known, path.tail ((adjacent_iff created).mpr ⟨refers, known⟩)⟩
    exact ⟨start,
      List.mem_filter.mpr ⟨List.mem_eraseDups.mpr listed, (knows_iff created).mpr whole.1⟩,
      whole.2⟩
  · rintro ⟨start, listed, path⟩
    obtain ⟨listed, known⟩ := List.mem_filter.mp listed
    have leads : LeadsTo toInt modules selected start :=
      ⟨(knows_iff created).mp known, start, List.mem_eraseDups.mp listed, .refl⟩
    induction path with
    | refl => exact leads
    | tail _ adjacent ih =>
        obtain ⟨refers, known⟩ := (adjacent_iff created).mp adjacent
        exact ih.tail refers known

theorem name_mem_keys (known : Known modules name) :
    name ∈ (registry.modules.map ModuleMetadata.name).toFinset := by
  obtain ⟨-, rfl⟩ := create_eq_ok.mp created
  obtain ⟨module, listed, rfl⟩ := known
  exact List.mem_toFinset.mpr (List.mem_map_of_mem listed)

omit created in
theorem card_keys_lt (registry : InMemoryModuleRegistry host) :
    (registry.modules.map ModuleMetadata.name).toFinset.card < registry.modules.length + 1 := by
  have card := List.toFinset_card_le (registry.modules.map ModuleMetadata.name)
  rw [List.length_map] at card
  exact Nat.lt_succ_of_le card

theorem collected_runs : registry.reachability.Runs
    (.roots (selected.eraseDups.filter registry.knows)) {}
    (registry.reachability.traverse (registry.modules.length + 1)
      (selected.eraseDups.filter registry.knows)) := by
  refine Traversal.runs_traverse ?_ (card_keys_lt registry) ?_
  · intro vertex reference next listed at_end
    exact name_mem_keys created ((adjacent_iff created).mp ⟨reference, listed, at_end⟩).2
  · exact fun root listed =>
      name_mem_keys created ((knows_iff created).mp (List.mem_filter.mp listed).2)

theorem mem_collected_iff : name ∈ (registry.reachability.traverse (registry.modules.length + 1)
    (selected.eraseDups.filter registry.knows)).reached ↔ LeadsTo toInt modules selected name := by
  have injective : ∀ vertex other, True → True → registry.reachability.key vertex =
      registry.reachability.key other → vertex = other := fun _ _ _ _ same => same
  rw [(collected_runs created).mem_reached_iff injective (fun _ _ _ => trivial) fun _ _ => trivial,
    leadsTo_iff created]
  exact ⟨fun ⟨vertex, reachable, same⟩ => same ▸ reachable, fun reachable => ⟨name, reachable, rfl⟩⟩

theorem mem_reachableModules_iff {denied : List Text} :
    name ∈ (registry.validateGraph selected denied).reachableModules ↔
      LeadsTo toInt modules selected name := by
  rw [← mem_collected_iff created]
  exact List.mem_insertionSort _

end Reached

section Reported

variable (created : create toInt modules = .ok registry)
  {selected denied : List Text} {next : Text}

theorem referenceErrors_eq_nil {reference : FileReference} :
    registry.referenceErrors reference = [] ↔
    ∃ target, registry.resolve reference.targetName = .ok target ∧
      target.kind = reference.field.kind := by
  unfold referenceErrors
  cases registry.resolve reference.targetName <;> simp

theorem capabilityErrors_eq_nil : registry.capabilityErrors denied name = [] ↔
    ∀ module, registry.resolve name = .ok module → module.capabilityClass ∉ denied := by
  unfold capabilityErrors
  cases registry.resolve name <;> simp

variable {names : List Text}

theorem cycles_adjacent_iff : (registry.cycles names).Adjacent name next ↔
    (∃ reference ∈ registry.referencesOf name, reference.targetName = next) ∧ next ∈ names := by
  constructor
  · rintro ⟨edge, listed, at_end⟩
    cases at_end
    obtain ⟨referred, inside⟩ := List.mem_filter.mp listed
    exact ⟨List.mem_map.mp referred, List.contains_iff_mem.mp inside⟩
  · rintro ⟨referred, inside⟩
    exact ⟨next,
      List.mem_filter.mpr ⟨List.mem_map.mpr referred, List.contains_iff_mem.mpr inside⟩, rfl⟩

include created

theorem transGen_cycles (reached : ∀ name, name ∈ names ↔ LeadsTo toInt modules selected name)
    (leads : LeadsTo toInt modules selected name) (known : Known modules next)
    (path : Relation.TransGen (Refers toInt modules) name next) :
    Relation.TransGen (registry.cycles names).Adjacent name next ∧
      LeadsTo toInt modules selected next := by
  induction path with
  | single refers =>
      have there := leads.tail refers known
      exact ⟨.single
        (cycles_adjacent_iff.mpr ⟨(refers_iff created).mp refers, (reached _).mpr there⟩), there⟩
  | tail _ refers ih =>
      obtain ⟨path, middle⟩ := ih refers.known
      have there := middle.tail refers known
      exact ⟨path.tail
        (cycles_adjacent_iff.mpr ⟨(refers_iff created).mp refers, (reached _).mpr there⟩), there⟩

theorem cycles_eq_nil (reached : ∀ name, name ∈ names ↔ LeadsTo toInt modules selected name) :
    ((registry.cycles names).traverse (registry.modules.length + 1) names).errors = [] ↔
      ∀ name, LeadsTo toInt modules selected name →
        ¬Relation.TransGen (Refers toInt modules) name name := by
  have lawful : (registry.cycles names).Lawful fun _ => True :=
    ⟨fun _ _ _ _ same => same, fun _ _ _ => trivial, fun _ _ none => by cases none⟩
  rw [Traversal.traverse_errors_eq_nil_iff lawful ?_
    (card_keys_lt registry) (fun _ _ => trivial) ?_]
  · constructor
    · intro fine name leads cycle
      refine (fine name ⟨name, (reached name).mpr leads, .refl⟩).2 ?_
      exact (transGen_cycles created reached leads leads.1 cycle).1
    · rintro uncycled name ⟨root, root_mem, path⟩
      have leads : LeadsTo toInt modules selected name := by
        induction path with
        | refl => exact (reached root).mp root_mem
        | tail _ adjacent _ => exact (reached _).mp (cycles_adjacent_iff.mp adjacent).2
      refine ⟨fun _ _ => rfl, fun cycle => uncycled name leads ?_⟩
      exact Relation.TransGen.mono
        (fun _ _ adjacent => (refers_iff created).mpr (cycles_adjacent_iff.mp adjacent).1) _ _ cycle
  · intro vertex edge next listed at_end
    exact name_mem_keys created
      ((reached next).mp (cycles_adjacent_iff.mp ⟨edge, listed, at_end⟩).2).1
  · exact fun root root_mem => name_mem_keys created ((reached root).mp root_mem).1

theorem collected_errors (known : ∀ name, LeadsTo toInt modules selected name →
      ∀ reference ∈ registry.referencesOf name, Known modules reference.targetName) :
    (registry.reachability.traverse (registry.modules.length + 1)
      (selected.eraseDups.filter registry.knows)).errors.filterMap id = [] := by
  rw [List.filterMap_eq_nil_iff]
  have inside : ∀ vertex next, LeadsTo toInt modules selected vertex →
      registry.reachability.Adjacent vertex next → LeadsTo toInt modules selected next := by
    intro vertex next leads adjacent
    obtain ⟨refers, known⟩ := (adjacent_iff created).mp adjacent
    exact leads.tail refers known
  refine (collected_runs created).errors_forall inside ?_ ?_ ?_ (List.forall_mem_nil _)
  · intro vertex leads reference listed error reported
    have knows := (knows_iff created).mpr (known vertex leads reference listed)
    simp [reachability, knows] at reported
  · exact fun _ _ => rfl
  · intro root listed
    exact (leadsTo_iff created).mpr ⟨root, listed, .refl⟩

theorem isValid_iff : (registry.validateGraph selected denied).isValid = true ↔
    Fits toInt modules selected denied := by
  have reached (name : Text) : name ∈ (registry.validateGraph selected denied).reachableModules ↔
      LeadsTo toInt modules selected name := mem_reachableModules_iff created
  have selected_known : (selected.eraseDups.filter fun name => !registry.knows name) = [] ↔
      ∀ name ∈ selected, Known modules name := by
    simp only [List.filter_eq_nil_iff, List.mem_eraseDups, Bool.not_eq_true', Bool.not_eq_false,
      knows_iff created]
  have checked : ((registry.validateGraph selected denied).reachableModules.flatMap fun name =>
      (registry.referencesOf name).flatMap registry.referenceErrors ++
        registry.capabilityErrors denied name) = [] ↔
      ∀ name, LeadsTo toInt modules selected name →
        (∀ reference ∈ registry.referencesOf name, registry.referenceErrors reference = []) ∧
          registry.capabilityErrors denied name = [] := by
    simp only [List.flatMap_eq_nil_iff, List.append_eq_nil_iff, reached]
  have whole : (registry.validateGraph selected denied).isValid = true ↔
      (selected.eraseDups.filter fun name => !registry.knows name) = [] ∧
      (registry.reachability.traverse (registry.modules.length + 1)
        (selected.eraseDups.filter registry.knows)).errors.filterMap id = [] ∧
      ((registry.validateGraph selected denied).reachableModules.flatMap fun name =>
        (registry.referencesOf name).flatMap registry.referenceErrors ++
          registry.capabilityErrors denied name) = [] ∧
      ((registry.cycles (registry.validateGraph selected denied).reachableModules).traverse
        (registry.modules.length + 1)
          (registry.validateGraph selected denied).reachableModules).errors =
          [] := by
    simp only [InMemoryModuleRegistry.validateGraph, List.isEmpty_iff, List.append_eq_nil_iff,
      List.map_eq_nil_iff, and_assoc]
  rw [whole, selected_known, checked, cycles_eq_nil created reached]
  simp only [referenceErrors_eq_nil, capabilityErrors_eq_nil,
    mem_referencesOf,
    resolve_iff created]
  constructor
  · rintro ⟨known, -, fine, acyclic⟩
    exact ⟨known, fun name module leads highest reference listed =>
      (fine name leads).1 reference ⟨module, highest, listed⟩,
      fun name module leads highest => (fine name leads).2 module highest, acyclic⟩
  · intro fits
    have fine (name : Text) (leads : LeadsTo toInt modules selected name)
        (reference : FileReference)
        (listed : ∃ module, Highest toInt modules name module ∧ reference ∈ module.allReferences) :
        ∃ target, Highest toInt modules reference.targetName target ∧
          target.kind = reference.field.kind := by
      obtain ⟨module, highest, listed⟩ := listed
      exact fits.references name module leads highest reference listed
    refine ⟨fits.known, collected_errors created ?_, ?_, fits.acyclic⟩
    · intro name leads reference listed
      simp only [mem_referencesOf, resolve_iff created] at listed
      obtain ⟨target, highest, -⟩ := fine name leads reference listed
      exact ⟨target, highest.mem⟩
    · exact fun name leads => ⟨fine name leads, fun module highest =>
        fits.allowed name module leads highest⟩

end Reported

/-- What `validate_graph` answers for every selection and policy context. -/
theorem validateGraph_exact (created : create toInt modules = .ok registry)
    (selected : List Text) (context : Option PolicyContext) :
    (∀ name, name ∈ (registry.validateGraphIn selected context).reachableModules ↔
      LeadsTo toInt modules selected name) ∧
    ((registry.validateGraphIn selected context).isValid = true ↔
      Fits toInt modules selected (context.elim [] PolicyContext.deniedCapabilityClasses)) :=
  ⟨fun _ => mem_reachableModules_iff created, isValid_iff created⟩

/-- A skill that needs a tool, in two versions. -/
def toolUse : List (ModuleMetadata plainHost) :=
  [{ name := "reader", version := "0.1.0", kind := .skill, description := "Reads.",
     capabilityClass := "analysis", mode := .direct },
   { name := "reader", version := "0.2.0", kind := .skill, description := "Reads files.",
     capabilityClass := "analysis", mode := .direct,
     references := fun field => if field = .requiredTools then ["shell"] else [] },
   { name := "shell", version := "0.1.0", kind := .tool, description := "Runs commands.",
     capabilityClass := "tool_access", mode := .dependencyOnly }]

def toolRegistry : InMemoryModuleRegistry plainHost :=
  ⟨toolUse, versionsOf plainInt toolUse⟩

theorem toolUse_fits :
    (∀ name, name ∈ (["reader", "shell"] : List Text) ↔
      LeadsTo plainInt toolUse ["reader"] name) ∧ Fits plainInt toolUse ["reader"] [] :=
  have exactly := validateGraph_exact
    (show create plainInt toolUse = .ok toolRegistry from rfl)
    ["reader"] none
  ⟨exactly.1, exactly.2.mp (by decide)⟩

/-- In a valid graph the filter denies a module for its name or its kind, never for its capability
class. -/
theorem valid_graph_denials (created : create toInt modules = .ok registry)
    {selected : List Text} {context : PolicyContext}
    (valid : (registry.validateGraphIn selected (some context)).isValid = true)
    (reached : name ∈ (registry.validateGraphIn selected (some context)).reachableModules) :
    ∃ module, registry.resolve name = .ok module ∧
      ((filterCandidate module context).effect = .deny ↔
        name ∈ context.deniedModuleIds ∨ module.kind.text ∈ context.deniedKinds) := by
  have leads := (mem_reachableModules_iff created).mp reached
  obtain ⟨module, highest⟩ := (known_iff_highest created).mp leads.1
  have allowed := ((isValid_iff created).mp valid).allowed name module leads highest
  refine ⟨module, (resolve_iff created).mpr highest, ?_⟩
  rw [filterCandidate_deny_iff, highest.mem.2]
  exact ⟨fun denied => denied.imp_right fun denied => denied.resolve_right allowed,
    fun denied => denied.imp_right .inl⟩

def shellDenied : PolicyContext where
  deniedModuleIds := ["shell"]

theorem toolUse_not_denied : ∃ module, toolRegistry.resolve "reader" = .ok module ∧
    (filterCandidate module shellDenied).effect ≠ .deny := by
  obtain ⟨module, resolved, denied⟩ := valid_graph_denials
    (show create plainInt toolUse = .ok toolRegistry from rfl)
    (show (toolRegistry.validateGraphIn ["reader"] (some shellDenied)).isValid = true by decide)
    (show ("reader" : Text) ∈
      (toolRegistry.validateGraphIn ["reader"] (some shellDenied)).reachableModules by decide)
  refine ⟨module, resolved, denied.not.mpr ?_⟩
  cases resolved
  decide

/-- The graph is valid, and reaches the tool that the filter denies. -/
theorem denied_tool_reached :
    create plainInt toolUse = .ok toolRegistry ∧
    ¬ ∀ (selected : List Text) (context : PolicyContext) (name : Text) (module :
      ModuleMetadata plainHost),
      (toolRegistry.validateGraphIn selected (some context)).isValid = true →
      name ∈ (toolRegistry.validateGraphIn selected (some context)).reachableModules →
      toolRegistry.resolve name = .ok module →
      (filterCandidate module context).effect ≠ .deny := by
  refine ⟨rfl, fun nothing => ?_⟩
  exact nothing ["reader"] shellDenied "shell" toolUse[2] (by decide) (by decide) rfl (by decide)

end SkillCentric.GraphValidation
