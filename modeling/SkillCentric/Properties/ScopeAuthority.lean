import SkillCentric.Control.TenantAuthority
import SkillCentric.Properties.DependencyValidation

/-!
# Scope names of authority snapshots

`allowedScopeNamesByKind` collects the scopes that some binding allows; retrieval and graph
validation read the same bindings by `scopeBindingAllows`, where a denial overrides.  The two agree
on a registry exactly when none of its scopes is both allowed and denied.
-/

namespace SkillCentric.ScopeAuthority

open SkillCentric Control DependencyValidation

variable {host : Host} {modules : List (RegistryModule host)} {bindings : List ScopeBinding}
  {binding : ScopeBinding} {allowed : AllowedScopeNames} {kind : ModuleKind} {name : Text}

private theorem mem_sortNames {names : List Text} : name ∈ sortNames names ↔ name ∈ names :=
  List.mem_insertionSort _

theorem mem_allowedScopeNamesByKind :
    name ∈ (allowedScopeNamesByKind bindings modules).ofKind kind ↔
      name ∈ (bindings.foldl (addAllowedScope modules) {}).ofKind kind := by
  cases kind <;> first | exact mem_sortNames | exact Iff.rfl

theorem mem_addName {names : List Text} {added : Text} :
    name ∈ AllowedScopeNames.addName names added ↔ name ∈ names ∨ name = added := by
  unfold AllowedScopeNames.addName
  split
  · rename_i present
    exact ⟨.inl, fun either => either.elim id fun same => same ▸ present⟩
  · rw [List.mem_append, List.mem_singleton]

theorem mem_add {added : Text} {addedKind : ModuleKind} (scope : addedKind.isScope = true) :
    name ∈ (allowed.add addedKind added).ofKind kind ↔
      name ∈ allowed.ofKind kind ∨ (kind = addedKind ∧ name = added) := by
  cases addedKind with
  | knowledgeScope | dataScope | memoryScope =>
      cases kind <;>
        first
          | exact mem_addName.trans (or_congr_right (and_iff_right rfl).symm)
          | exact (or_iff_left fun both => ModuleKind.noConfusion both.1).symm
  | skill | instruction | tool | policy | validator => cases scope

/-- The binding allows the scope module of this kind and name. -/
def Collects (modules : List (RegistryModule host)) (binding : ScopeBinding) (kind : ModuleKind)
    (name : Text) : Prop :=
  binding.effect = .allow ∧ binding.scopeKind.isScope = true ∧
    ∃ module, moduleById modules binding.scopeId = some module ∧ module.kind.isScope = true ∧
      kind = module.kind ∧ name = module.name

theorem mem_addAllowedScope :
    name ∈ (addAllowedScope modules allowed binding).ofKind kind ↔
      name ∈ allowed.ofKind kind ∨ Collects modules binding kind name := by
  unfold addAllowedScope
  by_cases skipped : (binding.effect ≠ .allow || !binding.scopeKind.isScope) = true
  · rw [if_pos skipped]
    refine (or_iff_left ?_).symm
    rintro ⟨allows, scope, -⟩
    rw [allows, scope] at skipped
    cases skipped
  · rw [if_neg skipped]
    have read : binding.effect = .allow ∧ binding.scopeKind.isScope = true := by
      simpa using skipped
    cases found : moduleById modules binding.scopeId with
    | none =>
        refine (or_iff_left ?_).symm
        rintro ⟨-, -, module, known, -⟩
        cases found.symm.trans known
    | some module =>
        dsimp only
        split
        · rename_i scope
          rw [mem_add scope]
          refine or_congr_right ⟨fun same => ⟨read.1, read.2, module, found, scope, same⟩, ?_⟩
          rintro ⟨-, -, other, known, -, same⟩
          cases found.symm.trans known
          exact same
        · rename_i scope
          refine (or_iff_left ?_).symm
          rintro ⟨-, -, other, known, named, -⟩
          cases found.symm.trans known
          exact scope named

theorem mem_foldl_addAllowedScope :
    name ∈ (bindings.foldl (addAllowedScope modules) allowed).ofKind kind ↔
      name ∈ allowed.ofKind kind ∨ ∃ binding ∈ bindings, Collects modules binding kind name := by
  induction bindings generalizing allowed with
  | nil => simp only [List.foldl_nil, List.not_mem_nil, false_and, exists_false, or_false]
  | cons binding rest ih =>
      rw [List.foldl_cons, ih, mem_addAllowedScope, or_assoc, List.exists_mem_cons_iff]

/-- The names of a kind are those of its scopes that retrieval and graph validation allow. -/
def Agree (bindings : List ScopeBinding) (modules : List (RegistryModule host)) : Prop :=
  ∀ kind name, kind.isScope = true →
    (name ∈ (allowedScopeNamesByKind bindings modules).ofKind kind ↔
      ∃ module ∈ modules, module.kind = kind ∧ module.name = name ∧
        scopeBindingAllows module.id bindings = true)

/-- A binding of the scope has the effect. -/
def Bound (bindings : List ScopeBinding) (scopeId : Text) (effect : Effect) : Prop :=
  ∃ binding ∈ bindings, binding.scopeId = scopeId ∧ binding.effect = effect

theorem scopeBindingAllows_iff_bound {scopeId : Text} :
    scopeBindingAllows scopeId bindings = true ↔
      Bound bindings scopeId .allow ∧ ¬ Bound bindings scopeId .deny := by
  rw [scopeBindingAllows_iff]
  refine and_congr_right fun _ => ?_
  simp only [Bound, not_exists, not_and, ne_eq]

theorem isScope_of_loaded {database : Database} {principal : Principal}
    (loaded : binding ∈ loadScopeBindings database principal) :
    binding.scopeKind.isScope = true := by
  obtain ⟨row, selected, rfl⟩ := List.mem_map.mp loaded
  exact (List.mem_filter.mp selected).2

section Exact

variable (keyed : (modules.map RegistryModule.id).Nodup)
  (scopes : ∀ binding ∈ bindings, binding.scopeKind.isScope = true)

include keyed scopes in
theorem mem_allowed_iff (scope : kind.isScope = true) :
    name ∈ (allowedScopeNamesByKind bindings modules).ofKind kind ↔
      ∃ module ∈ modules, module.kind = kind ∧ module.name = name ∧
        Bound bindings module.id .allow := by
  have empty : name ∉ ({} : AllowedScopeNames).ofKind kind := by
    cases kind <;> exact List.not_mem_nil
  rw [mem_allowedScopeNamesByKind, mem_foldl_addAllowedScope, or_iff_right empty]
  constructor
  · rintro ⟨binding, listed, allows, -, module, found, -, rfl, rfl⟩
    obtain ⟨known, same⟩ := (moduleById_eq_some keyed).mp found
    exact ⟨module, known, rfl, rfl, binding, listed, same.symm, allows⟩
  · rintro ⟨module, known, rfl, rfl, binding, listed, same, allows⟩
    exact ⟨binding, listed, allows, scopes binding listed, module,
      (moduleById_eq_some keyed).mpr ⟨known, same.symm⟩, scope, rfl, rfl⟩

include keyed scopes in
/-- The authority's names agree with `scopeBindingAllows` exactly when no scope of the registry is
both allowed and denied. -/
theorem scopes_agree_iff (named : (modules.map RegistryModule.name).Nodup) :
    Agree bindings modules ↔ ∀ module ∈ modules, module.kind.isScope = true →
      ¬ (Bound bindings module.id .allow ∧ Bound bindings module.id .deny) := by
  constructor
  · rintro agree module known scope ⟨allows, denies⟩
    have collected := (mem_allowed_iff keyed scopes scope).mpr ⟨module, known, rfl, rfl, allows⟩
    obtain ⟨other, other_known, -, same, rule⟩ := (agree _ _ scope).mp collected
    cases List.inj_on_of_nodup_map named other_known known same
    exact (scopeBindingAllows_iff_bound.mp rule).2 denies
  · intro apart kind name scope
    rw [mem_allowed_iff keyed scopes scope]
    refine exists_congr fun module => and_congr_right fun known => and_congr_right fun same =>
      and_congr_right fun _ => ?_
    rw [scopeBindingAllows_iff_bound]
    exact (and_iff_left_of_imp fun allows denies =>
      apart module known (same ▸ scope) ⟨allows, denies⟩).symm

end Exact

/-- A handbook that readers are allowed, and that the auditor is allowed and denied. -/
def handbookBindings : Database where
  scopeBindings :=
    ⟨[⟨"1", "handbook", .knowledgeScope, .role, "reader", "read", .allow⟩,
      ⟨"2", "handbook", .knowledgeScope, .role, "auditor", "read", .allow⟩,
      ⟨"3", "handbook", .knowledgeScope, .role, "auditor", "embargo", .deny⟩], by decide⟩

theorem reader_agrees :
    Agree (loadScopeBindings handbookBindings ⟨.role, "reader"⟩)
      [plainModule "handbook" .knowledgeScope] :=
  (scopes_agree_iff (by decide) (fun _ => isScope_of_loaded) (by decide)).mpr (by
    intro module known _ both
    obtain ⟨binding, listed, -, denies⟩ := both.2
    revert binding
    decide)

/-- The snapshot of the auditor names the handbook, which retrieval denies. -/
theorem denied_scope_named :
    ("handbook" : Text) ∈ (allowedScopeNamesByKind
      (loadScopeBindings handbookBindings ⟨.role, "auditor"⟩)
      [plainModule "handbook" .knowledgeScope]).ofKind .knowledgeScope ∧
    scopeBindingAllows "handbook" (loadScopeBindings handbookBindings ⟨.role, "auditor"⟩) = false ∧
    ¬ Agree (loadScopeBindings handbookBindings ⟨.role, "auditor"⟩)
      [plainModule "handbook" .knowledgeScope] := by
  have named : ("handbook" : Text) ∈ (allowedScopeNamesByKind
      (loadScopeBindings handbookBindings ⟨.role, "auditor"⟩)
      [plainModule "handbook" .knowledgeScope]).ofKind .knowledgeScope := by decide
  have denied : scopeBindingAllows "handbook"
      (loadScopeBindings handbookBindings ⟨.role, "auditor"⟩) = false := by decide
  refine ⟨named, denied, fun agree => ?_⟩
  obtain ⟨module, known, -, -, allows⟩ := (agree .knowledgeScope "handbook" rfl).mp named
  cases List.mem_singleton.mp known
  cases denied.symm.trans allows

end SkillCentric.ScopeAuthority
