import SkillCentric.Control.ModuleFiles

/-!
# The registry gate

`validate_registry` in phase `all`.  The checks of one file (its JSON schema, and the local
invariants, which look into the directories of the repository) are a parameter.
-/

namespace SkillCentric.Control

open SkillCentric

variable {host : Host}

/-- A module file with the fields that only the gate reads. -/
structure GovernedFile (host : Host) extends ModuleFile host where
  status : Text
  environments : List Text

/-- An environment file. -/
structure EnvironmentConfig where
  name : Text
  strategy : Text
  allowedStatuses : List Text
  allowedCapabilityClasses : List Text

/-- What the gate finds around the module files. -/
structure GateInputs (host : Host) where
  /-- `_repo_path(registry_root)`. -/
  registryRoot : Text
  /-- `_schema_errors` and `_local_invariant_errors`. -/
  fileErrors : GovernedFile host → List Text
  environments : List EnvironmentConfig
  environmentPath : Text → Text

/-- Each file that repeats a name and version; `seen` holds the files before it, last first. -/
def duplicateErrors : List (GovernedFile host) → List (GovernedFile host) → List Text
  | _, [] => []
  | seen, file :: rest =>
      (match seen.find? fun other => other.module.name = file.module.name &&
          other.module.version = file.module.version with
        | some other => [file.repoPath ++ (" duplicates " : Text) ++ file.module.name ++ '@' ::
            file.module.version ++ (" already defined in " : Text) ++ other.repoPath]
        | none => []) ++ duplicateErrors (file :: seen) rest

/-- Each reference to a name of which no file has the kind. -/
def missingErrors (files : List (GovernedFile host)) : List Text :=
  files.flatMap fun file => ReferenceField.all.flatMap fun field =>
    ((file.module.references field).filter fun targetName =>
      !files.any fun other => other.module.name = targetName && other.module.kind = field.kind).map
        fun targetName => file.repoPath ++ ' ' :: field.text ++ (" references missing " : Text) ++
          field.kind.text ++ (": " : Text) ++ targetName

/-- `_graph_errors`. -/
def graphErrors (files : List (GovernedFile host)) : List Text :=
  duplicateErrors [] files ++ missingErrors files

/-- The errors of a file in one of its environments. -/
def environmentErrorsIn (inputs : GateInputs host) (file : GovernedFile host) (name : Text) :
    List Text :=
  match inputs.environments.reverse.find? fun config => config.name = name with
  | none => [file.repoPath ++ (" references missing environment " : Text) ++ name]
  | some config =>
      (if config.strategy = ("allowlist" : Text) then []
        else [inputs.environmentPath name ++ (" must use allowlist" : Text)]) ++
      (if config.allowedStatuses.contains file.status then []
        else [file.repoPath ++ (" status " : Text) ++ file.status ++
          (" is not allowed in " : Text) ++
          name]) ++
      if config.allowedCapabilityClasses.contains file.module.capabilityClass then []
      else [file.repoPath ++ (" capability_class " : Text) ++ file.module.capabilityClass ++
        (" is not allowed in " : Text) ++ name]

/-- `_environment_errors`. -/
def environmentErrors (inputs : GateInputs host) (files : List (GovernedFile host)) : List Text :=
  files.flatMap fun file => file.environments.eraseDups.flatMap (environmentErrorsIn inputs file)

/-- `validate_registry` on the files in the order of `_load_modules`. -/
def validateRegistry (inputs : GateInputs host) (files : List (GovernedFile host)) :
    Except Text (List Text) :=
  let errors :=
    files.flatMap inputs.fileErrors ++ graphErrors files ++ environmentErrors inputs files
  if files.isEmpty then .error
    (("no module.json files found under " : Text) ++ inputs.registryRoot)
  else if errors.isEmpty then .ok []
  else .error (List.intercalate ("\n" : Text) errors)

theorem duplicateErrors_eq_nil {seen files : List (GovernedFile host)} :
    duplicateErrors seen files = [] ↔
      (∀ file ∈ files, ∀ other ∈ seen,
        (other.module.name, other.module.version) ≠ (file.module.name, file.module.version)) ∧
      (files.map fun file => (file.module.name, file.module.version)).Nodup := by
  induction files generalizing seen with
  | nil => simp [duplicateErrors]
  | cons file rest ih =>
      rw [duplicateErrors]
      cases found : seen.find? fun other => other.module.name = file.module.name &&
          other.module.version = file.module.version with
      | some other =>
          have same := List.find?_some found
          simp only [Bool.and_eq_true, decide_eq_true_eq] at same
          refine iff_of_false (by simp) fun fresh => ?_
          exact fresh.1 file List.mem_cons_self other (List.mem_of_find?_eq_some found)
            (Prod.ext same.1 same.2)
      | none =>
          have fresh := List.find?_eq_none.mp found
          simp only [Bool.and_eq_true, decide_eq_true_eq, not_and] at fresh
          rw [List.nil_append, ih]
          simp only [List.mem_cons, forall_eq_or_imp, List.map_cons, List.nodup_cons, List.mem_map,
            not_exists, not_and, ne_eq, Prod.mk.injEq]
          grind

theorem missingErrors_eq_nil {files : List (GovernedFile host)} : missingErrors files = [] ↔
    ∀ file ∈ files, ∀ field, ∀ targetName ∈ file.module.references field,
      ∃ other ∈ files, other.module.name = targetName ∧ other.module.kind = field.kind := by
  simp only [missingErrors, List.flatMap_eq_nil_iff, List.map_eq_nil_iff, List.filter_eq_nil_iff,
    Bool.not_eq_true', Bool.not_eq_false, List.any_eq_true, Bool.and_eq_true, decide_eq_true_eq]
  exact forall₂_congr fun file _ => ⟨fun found field => found field field.mem_all,
    fun found field _ => found field⟩

theorem validateRegistry_eq_ok {inputs : GateInputs host} {files : List (GovernedFile host)}
    {result : List Text} : validateRegistry inputs files = .ok result ↔
      files ≠ [] ∧ result = [] ∧ (∀ file ∈ files, inputs.fileErrors file = []) ∧
        graphErrors files = [] ∧ environmentErrors inputs files = [] := by
  unfold validateRegistry
  dsimp only
  split
  · rename_i none
    simp [List.isEmpty_iff.mp none]
  · rename_i some
    have some : files ≠ [] := fun none => some (List.isEmpty_iff.mpr none)
    split
    · rename_i clean
      simp only [List.isEmpty_iff, List.append_eq_nil_iff, List.flatMap_eq_nil_iff] at clean
      rw [Except.ok.injEq, eq_comm]
      exact ⟨fun same => ⟨some, same, clean.1.1, clean.1.2, clean.2⟩, fun same => same.2.1⟩
    · rename_i unclean
      refine iff_of_false (by simp) fun passes => unclean ?_
      simp only [List.isEmpty_iff, List.append_eq_nil_iff, List.flatMap_eq_nil_iff]
      exact ⟨⟨passes.2.2.1, passes.2.2.2.1⟩, passes.2.2.2.2⟩

end SkillCentric.Control
