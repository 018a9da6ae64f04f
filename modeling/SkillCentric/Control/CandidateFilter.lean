import SkillCentric.Control.Composition
import SkillCentric.Control.ModuleFiles

/-!
# Policy contexts

What a policy context denies in the registry: `filter_candidate` decides on one module, and
`validate_graph` on the modules that a selection reaches.
-/

namespace SkillCentric.Control

open SkillCentric

/-- `PolicyContext`. -/
structure PolicyContext where
  allowedPolicyIds : List Text := []
  deniedModuleIds : List Text := []
  deniedKinds : List Text := []
  deniedCapabilityClasses : List Text := []

variable {host : Host}

/-- `PolicyDecision` of the registry. -/
structure CandidateDecision (host : Host) where
  module : ModuleMetadata host
  effect : PolicyEffect
  reasons : List Text

namespace InMemoryModuleRegistry

/-- `filter_candidate`. -/
def filterCandidate (module : ModuleMetadata host) (context : PolicyContext) :
    CandidateDecision host :=
  let missingPolicies := Json.missing (module.references .policies) context.allowedPolicyIds
  if context.deniedModuleIds.contains module.name then
    ⟨module, .deny, ["module is explicitly denied"]⟩
  else if context.deniedKinds.contains module.kind.text then
    ⟨module, .deny, [("kind is denied: " : Text) ++ module.kind.text]⟩
  else if context.deniedCapabilityClasses.contains module.capabilityClass then
    ⟨module, .deny, [("capability class is denied: " : Text) ++ module.capabilityClass]⟩
  else if module.requiresAllPolicies && !missingPolicies.isEmpty then
    ⟨module, .needsClarification,
      [("missing required policies: " : Text) ++ Json.join missingPolicies]⟩
  else ⟨module, .allow, ["policy context allows candidate"]⟩

/-- `validate_graph` with a policy context, which may be `None`. -/
def validateGraphIn (registry : InMemoryModuleRegistry host) (selectedModuleNames : List Text)
    (context : Option PolicyContext) : GraphValidationResult :=
  registry.validateGraph selectedModuleNames (context.elim [] PolicyContext.deniedCapabilityClasses)

theorem filterCandidate_deny_iff {module : ModuleMetadata host} {context : PolicyContext} :
    (filterCandidate module context).effect = .deny ↔ module.name ∈ context.deniedModuleIds ∨
      module.kind.text ∈ context.deniedKinds ∨
      module.capabilityClass ∈ context.deniedCapabilityClasses := by
  unfold filterCandidate
  simp only [List.contains_iff_mem]
  split_ifs with named ofKind ofClass missing <;> simp_all

end InMemoryModuleRegistry

end SkillCentric.Control
