import SkillCentric.Library.Grouping
import SkillCentric.Runtime.TaskAnalyzer

/-!
# Shadow evaluation

`evaluate_shadow_snapshot` compares a baseline and a candidate version on recorded traces.  One pass
over the events fills the counters of both sides and the selection statistics of each change type;
the rates are formed afterwards, here as exact fractions.
-/

namespace SkillCentric

open Slug

namespace ShadowEvaluation

/-- The outcome of one version on a trace. -/
structure ShadowOutcome where
  abstained : Bool
  mixedProfile : Bool
  safetyViolationDetected : Bool
  selectedModuleIds : List Text
  deriving DecidableEq

/-- An event as it was read. -/
structure ShadowEvent where
  changeType : Text
  expectedSafetyViolation : Bool
  expectedSelectionIds : List Text
  baseline : ShadowOutcome
  candidate : ShadowOutcome
  deriving DecidableEq

/-- The error of a field. -/
def fieldError (traceId field complaint : Text) : Text :=
  traceId ++ (": " : Text) ++ field ++ complaint

/-- `_as_bool`, with the errors it appends. -/
def asBool (value : Option Json) (field traceId : Text) : Bool × List Text :=
  match value with
  | some (.bool value) => (value, [])
  | _ => (false, [fieldError traceId field " must be a boolean."])

/-- `_as_str`. -/
def asStr (value : Option Json) (field traceId : Text) : Text × List Text :=
  match value with
  | some (.str value) =>
      if strip value ≠ [] then (value, [])
      else ([], [fieldError traceId field " must be a non-empty string."])
  | _ => ([], [fieldError traceId field " must be a non-empty string."])

/-- The texts of a list of strings. -/
def textsOf : List Json → Option (List Text)
  | [] => some []
  | .str text :: rest => (textsOf rest).map (text :: ·)
  | _ :: _ => none

/-- `_as_str_list`. -/
def asStrList (value : Option Json) (field traceId : Text) : List Text × List Text :=
  match value with
  | some (.arr items) =>
      match textsOf items with
      | some texts => (texts, [])
      | none => ([], [fieldError traceId field " must be a list of strings."])
  | _ => ([], [fieldError traceId field " must be a list of strings."])

/-- One side of an event: the object, or none at all. -/
def asOutcome (event : Json) (side traceId : Text) : Json × List Text :=
  match event.get? side with
  | some (.obj fields) => (.obj fields, [])
  | _ => (.obj [], [fieldError traceId side " must be an object."])

/-- The body of the loop as far as it reads an event: the event, unless it is no object, and the
errors. -/
def readEvent (index : Nat) (event : Json) : Option ShadowEvent × List Text :=
  let place := ("trace[" : Text) ++ decimal index ++ ("]" : Text)
  match event with
  | .obj _ =>
      let traceId := (Json.orElse (event.get? "trace_id") (.str place)).pyStr
      let changeType := asStr (event.get? "change_type") "change_type" traceId
      let expected :=
        asBool (event.get? "expected_safety_violation") "expected_safety_violation" traceId
      let expectedIds :=
        asStrList (event.get? "expected_selection_ids") "expected_selection_ids" traceId
      let baseline := asOutcome event "baseline" traceId
      let candidate := asOutcome event "candidate" traceId
      let baselineAbstained := asBool (baseline.1.get? "abstained") "baseline.abstained" traceId
      let candidateAbstained := asBool (candidate.1.get? "abstained") "candidate.abstained" traceId
      let baselineMixed := asBool (baseline.1.get? "mixed_profile") "baseline.mixed_profile" traceId
      let candidateMixed :=
        asBool (candidate.1.get? "mixed_profile") "candidate.mixed_profile" traceId
      let baselineDetected := asBool (baseline.1.get? "safety_violation_detected")
        "baseline.safety_violation_detected" traceId
      let candidateDetected := asBool (candidate.1.get? "safety_violation_detected")
        "candidate.safety_violation_detected" traceId
      let baselineSelected := asStrList (baseline.1.get? "selected_module_ids")
        "baseline.selected_module_ids" traceId
      let candidateSelected := asStrList (candidate.1.get? "selected_module_ids")
        "candidate.selected_module_ids" traceId
      (some {
          changeType := changeType.1
          expectedSafetyViolation := expected.1
          expectedSelectionIds := expectedIds.1
          baseline := ⟨baselineAbstained.1, baselineMixed.1, baselineDetected.1, baselineSelected.1⟩
          candidate :=
            ⟨candidateAbstained.1, candidateMixed.1, candidateDetected.1, candidateSelected.1⟩ },
        changeType.2 ++ expected.2 ++ expectedIds.2 ++ baseline.2 ++ candidate.2 ++
          baselineAbstained.2 ++ candidateAbstained.2 ++ baselineMixed.2 ++ candidateMixed.2 ++
          baselineDetected.2 ++ candidateDetected.2 ++ baselineSelected.2 ++ candidateSelected.2)
  | _ => (none, [place ++ (": event must be an object." : Text)])

/-- The counters of one side. -/
structure SideCounters where
  abstentions : Nat
  mixedProfile : Nat
  expectedSafety : Nat
  falseNegatives : Nat
  deriving DecidableEq

/-- The counters of a run. -/
structure ShadowCounters where
  decisionChanges : Nat
  baseline : SideCounters
  candidate : SideCounters
  deriving DecidableEq

/-- The selection statistics of one side. -/
structure SideSelection where
  tp : Nat
  selected : Nat
  expected : Nat
  deriving DecidableEq

/-- `selection_stats[change_type]`. -/
structure SelectionStats where
  baseline : SideSelection
  candidate : SideSelection
  deriving DecidableEq

def SideCounters.zero : SideCounters := ⟨0, 0, 0, 0⟩

def ShadowCounters.zero : ShadowCounters := ⟨0, .zero, .zero⟩

def SideSelection.zero : SideSelection := ⟨0, 0, 0⟩

def SelectionStats.zero : SelectionStats := ⟨.zero, .zero⟩

/-- Count an outcome. -/
def SideCounters.count (counters : SideCounters) (expectedViolation : Bool)
    (outcome : ShadowOutcome) :
    SideCounters where
  abstentions := counters.abstentions + outcome.abstained.toNat
  mixedProfile := counters.mixedProfile + outcome.mixedProfile.toNat
  expectedSafety := counters.expectedSafety + expectedViolation.toNat
  falseNegatives := counters.falseNegatives +
    (expectedViolation && !outcome.safetyViolationDetected).toNat

/-- `sorted(set(ids))`. -/
def sortedIds (ids : List Text) : List Text := ids.dedup.insertionSort (· ≤ ·)

/-- The signature of an outcome. -/
def ShadowOutcome.signature (outcome : ShadowOutcome) : Bool × Bool × Bool × List Text :=
  (outcome.abstained, outcome.mixedProfile, outcome.safetyViolationDetected,
    sortedIds outcome.selectedModuleIds)

/-- The two versions decide differently. -/
def ShadowEvent.changed (event : ShadowEvent) : Bool :=
  event.baseline.signature != event.candidate.signature

/-- Count an event. -/
def ShadowCounters.count (counters : ShadowCounters) (event : ShadowEvent) : ShadowCounters where
  decisionChanges := counters.decisionChanges + event.changed.toNat
  baseline := counters.baseline.count event.expectedSafetyViolation event.baseline
  candidate := counters.candidate.count event.expectedSafetyViolation event.candidate

/-- Add the sets of one side. -/
def SideSelection.count (stats : SideSelection) (expectedIds selectedIds : List Text) :
    SideSelection where
  tp := stats.tp + (selectedIds.dedup.filter fun id => decide (id ∈ expectedIds)).length
  selected := stats.selected + selectedIds.dedup.length
  expected := stats.expected + expectedIds.dedup.length

/-- Add the sets of an event. -/
def SelectionStats.count (stats : SelectionStats) (event : ShadowEvent) : SelectionStats where
  baseline := stats.baseline.count event.expectedSelectionIds event.baseline.selectedModuleIds
  candidate := stats.candidate.count event.expectedSelectionIds event.candidate.selectedModuleIds

/-- The state of the loop. -/
structure ShadowTally where
  counters : ShadowCounters
  selection : Dict Text SelectionStats
  errors : List Text

def ShadowTally.empty : ShadowTally := ⟨.zero, .empty, []⟩

namespace ShadowTally

/-- Count an event that was read. -/
def count (tally : ShadowTally) (event : ShadowEvent) : ShadowTally where
  counters := tally.counters.count event
  selection :=
    if event.changeType ≠ [] then
      tally.selection.bump .zero event.changeType fun stats => stats.count event
    else tally.selection
  errors := tally.errors

/-- One round of the loop. -/
def step (tally : ShadowTally) (entry : Json × Nat) : ShadowTally :=
  let read := readEvent entry.2 entry.1
  let tally := { tally with errors := tally.errors ++ read.2 }
  match read.1 with
  | some event => tally.count event
  | none => tally

end ShadowTally

/-- Two figures and their difference. -/
structure Compared where
  baseline : ℚ
  candidate : ℚ
  delta : ℚ
  deriving DecidableEq

/-- The figures with their difference. -/
def compared (baseline candidate : ℚ) : Compared := ⟨baseline, candidate, candidate - baseline⟩

/-- The figures of a change type. -/
structure SelectionDrift where
  precision : Compared
  recallRate : Compared
  traceCount : Nat
  deriving DecidableEq

/-- What `evaluate_shadow_snapshot` returns. -/
structure ShadowReport where
  status : Text
  snapshotContractVersion : Json
  baselineVersions : Json
  candidateVersions : Json
  eventCount : Nat
  evaluationErrorCount : Nat
  evaluationErrors : List Text
  decisionChangeRate : ℚ
  abstentionRate : Compared
  mixedProfileRate : Compared
  safetyFalseNegativeRate : Compared
  selectionDriftByChangeType : List (Text × SelectionDrift)
  deriving DecidableEq

/-- `_rate`. -/
def rate (numerator total : Nat) : ℚ := if total = 0 then 0 else numerator / total

/-- `_precision` and `_recall`. -/
def share (tp whole : Nat) : ℚ := if whole = 0 then 1 else tp / whole

/-- The figures of a change type's statistics. -/
def SelectionStats.drift (stats : SelectionStats) : SelectionDrift where
  precision := compared (share stats.baseline.tp stats.baseline.selected)
    (share stats.candidate.tp stats.candidate.selected)
  recallRate := compared (share stats.baseline.tp stats.baseline.expected)
    (share stats.candidate.tp stats.candidate.expected)
  traceCount := stats.baseline.expected

/-- The report on a tally. -/
def ShadowTally.report (tally : ShadowTally) (snapshot : Json) (eventCount : Nat) : ShadowReport :=
  let denominator : ℚ := if 0 < eventCount then eventCount else 1
  let counters := tally.counters
  { status := if tally.errors = [] then "passed" else "failed"
    snapshotContractVersion := (snapshot.get? "contract_version").getD .null
    baselineVersions := (snapshot.get? "baseline_versions").getD (.obj [])
    candidateVersions := (snapshot.get? "candidate_versions").getD (.obj [])
    eventCount
    evaluationErrorCount := tally.errors.length
    evaluationErrors := tally.errors
    decisionChangeRate := counters.decisionChanges / denominator
    abstentionRate := compared (counters.baseline.abstentions / denominator)
      (counters.candidate.abstentions / denominator)
    mixedProfileRate := compared (counters.baseline.mixedProfile / denominator)
      (counters.candidate.mixedProfile / denominator)
    safetyFalseNegativeRate :=
      compared (rate counters.baseline.falseNegatives counters.baseline.expectedSafety)
        (rate counters.candidate.falseNegatives counters.candidate.expectedSafety)
    selectionDriftByChangeType := tally.selection.sorted.map fun entry => (entry.1, entry.2.drift) }

/-- `evaluate_shadow_snapshot`; a `ShadowEvaluationError` is a `ValueError`. -/
def evaluateShadowSnapshot (snapshot : Json) : Except PyError ShadowReport :=
  match snapshot.get? "trace_events" with
  | some (.arr traceEvents) =>
      .ok ((traceEvents.zipIdx.foldl ShadowTally.step .empty).report snapshot traceEvents.length)
  | _ => .error ⟨.valueError, "snapshot.trace_events must be a list.", none⟩

end ShadowEvaluation

end SkillCentric
