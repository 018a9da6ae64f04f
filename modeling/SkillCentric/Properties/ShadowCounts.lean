import SkillCentric.Library.Stateful
import SkillCentric.Runtime.ShadowEvaluation

/-!
# Counts of the shadow evaluation

On well-formed events the report does not depend on their order, its rates are fractions of one, and
swapping the versions swaps the figures.  The trace count of a change type is the number of expected
ids instead of the number of events, which is the same only where the events of each type expect one
id on average.
-/

namespace SkillCentric

open Slug

namespace ShadowEvaluation

/-- The outcome that an object states. -/
structure FormedOutcome (object : Json) (outcome : ShadowOutcome) : Prop where
  isObject : object.isMapping = true
  abstained : object.get? "abstained" = some (.bool outcome.abstained)
  mixedProfile : object.get? "mixed_profile" = some (.bool outcome.mixedProfile)
  detected : object.get? "safety_violation_detected" = some (.bool outcome.safetyViolationDetected)
  selected : object.get? "selected_module_ids" = some (.arr (outcome.selectedModuleIds.map .str))

/-- The event that an object states. -/
structure FormedEvent (event : Json) (read : ShadowEvent) : Prop where
  isObject : event.isMapping = true
  changeType : event.get? "change_type" = some (.str read.changeType)
  nonblank : strip read.changeType ≠ []
  violation : event.get? "expected_safety_violation" = some (.bool read.expectedSafetyViolation)
  expected : event.get? "expected_selection_ids" = some (.arr (read.expectedSelectionIds.map .str))
  baseline : ∃ object, event.get? "baseline" = some object ∧ FormedOutcome object read.baseline
  candidate : ∃ object, event.get? "candidate" = some object ∧ FormedOutcome object read.candidate

private theorem textsOf_map (texts : List Text) : textsOf (texts.map .str) = some texts := by
  induction texts with
  | nil => rfl
  | cons text rest ih => rw [List.map_cons, textsOf, ih, Option.map_some]

variable {value : Option Json} {read : ShadowEvent} {reads : List ShadowEvent} {events : List Json}
  {snapshot other : Json} {part whole : Nat} {stats : SelectionStats}

theorem asStrList_formed {texts : List Text}
    (stated : value = some (.arr (texts.map .str))) (field traceId : Text) :
    asStrList value field traceId = (texts, []) := by
  rw [stated, asStrList, textsOf_map]

theorem asBool_formed {flag : Bool} (stated : value = some (.bool flag))
    (field traceId : Text) : asBool value field traceId = (flag, []) := by
  rw [stated, asBool]

theorem asStr_formed {text : Text} (stated : value = some (.str text))
    (nonblank : strip text ≠ []) (field traceId : Text) :
    asStr value field traceId = (text, []) := by
  rw [stated, asStr, if_pos nonblank]

theorem asOutcome_formed {event object : Json} {side : Text} {outcome : ShadowOutcome}
    (stated : event.get? side = some object) (formed : FormedOutcome object outcome)
    (traceId : Text) : asOutcome event side traceId = (object, []) := by
  rw [asOutcome, stated]
  cases object with
  | obj fields => rfl
  | _ => cases formed.isObject

variable {event : Json} {snapshot : Json}

theorem readEvent_formed (formed : FormedEvent event read)
    (index : Nat) : readEvent index event = (some read, []) := by
  obtain ⟨baseline, baselineStated, left⟩ := formed.baseline
  obtain ⟨candidate, candidateStated, right⟩ := formed.candidate
  cases event with
  | obj fields =>
      simp only [readEvent, asOutcome_formed baselineStated left,
        asOutcome_formed candidateStated right,
        asStr_formed formed.changeType formed.nonblank, asBool_formed formed.violation,
        asStrList_formed formed.expected, asBool_formed left.abstained,
        asBool_formed left.mixedProfile,
        asBool_formed left.detected, asStrList_formed left.selected, asBool_formed right.abstained,
        asBool_formed right.mixedProfile, asBool_formed right.detected,
        asStrList_formed right.selected, List.append_nil]
  | _ => cases formed.isObject

def selectionOf (reads : List ShadowEvent) : Dict Text SelectionStats :=
  Dict.empty.group .zero ShadowEvent.changeType SelectionStats.count reads

def tallyOf (reads : List ShadowEvent) : ShadowTally :=
  ⟨reads.foldl ShadowCounters.count .zero, selectionOf reads, []⟩

theorem foldl_step
    (formed : List.Forall₂ FormedEvent events reads) (index : Nat) (tally : ShadowTally) :
    (events.zipIdx index).foldl ShadowTally.step tally = reads.foldl ShadowTally.count tally := by
  induction formed generalizing index tally with
  | nil => rfl
  | @cons event read events reads first _ ih =>
      have step : tally.step (event, index) = tally.count read := by
        simp only [ShadowTally.step, readEvent_formed first index, List.append_nil]
      rw [List.zipIdx_cons, List.foldl_cons, step, ih, List.foldl_cons]

theorem foldl_count (named : ∀ read ∈ reads, read.changeType ≠ [])
    (tally : ShadowTally) : reads.foldl ShadowTally.count tally =
      ⟨reads.foldl ShadowCounters.count tally.counters,
        tally.selection.group .zero ShadowEvent.changeType SelectionStats.count reads,
        tally.errors⟩ := by
  induction reads generalizing tally with
  | nil => rfl
  | cons read rest ih =>
      rw [List.foldl_cons, ih fun other member => named other (List.mem_cons_of_mem read member)]
      simp only [ShadowTally.count, if_pos (named read List.mem_cons_self),
        List.foldl_cons, Dict.group]

theorem FormedEvent.named (formed : FormedEvent event read) :
    read.changeType ≠ [] := by
  intro empty
  exact formed.nonblank (by rw [empty]; rfl)

theorem evaluate_formed (given : snapshot.get? "trace_events" = some (.arr events))
    (formed : List.Forall₂ FormedEvent events reads) :
    evaluateShadowSnapshot snapshot = .ok ((tallyOf reads).report snapshot reads.length) := by
  have named : ∀ read ∈ reads, read.changeType ≠ [] := by
    intro read member
    obtain ⟨event, -, stated⟩ := Stateful.exists_right formed.flip read member
    exact stated.named
  rw [evaluateShadowSnapshot, given]
  dsimp only
  rw [foldl_step formed, foldl_count named, formed.length_eq]
  rfl

instance : RightCommutative ShadowCounters.count where
  right_comm counters first second := by
    simp only [ShadowCounters.count, SideCounters.count, Nat.add_right_comm]

instance : RightCommutative SelectionStats.count where
  right_comm stats first second := by
    simp only [SelectionStats.count, SideSelection.count, Nat.add_right_comm]

/-- The snapshots differ in their events only. -/
def SameApart (snapshot other : Json) : Prop :=
  ∀ key, key ≠ ("trace_events" : Text) → other.get? key = snapshot.get? key

private theorem report_congr {tally tally' : ShadowTally}
    (apart : SameApart snapshot other) (counters : tally'.counters = tally.counters)
    (selection : tally'.selection.sorted = tally.selection.sorted)
    (errors : tally'.errors = tally.errors)
    (eventCount : Nat) : tally'.report other eventCount = tally.report snapshot eventCount := by
  simp only [ShadowTally.report, counters, selection, errors, apart "contract_version" (by decide),
    apart "baseline_versions" (by decide), apart "candidate_versions" (by decide)]

theorem report_perm (apart : SameApart snapshot other)
    {reads others : List ShadowEvent} (perm : reads.Perm others) :
    (tallyOf others).report other others.length = (tallyOf reads).report snapshot reads.length := by
  rw [perm.length_eq]
  have errors : (tallyOf others).errors = (tallyOf reads).errors := rfl
  refine report_congr apart ?_ ?_ errors _
  · exact perm.symm.foldl_eq ShadowCounters.zero
  · exact Dict.sorted_congr fun key => Dict.get?_group_perm perm.symm key

/-- A figure between zero and one. -/
def IsFraction (figure : ℚ) : Prop := 0 ≤ figure ∧ figure ≤ 1

def Compared.figures (figures : Compared) : List ℚ := [figures.baseline, figures.candidate]

def ShadowReport.figures (report : ShadowReport) : List ℚ :=
  report.decisionChangeRate :: (report.abstentionRate.figures ++ report.mixedProfileRate.figures ++
    report.safetyFalseNegativeRate.figures ++ report.selectionDriftByChangeType.flatMap fun entry =>
      entry.2.precision.figures ++ entry.2.recallRate.figures)

theorem isFraction_div (le : part ≤ whole) : IsFraction ((part : ℚ) / whole) :=
  ⟨by positivity, div_le_one_of_le₀ (by exact_mod_cast le) (by positivity)⟩

theorem isFraction_rate (le : part ≤ whole) : IsFraction (rate part whole) := by
  unfold rate
  split_ifs
  · exact ⟨le_rfl, zero_le_one⟩
  · exact isFraction_div le

theorem isFraction_share (le : part ≤ whole) : IsFraction (share part whole) := by
  unfold share
  split_ifs
  · exact ⟨zero_le_one, le_rfl⟩
  · exact isFraction_div le

theorem isFraction_over {part eventCount : Nat} (le : part ≤ eventCount) :
    IsFraction ((part : ℚ) / if 0 < eventCount then (eventCount : ℚ) else 1) := by
  split_ifs with some
  · exact isFraction_div le
  · obtain rfl : part = 0 := by omega
    exact ⟨by simp, by simp⟩

/-- What the counters of one side are bounded by. -/
structure SideCounters.Bounded (counters : SideCounters) (bound : Nat) : Prop where
  abstentions : counters.abstentions ≤ bound
  mixedProfile : counters.mixedProfile ≤ bound
  falseNegatives : counters.falseNegatives ≤ counters.expectedSafety

/-- What the counters are bounded by. -/
structure ShadowCounters.Bounded (counters : ShadowCounters) (bound : Nat) : Prop where
  decisionChanges : counters.decisionChanges ≤ bound
  baseline : counters.baseline.Bounded bound
  candidate : counters.candidate.Bounded bound

theorem SideCounters.Bounded.count {counters : SideCounters} {bound : Nat}
    (bounded : counters.Bounded bound) (violation : Bool) (outcome : ShadowOutcome) :
    (counters.count violation outcome).Bounded (bound + 1) := by
  refine ⟨Nat.add_le_add bounded.abstentions (Bool.toNat_le _),
    Nat.add_le_add bounded.mixedProfile (Bool.toNat_le _),
    Nat.add_le_add bounded.falseNegatives ?_⟩
  cases violation with
  | false => exact le_rfl
  | true => exact Bool.toNat_le _

theorem ShadowCounters.Bounded.foldl {counters : ShadowCounters} {bound : Nat}
    (bounded : counters.Bounded bound) (reads : List ShadowEvent) :
    (reads.foldl ShadowCounters.count counters).Bounded (bound + reads.length) := by
  induction reads generalizing counters bound with
  | nil => exact bounded
  | cons read rest ih =>
      have next : (counters.count read).Bounded (bound + 1) :=
        ⟨Nat.add_le_add bounded.decisionChanges (Bool.toNat_le _), bounded.baseline.count _ _,
          bounded.candidate.count _ _⟩
      have later := ih next
      rwa [Nat.add_assoc, Nat.add_comm 1] at later

/-- True positives were selected and expected. -/
structure SideSelection.Sound (stats : SideSelection) : Prop where
  selected : stats.tp ≤ stats.selected
  expected : stats.tp ≤ stats.expected

theorem SideSelection.Sound.count {stats : SideSelection} (sound : stats.Sound)
    (expectedIds selectedIds : List Text) : (stats.count expectedIds selectedIds).Sound := by
  refine ⟨Nat.add_le_add sound.selected (List.length_filter_le _ _),
    Nat.add_le_add sound.expected ?_⟩
  have distinct : (selectedIds.dedup.filter fun id => decide (id ∈ expectedIds)).Nodup :=
    (List.nodup_dedup selectedIds).filter _
  refine (distinct.subperm fun id member => ?_).length_le
  exact List.mem_dedup.mpr (of_decide_eq_true (List.mem_filter.mp member).2)

theorem sound_foldl (sound : stats.baseline.Sound ∧ stats.candidate.Sound)
    (reads : List ShadowEvent) : (reads.foldl SelectionStats.count stats).baseline.Sound ∧
      (reads.foldl SelectionStats.count stats).candidate.Sound := by
  induction reads generalizing stats with
  | nil => exact sound
  | cons read rest ih => exact ih ⟨sound.1.count _ _, sound.2.count _ _⟩

theorem get?_selectionOf {type : Text} :
    (selectionOf reads).get? type = some stats ↔
      Dict.under ShadowEvent.changeType type reads ≠ [] ∧
        (Dict.under ShadowEvent.changeType type reads).foldl SelectionStats.count .zero =
          stats := by
  rw [selectionOf, Dict.get?_group_empty]
  split_ifs with none
  · simp [none]
  · simp [none]

theorem figures_fractions (snapshot : Json) (reads : List ShadowEvent) :
    ∀ figure ∈ ((tallyOf reads).report snapshot reads.length).figures, IsFraction figure := by
  have bounded : (reads.foldl ShadowCounters.count .zero).Bounded (0 + reads.length) :=
    ShadowCounters.Bounded.foldl ⟨le_rfl, ⟨le_rfl, le_rfl, le_rfl⟩, ⟨le_rfl, le_rfl, le_rfl⟩⟩ reads
  rw [Nat.zero_add] at bounded
  have pair {left right : ℚ} (first : IsFraction left) (second : IsFraction right) :
      ∀ figure ∈ (compared left right).figures, IsFraction figure :=
    List.forall_mem_cons.mpr ⟨first, List.forall_mem_singleton.mpr second⟩
  refine List.forall_mem_cons.mpr ⟨isFraction_over bounded.decisionChanges, ?_⟩
  refine List.forall_mem_append.mpr ⟨List.forall_mem_append.mpr ⟨List.forall_mem_append.mpr
    ⟨?_, ?_⟩, ?_⟩, ?_⟩
  · exact pair (isFraction_over bounded.baseline.abstentions)
      (isFraction_over bounded.candidate.abstentions)
  · exact pair (isFraction_over bounded.baseline.mixedProfile)
      (isFraction_over bounded.candidate.mixedProfile)
  · exact pair (isFraction_rate bounded.baseline.falseNegatives)
      (isFraction_rate bounded.candidate.falseNegatives)
  · intro figure member
    obtain ⟨_, listed, member⟩ := List.mem_flatMap.mp member
    obtain ⟨⟨type, stats⟩, held, rfl⟩ := List.mem_map.mp listed
    obtain ⟨-, rfl⟩ := get?_selectionOf.mp (Dict.mem_sorted.mp held)
    obtain ⟨baseline, candidate⟩ := @sound_foldl .zero ⟨⟨le_rfl, le_rfl⟩, ⟨le_rfl, le_rfl⟩⟩
      (Dict.under ShadowEvent.changeType type reads)
    rcases List.mem_append.mp member with found | found
    · exact pair (isFraction_share baseline.selected) (isFraction_share candidate.selected) _ found
    · exact pair (isFraction_share baseline.expected) (isFraction_share candidate.expected) _ found

def swapName (name : Text) : Text :=
  if name = "baseline" then "candidate" else if name = "candidate" then "baseline" else name

def swapEvent : Json → Json
  | .obj fields => .obj (fields.map fun field => (swapName field.1, field.2))
  | event => event

def Compared.swap (figures : Compared) : Compared :=
  ⟨figures.candidate, figures.baseline, -figures.delta⟩

def SelectionDrift.swap (drift : SelectionDrift) : SelectionDrift :=
  ⟨drift.precision.swap, drift.recallRate.swap, drift.traceCount⟩

def ShadowReport.swap (report : ShadowReport) : ShadowReport :=
  { report with
    abstentionRate := report.abstentionRate.swap
    mixedProfileRate := report.mixedProfileRate.swap
    safetyFalseNegativeRate := report.safetyFalseNegativeRate.swap
    selectionDriftByChangeType :=
      report.selectionDriftByChangeType.map fun entry => (entry.1, entry.2.swap) }

def ShadowEvent.swap (event : ShadowEvent) : ShadowEvent :=
  { event with
    baseline := event.candidate
    candidate := event.baseline }

def ShadowCounters.swap (counters : ShadowCounters) : ShadowCounters :=
  ⟨counters.decisionChanges, counters.candidate, counters.baseline⟩

def SelectionStats.swap (stats : SelectionStats) : SelectionStats :=
  ⟨stats.candidate, stats.baseline⟩

theorem swapName_swapName (name : Text) : swapName (swapName name) = name := by
  unfold swapName
  by_cases baseline : name = "baseline"
  · rw [if_pos baseline, if_neg (by decide), if_pos rfl, baseline]
  · rw [if_neg baseline]
    by_cases candidate : name = "candidate"
    · rw [if_pos candidate, if_pos rfl, candidate]
    · rw [if_neg candidate, if_neg baseline, if_neg candidate]

theorem get?_swapEvent (event : Json) (key : Text) :
    (swapEvent event).get? key = event.get? (swapName key) := by
  cases event with
  | obj fields =>
      induction fields with
      | nil => rfl
      | cons field rest ih =>
          simp only [swapEvent, Json.get?, List.map_cons, Json.field?] at ih ⊢
          rw [ih]
          have same : swapName field.1 = key ↔ field.1 = swapName key :=
            ⟨fun found => by rw [← found, swapName_swapName],
              fun found => by rw [found, swapName_swapName]⟩
          exact if_congr same rfl rfl
  | _ => rfl

theorem formed_swapEvent (formed : FormedEvent event read) :
    FormedEvent (swapEvent event) read.swap where
  isObject := by
    cases event with
    | obj fields => rfl
    | _ => exact formed.isObject
  changeType := (get?_swapEvent event "change_type").trans formed.changeType
  nonblank := formed.nonblank
  violation := (get?_swapEvent event "expected_safety_violation").trans formed.violation
  expected := (get?_swapEvent event "expected_selection_ids").trans formed.expected
  baseline := by
    rw [get?_swapEvent]
    exact formed.candidate
  candidate := by
    rw [get?_swapEvent]
    exact formed.baseline

theorem counters_swap (reads : List ShadowEvent) (counters : ShadowCounters) :
    (reads.map ShadowEvent.swap).foldl ShadowCounters.count counters.swap =
      (reads.foldl ShadowCounters.count counters).swap := by
  rw [List.foldl_map]
  refine List.foldl_hom ShadowCounters.swap fun counters read => ?_
  have changed : read.swap.changed = read.changed := bne_comm
  simp only [ShadowCounters.count, ShadowCounters.swap, changed]
  rfl

theorem stats_swap (reads : List ShadowEvent) (stats : SelectionStats) :
    (reads.map ShadowEvent.swap).foldl SelectionStats.count stats.swap =
      (reads.foldl SelectionStats.count stats).swap := by
  rw [List.foldl_map]
  exact List.foldl_hom SelectionStats.swap fun _ _ => rfl

theorem selection_swap (reads : List ShadowEvent) :
    (selectionOf (reads.map ShadowEvent.swap)).sorted =
    (selectionOf reads).sorted.map fun entry => (entry.1, entry.2.swap) := by
  have held (type : Text) : (selectionOf (reads.map ShadowEvent.swap)).get? type =
      ((selectionOf reads).mapValues fun _ stats => stats.swap).get? type := by
    have own : Dict.under ShadowEvent.changeType type (reads.map ShadowEvent.swap) =
        (Dict.under ShadowEvent.changeType type reads).map ShadowEvent.swap := List.filter_map ..
    rw [Dict.get?_mapValues, selectionOf, selectionOf, Dict.get?_group_empty,
      Dict.get?_group_empty, own]
    by_cases none : Dict.under ShadowEvent.changeType type reads = []
    · rw [none, List.map_nil, if_pos rfl, Option.map_none]
    · rw [if_neg none, if_neg fun empty => none (List.map_eq_nil_iff.mp empty), Option.map_some]
      exact congrArg some (stats_swap _ SelectionStats.zero)
  rw [Dict.sorted_congr held, Dict.sorted_mapValues]

theorem compared_swap (baseline candidate : ℚ) :
    compared candidate baseline = (compared baseline candidate).swap := by
  rw [compared, compared, Compared.swap, neg_sub]

theorem expected_foldl (reads : List ShadowEvent) (stats : SelectionStats) :
    (reads.foldl SelectionStats.count stats).baseline.expected =
        stats.baseline.expected +
          (reads.map fun read => read.expectedSelectionIds.dedup.length).sum ∧
      (reads.foldl SelectionStats.count stats).candidate.expected =
        stats.candidate.expected +
          (reads.map fun read => read.expectedSelectionIds.dedup.length).sum := by
  induction reads generalizing stats with
  | nil => exact ⟨rfl, rfl⟩
  | cons read rest ih =>
      obtain ⟨baseline, candidate⟩ := ih (stats.count read)
      rw [List.foldl_cons, baseline, candidate, List.map_cons, List.sum_cons, ← Nat.add_assoc,
        ← Nat.add_assoc]
      exact ⟨rfl, rfl⟩

theorem drift_swap (same : stats.baseline.expected = stats.candidate.expected) :
    stats.swap.drift = stats.drift.swap := by
  rw [SelectionStats.drift, SelectionStats.drift, SelectionDrift.swap, ← compared_swap, ←
    compared_swap]
  exact congrArg _ same.symm

theorem report_swap (apart : SameApart snapshot other) (reads : List ShadowEvent) :
    (tallyOf (reads.map ShadowEvent.swap)).report other reads.length =
      ((tallyOf reads).report snapshot reads.length).swap := by
  have counters : (tallyOf (reads.map ShadowEvent.swap)).counters = (tallyOf reads).counters.swap :=
    counters_swap reads .zero
  have drifts : (tallyOf (reads.map ShadowEvent.swap)).selection.sorted.map
        (fun entry => (entry.1, entry.2.drift)) =
      ((tallyOf reads).selection.sorted.map fun entry => (entry.1, entry.2.drift)).map
        fun entry => (entry.1, entry.2.swap) := by
    change (selectionOf (reads.map ShadowEvent.swap)).sorted.map _ =
      ((selectionOf reads).sorted.map _).map _
    rw [selection_swap, List.map_map, List.map_map]
    refine List.map_congr_left fun ⟨type, stats⟩ member => ?_
    obtain ⟨-, rfl⟩ := get?_selectionOf.mp (Dict.mem_sorted.mp member)
    obtain ⟨baseline, candidate⟩ :=
      expected_foldl (Dict.under ShadowEvent.changeType type reads) SelectionStats.zero
    exact congrArg _ (drift_swap (baseline.trans candidate.symm))
  rw [ShadowTally.report, ShadowTally.report, ShadowReport.swap, drifts, counters,
    apart "contract_version" (by decide), apart "baseline_versions" (by decide),
    apart "candidate_versions" (by decide)]
  dsimp only [ShadowCounters.swap]
  rw [← compared_swap, ← compared_swap, ← compared_swap]
  rfl

/-- The events of a change type. -/
def eventsOf (events : List Json) (type : Text) : List Json :=
  events.filter fun event => decide (event.get? "change_type" = some (.str type))

theorem length_eventsOf (formed : List.Forall₂ FormedEvent events reads) (type : Text) :
    (eventsOf events type).length = (Dict.under ShadowEvent.changeType type reads).length := by
  unfold eventsOf Dict.under
  induction formed with
  | nil => rfl
  | @cons event read events reads first _ ih =>
      rw [List.filter_cons, List.filter_cons, first.changeType]
      by_cases same : read.changeType = type
      · rw [if_pos (by simpa using same), if_pos (by simpa using same), List.length_cons, ih,
          List.length_cons]
      · rw [if_neg (by simpa using same), if_neg (by simpa using same), ih]

/-- The expected ids of the events of a change type, each event's as a set. -/
def expectedOf (reads : List ShadowEvent) (type : Text) : Nat :=
  ((Dict.under ShadowEvent.changeType type reads).map fun read =>
    read.expectedSelectionIds.dedup.length).sum

theorem mem_drift {entry : Text × SelectionDrift} :
    entry ∈ ((tallyOf reads).report snapshot reads.length).selectionDriftByChangeType →
      Dict.under ShadowEvent.changeType entry.1 reads ≠ [] ∧
        entry.2.traceCount = expectedOf reads entry.1 := by
  intro listed
  obtain ⟨⟨type, stats⟩, held, rfl⟩ := List.mem_map.mp listed
  obtain ⟨some, rfl⟩ := get?_selectionOf.mp (Dict.mem_sorted.mp held)
  refine ⟨some, ?_⟩
  rw [expectedOf, ← Nat.zero_add (List.sum _)]
  exact (expected_foldl _ SelectionStats.zero).1

theorem exists_drift (snapshot : Json) {type : Text}
    (some : Dict.under ShadowEvent.changeType type reads ≠ []) :
    ∃ drift, (type, drift) ∈
      ((tallyOf reads).report snapshot reads.length).selectionDriftByChangeType :=
  ⟨_, List.mem_map.mpr ⟨(type, _), Dict.mem_sorted.mpr (get?_selectionOf.mpr ⟨some, rfl⟩), rfl⟩⟩

theorem sum_traceCount
    (right : ∀ entry ∈ ((tallyOf reads).report snapshot reads.length).selectionDriftByChangeType,
      entry.2.traceCount = (Dict.under ShadowEvent.changeType entry.1 reads).length) :
    (((tallyOf reads).report snapshot reads.length).selectionDriftByChangeType.map
      fun entry => entry.2.traceCount).sum = reads.length := by
  have keys : (((tallyOf reads).report snapshot reads.length).selectionDriftByChangeType.map
      Prod.fst).Nodup := by
    have sorted : ((selectionOf reads).sorted.map Prod.fst).Nodup :=
      ((List.perm_insertionSort _ _).map Prod.fst).nodup_iff.mpr (selectionOf reads).nodup
    change (((selectionOf reads).sorted.map _).map _).Nodup
    rw [List.map_map]
    exact sorted
  have covered : ∀ read ∈ reads, read.changeType ∈
      ((tallyOf reads).report snapshot reads.length).selectionDriftByChangeType.map Prod.fst := by
    intro read member
    have own : Dict.under ShadowEvent.changeType read.changeType reads ≠ [] :=
      List.ne_nil_of_mem (List.mem_filter.mpr ⟨member, decide_eq_true rfl⟩)
    obtain ⟨drift, listed⟩ := exists_drift snapshot own
    exact List.mem_map.mpr ⟨_, listed, rfl⟩
  rw [← Dict.sum_length_under keys covered, List.map_map]
  exact congrArg List.sum (List.map_congr_left right)

/-- A report on a snapshot with these events counts correctly. -/
structure CountsCorrectly (snapshot : Json) (events : List Json)
    (report : ShadowReport) : Prop where
  order : ∀ other otherEvents, SameApart snapshot other → events.Perm otherEvents →
    other.get? "trace_events" = some (.arr otherEvents) → evaluateShadowSnapshot other = .ok report
  eventCount : report.eventCount = events.length
  changeTypes : ∀ type, eventsOf events type ≠ [] →
    ∃ drift, (type, drift) ∈ report.selectionDriftByChangeType
  traceCounts : ∀ entry ∈ report.selectionDriftByChangeType,
    entry.2.traceCount = (eventsOf events entry.1).length
  traceTotal : (report.selectionDriftByChangeType.map fun entry => entry.2.traceCount).sum =
    report.eventCount
  fractions : ∀ figure ∈ report.figures, IsFraction figure
  swapped : ∀ other, SameApart snapshot other →
    other.get? "trace_events" = some (.arr (events.map swapEvent)) →
      evaluateShadowSnapshot other = .ok report.swap

/-- The evaluation counts correctly exactly when the events of each change type expect as many ids
as there are events of it. -/
theorem shadow_exact (snapshot : Json) (events : List Json) (reads : List ShadowEvent)
    (given : snapshot.get? "trace_events" = some (.arr events))
    (formed : List.Forall₂ FormedEvent events reads) :
    (∃ report,
      evaluateShadowSnapshot snapshot = .ok report ∧ CountsCorrectly snapshot events report) ↔
      ∀ type, expectedOf reads type = (eventsOf events type).length := by
  have evaluated := evaluate_formed given formed
  constructor
  · rintro ⟨report, returned, correct⟩ type
    cases evaluated.symm.trans returned
    by_cases none : Dict.under ShadowEvent.changeType type reads = []
    · rw [length_eventsOf formed, expectedOf, none]
      rfl
    · obtain ⟨drift, listed⟩ := exists_drift snapshot none
      rw [← correct.traceCounts _ listed, (mem_drift listed).2]
  · intro balanced
    refine ⟨_, evaluated, ?_, formed.length_eq.symm, fun type some => ?_, ?_, ?_,
      figures_fractions snapshot reads, ?_⟩
    · intro other otherEvents apart perm stated
      obtain ⟨others, otherFormed, otherPerm⟩ := List.perm_comp_forall₂ perm.symm formed
      rw [evaluate_formed stated otherFormed, report_perm apart otherPerm.symm]
    · refine exists_drift snapshot fun none => some ?_
      rw [← List.length_eq_zero_iff, length_eventsOf formed, none]
      rfl
    · intro entry listed
      rw [(mem_drift listed).2, balanced]
    · refine sum_traceCount fun entry listed => ?_
      rw [(mem_drift listed).2, balanced, length_eventsOf formed]
    · intro other apart stated
      have swapped :
          List.Forall₂ FormedEvent (events.map swapEvent) (reads.map ShadowEvent.swap) := by
        rw [List.forall₂_map_left_iff, List.forall₂_map_right_iff]
        exact formed.imp fun _ _ => formed_swapEvent
      rw [evaluate_formed stated swapped, List.length_map, report_swap apart]

def selecting (ids : List Text) : ShadowOutcome := ⟨false, false, true, ids⟩

def outcomeJson (outcome : ShadowOutcome) : Json :=
  .obj [("abstained", .bool outcome.abstained), ("mixed_profile", .bool outcome.mixedProfile),
    ("safety_violation_detected", .bool outcome.safetyViolationDetected),
    ("selected_module_ids", .arr (outcome.selectedModuleIds.map .str))]

/-- An event as it is recorded. -/
def eventJson (read : ShadowEvent) : Json :=
  .obj [("change_type", .str read.changeType),
    ("expected_safety_violation", .bool read.expectedSafetyViolation),
    ("expected_selection_ids", .arr (read.expectedSelectionIds.map .str)),
    ("baseline", outcomeJson read.baseline), ("candidate", outcomeJson read.candidate)]

theorem formed_eventJson (nonblank : strip read.changeType ≠ []) :
    FormedEvent (eventJson read) read :=
  ⟨rfl, rfl, nonblank, rfl, rfl, ⟨_, rfl, rfl, rfl, rfl, rfl, rfl⟩,
    ⟨_, rfl, rfl, rfl, rfl, rfl, rfl⟩⟩

/-- A review that expects modules. -/
def review (ids : List Text) : ShadowEvent :=
  ⟨"code-review", false, ids, selecting ids, selecting []⟩

/-- A snapshot of events. -/
def snapshotOf (reads : List ShadowEvent) : Json :=
  .obj [("trace_events", .arr (reads.map eventJson))]

theorem one_expected_counts : ∃ report,
    evaluateShadowSnapshot (snapshotOf [review ["lint"]]) = .ok report ∧
      CountsCorrectly (snapshotOf [review ["lint"]]) [eventJson (review ["lint"])] report := by
  have formed : FormedEvent (eventJson (review ["lint"])) (review ["lint"]) :=
    formed_eventJson (by decide)
  refine (shadow_exact (snapshotOf [review ["lint"]]) [eventJson (review ["lint"])]
    [review ["lint"]] rfl
    (.cons formed .nil)).mpr fun type => ?_
  rw [length_eventsOf (.cons formed .nil), expectedOf, Dict.under, List.filter_cons,
    List.filter_nil]
  split_ifs <;> rfl

/-- One event that expects two ids is counted as two traces. -/
theorem two_expected_miscounted : ∃ report,
    evaluateShadowSnapshot (snapshotOf [review ["lint", "typing"]]) = .ok report ∧
      report.eventCount = 1 ∧
      report.selectionDriftByChangeType.map (fun entry => (entry.1, entry.2.traceCount)) =
        [(("code-review" : Text), 2)] :=
  ⟨_, rfl, rfl, by decide⟩

end ShadowEvaluation

end SkillCentric
