import SkillCentric.Properties.FilesystemTools
import SkillCentric.Runtime.RetentionCleanup

/-!
# What a cleanup deletes

The executor compares URIs, and deletes files.  A plan whose URIs are cleaned in turn leaves the
tree without the files that the URIs before the first error erase; a file that a retained URI leads
to is among them when an expired URI of another spelling, or through a link, leads there too.
-/

namespace SkillCentric

namespace CleanupSafety

open Files Stateful

section Planner

open RecordsetPlanner RuntimeProfileComposer

variable {parseDatetime : Text → Except PyError Datetime} {policy : RuntimeRetentionPolicy}
  {now : Datetime} {recordset : JsonObject} {plan : RuntimeRetentionPlan} {id uri : Text}

/-- The tables of a recordset. -/
def tables (recordset : JsonObject) : Json := (Json.obj recordset).item "records" (.obj [])

/-- The runs of a recordset. -/
def runsOf (recordset : JsonObject) : List Json :=
  match (tables recordset).item "runtime_runs" (.arr []) with
  | .arr values => values
  | _ => []

/-- A record has an id. -/
def hasId (id : Text) (record : Json) : Bool := (record.get? "id").map Json.pyStr = some id

/-- The last of the records with an id. -/
def lastRun (recordset : JsonObject) (id : Text) : Option Json :=
  (runsOf recordset).reverse.find? (hasId id)

theorem recordsById_get? (values : List Json) (id : Text) :
    (recordsById (.arr values)).get? id = values.reverse.find? (hasId id) := by
  change (values.foldl addRecord .empty).get? id = _
  induction values using List.reverseRecOn with
  | nil => rfl
  | append_singleton values record ih =>
      rw [List.foldl_append, List.reverse_append, List.reverse_singleton, List.singleton_append,
        List.find?_cons, List.foldl_cons, List.foldl_nil, addRecord]
      cases found : record.get? "id" with
      | none =>
          have other : hasId id record = false := by
            rw [hasId, found]
            rfl
          rw [other]
          exact ih
      | some own =>
          simp only
          rw [Dict.get?_set, ih]
          by_cases same : id = own.pyStr
          · have mine : hasId id record = true := by
              rw [hasId, found, same]
              exact decide_eq_true rfl
            rw [if_pos same, mine]
          · have other : hasId id record = false := by
              rw [hasId, found]
              exact decide_eq_false fun own_eq => same (Option.some.inj own_eq).symm
            rw [if_neg same, other]

theorem runs_get? (recordset : JsonObject) (id : Text) :
    (recordsById ((tables recordset).item "runtime_runs" (.arr []))).get? id =
      lastRun recordset id := by
  unfold lastRun runsOf
  cases (tables recordset).item "runtime_runs" (.arr []) with
  | arr values => exact recordsById_get? values id
  | _ => rfl

theorem plan_ok (planned : RecordsetPlanner.plan parseDatetime policy now recordset = .ok plan) :
    ∃ judged uris,
      (recordsById ((tables recordset).item "runtime_runs" (.arr []))).entries.mapM (fun entry => do
        return (entry.1, ← runIsExpired parseDatetime policy now entry.2)) = .ok judged ∧
      iterRuntimeArtifactUris (tables recordset) = .ok uris ∧
      (∀ id, id ∈ plan.expiredRunIds ↔ (id, true) ∈ judged) ∧
      (∀ id, id ∈ plan.retainedRunIds ↔ (id, false) ∈ judged) ∧
      (∀ uri, uri ∈ plan.expiredArtifactUris ↔
        ∃ id, id ∈ plan.expiredRunIds ∧ (id, uri) ∈ uris) ∧
      ∀ uri, uri ∈ plan.retainedArtifactUris ↔
        ∃ id, id ∉ plan.expiredRunIds ∧ (id, uri) ∈ uris := by
  unfold RecordsetPlanner.plan at planned
  simp only at planned
  split_ifs at planned
  obtain ⟨judged, passed, planned⟩ := bind_eq_ok.mp planned
  obtain ⟨uris, read, planned⟩ := bind_eq_ok.mp planned
  cases planned
  unfold RuntimeRetentionPlan.ofJudged
  refine ⟨judged, uris, passed, read, ?_, ?_, ?_, ?_⟩
  · simp
  · simp
  · intro uri
    simp only [mem_sortedSet, List.mem_map, List.mem_filter, List.contains_iff_mem, Prod.exists,
      exists_eq_right, List.mem_insertionSort]
    exact exists_congr fun id => and_comm
  · intro uri
    simp only [mem_sortedSet, List.mem_map, List.mem_filter, Bool.not_eq_true', Prod.exists,
      exists_eq_right, List.mem_insertionSort, ← Bool.not_eq_true, List.contains_iff_mem]
    exact exists_congr fun id => and_comm

theorem mem_judged {judged : List (Text × Bool)} {expired : Bool}
    (passed : (recordsById ((tables recordset).item "runtime_runs" (.arr []))).entries.mapM
      (fun entry => do return (entry.1, ← runIsExpired parseDatetime policy now entry.2)) =
        .ok judged) :
    (id, expired) ∈ judged ↔ ∃ run, lastRun recordset id = some run ∧
      runIsExpired parseDatetime policy now run = .ok expired := by
  constructor
  · intro listed
    obtain ⟨⟨own, run⟩, stored, done⟩ := exists_of_mapM_ok passed _ listed
    obtain ⟨verdict, judged_run, done⟩ := bind_eq_ok.mp done
    cases done
    rw [Dict.mem_entries_iff, runs_get?] at stored
    exact ⟨run, stored, judged_run⟩
  · rintro ⟨run, last, judged_run⟩
    rw [← runs_get?, ← Dict.mem_entries_iff] at last
    obtain ⟨result, listed, done⟩ := mem_of_mapM_ok passed _ last
    rw [judged_run] at done
    cases done
    exact listed

def uriFields : List (Text × List Text) := [
  ("runtime_events", ["planned_action_uri", "execution_uri", "result_uri"]),
  ("runtime_checkpoints", ["state_uri"]),
  ("tool_invocations", ["input_uri", "output_uri"]),
  ("validation_results", ["findings_uri"]),
  ("memory_candidates", ["content_uri"])]

/-- A record of a run has a URI in one of its fields. -/
def References (recordset : JsonObject) (id uri : Text) : Prop :=
  ∃ table ∈ uriFields, ∃ record ∈ listRecords (tables recordset) table.1, ∃ field ∈ table.2,
    record.get? field = some (.str uri) ∧ (record.get? "run_id").map Json.pyStr = some id

variable {uris : List (Text × Text)}

theorem mem_recordUris {record : Json} {fields : List Text}
    {field : Text} (read : recordUris fields record = .ok uris) (listed : field ∈ fields)
    (stored : record.get? field = some (.str uri))
    (of_run : (record.get? "run_id").map Json.pyStr = some id) : (id, uri) ∈ uris := by
  obtain ⟨runId, found, read⟩ := bind_eq_ok.mp read
  cases read
  obtain ⟨own, own_found, rfl⟩ := Option.map_eq_some_iff.mp of_run
  rw [subscript, own_found] at found
  cases found
  exact List.mem_filterMap.mpr ⟨field, listed, by rw [stored]⟩

theorem mem_fieldUri {record : Json} {field : Text}
    (read : fieldUri field record = .ok uris) (stored : record.get? field = some (.str uri))
    (of_run : (record.get? "run_id").map Json.pyStr = some id) : (id, uri) ∈ uris := by
  obtain ⟨own, own_found, rfl⟩ := Option.map_eq_some_iff.mp of_run
  rw [fieldUri, stored] at read
  simp only [subscript, own_found] at read
  cases read
  exact List.mem_singleton_self _

theorem mem_iterRuntimeArtifactUris (read : iterRuntimeArtifactUris (tables recordset) = .ok uris)
    (referenced : References recordset id uri) : (id, uri) ∈ uris := by
  obtain ⟨events, of_events, read⟩ := bind_eq_ok.mp read
  obtain ⟨checkpoints, of_checkpoints, read⟩ := bind_eq_ok.mp read
  obtain ⟨invocations, of_invocations, read⟩ := bind_eq_ok.mp read
  obtain ⟨validations, of_validations, read⟩ := bind_eq_ok.mp read
  obtain ⟨candidates, of_candidates, read⟩ := bind_eq_ok.mp read
  cases read
  obtain ⟨table, among, record, listed, field, own, stored, of_run⟩ := referenced
  simp only [uriFields, List.mem_cons, List.not_mem_nil, or_false] at among
  simp only [List.mem_flatten, List.mem_append]
  rcases among with rfl | rfl | rfl | rfl | rfl
  · obtain ⟨found, member, done⟩ := mem_of_mapM_ok of_events record listed
    exact ⟨found, .inl (.inl (.inl (.inl member))), mem_recordUris done own stored of_run⟩
  · obtain ⟨found, member, done⟩ := mem_of_mapM_ok of_checkpoints record listed
    cases List.mem_singleton.mp own
    exact ⟨found, .inl (.inl (.inl (.inr member))), mem_fieldUri done stored of_run⟩
  · obtain ⟨found, member, done⟩ := mem_of_mapM_ok of_invocations record listed
    exact ⟨found, .inl (.inl (.inr member)), mem_recordUris done own stored of_run⟩
  · obtain ⟨found, member, done⟩ := mem_of_mapM_ok of_validations record listed
    cases List.mem_singleton.mp own
    exact ⟨found, .inl (.inr member), mem_fieldUri done stored of_run⟩
  · obtain ⟨found, member, done⟩ := mem_of_mapM_ok of_candidates record listed
    cases List.mem_singleton.mp own
    exact ⟨found, .inr member, mem_fieldUri done stored of_run⟩

theorem expired_or_retained
    (planned : RecordsetPlanner.plan parseDatetime policy now recordset = .ok plan) {run : Json}
    (member : run ∈ runsOf recordset) (named : hasId id run = true) :
    id ∈ plan.expiredRunIds ↔ id ∉ plan.retainedRunIds := by
  obtain ⟨judged, _, passed, -, expired, retained, -, -⟩ := plan_ok planned
  rw [expired, retained, mem_judged passed, mem_judged passed]
  have known : (lastRun recordset id).isSome = true :=
    List.find?_isSome.mpr ⟨run, List.mem_reverse.mpr member, named⟩
  obtain ⟨last, found⟩ := Option.isSome_iff_exists.mp known
  have stored := (Dict.mem_entries_iff _ _ _).mpr ((runs_get? recordset id).trans found)
  obtain ⟨result, -, done⟩ := mem_of_mapM_ok passed _ stored
  obtain ⟨verdict, judged_last, -⟩ := bind_eq_ok.mp done
  constructor
  · rintro ⟨one, one_found, one_expired⟩ ⟨other, other_found, other_retained⟩
    rw [one_found] at other_found
    cases other_found
    rw [one_expired] at other_retained
    cases other_retained
  · intro not_retained
    cases verdict with
    | true => exact ⟨last, found, judged_last⟩
    | false => exact (not_retained ⟨last, found, judged_last⟩).elim

theorem mem_expired
    (planned : RecordsetPlanner.plan parseDatetime policy now recordset = .ok plan) :
    id ∈ plan.expiredRunIds ↔ ∃ last, lastRun recordset id = some last ∧
      runIsExpired parseDatetime policy now last = .ok true := by
  obtain ⟨judged, _, passed, -, expired, -⟩ := plan_ok planned
  rw [expired, mem_judged passed]

theorem referenced_retained
    (planned : RecordsetPlanner.plan parseDatetime policy now recordset = .ok plan)
    (referenced : References recordset id uri) (kept : id ∉ plan.expiredRunIds) :
    uri ∈ plan.retainedArtifactUris := by
  obtain ⟨_, uris, -, read, -, -, -, retained⟩ := plan_ok planned
  exact (retained uri).mpr ⟨id, kept, mem_iterRuntimeArtifactUris read referenced⟩

theorem open_kept_iff
    (planned : RecordsetPlanner.plan parseDatetime policy now recordset = .ok plan) :
    (∀ run ∈ runsOf recordset, ∀ id, hasId id run = true → isOpen run = true →
        id ∉ plan.expiredRunIds) ↔
      ∀ run ∈ runsOf recordset, ∀ id, hasId id run = true → isOpen run = true →
        ∀ last, lastRun recordset id = some last →
          runIsExpired parseDatetime policy now last ≠ .ok true := by
  refine forall₂_congr fun run _ => forall_congr' fun id => forall₂_congr fun _ _ => ?_
  rw [mem_expired planned]
  simp only [not_exists, not_and, ne_eq]

end Planner

section Executor

open TreeExecutor

variable {executor : TreeExecutor} {retained : List Text} {tree after : FileTree} {uri : Text}
  {target : List Text} {progress next : Progress}

/-- A URI leads to a path below the root. -/
def Leads (executor : TreeExecutor) (tree : FileTree) (uri : Text) (target : List Text) : Prop :=
  executor.resolver.resolve tree uri = .ok (.ok target)

theorem Leads.unique {other : List Text} (first : Leads executor tree uri target)
    (second : Leads executor tree uri other) : target = other :=
  Except.ok.inj (Except.ok.inj (first.symm.trans second))

theorem Leads.inside (leads : Leads executor tree uri target) :
    FilesystemTools.Inside tree executor.resolver.root target := by
  unfold Leads RuntimeArtifactUriResolver.resolve at leads
  cases parsed : resolveArtifactUri (executor.resolver.uriPrefix.rdropWhile (· == '/')) uri with
  | error message =>
      rw [parsed] at leads
      cases leads
  | ok parts =>
      rw [parsed] at leads
      simp only at leads
      split_ifs at leads
      generalize route_eq : (⟨true, _⟩ : Route Text) = route at leads
      cases reached : tree.resolve [] route with
      | none =>
          rw [reached] at leads
          cases leads
      | some found =>
          rw [reached] at leads
          simp only at leads
          split_ifs at leads with below
          · cases leads
            exact ⟨below, Tree.resolve_physical Tree.physical_nil reached⟩
          · cases leads

theorem resolve_congr (same : ∀ route, after.resolve [] route = tree.resolve [] route) :
    executor.resolver.resolve after uri = executor.resolver.resolve tree uri := by
  unfold RuntimeArtifactUriResolver.resolve
  simp only [same]

/-- The lists of a report. -/
inductive Fate where
  | deleted
  | dryRun
  | missing
  | unsafeUri
  | failed
  deriving DecidableEq

def nodeFate (executor : TreeExecutor) (target : List Text) :
    Option (Node Text (List UInt8)) → Fate
  | some .folder => .unsafeUri
  | none => .missing
  | some _ =>
      if executor.dryRun then .dryRun
      else if (executor.unlinkError target).isSome then .failed
      else .deleted

theorem nodeFate_file (content : List UInt8) :
    nodeFate executor target (some (.file content)) = if executor.dryRun then .dryRun
      else if (executor.unlinkError target).isSome then .failed else .deleted := rfl

def fate (executor : TreeExecutor) (retained : List Text) (tree : FileTree) (uri : Text) :
    Option Fate :=
  if uri ∈ retained then some .unsafeUri
  else
    match executor.resolver.resolve tree uri with
    | .error _ => none
    | .ok (.error _) => some .unsafeUri
    | .ok (.ok target) =>
        if (executor.statError target).isSome then none
        else some (nodeFate executor target (tree.node? target))

theorem fate_leads (expired : uri ∉ retained) (leads : Leads executor tree uri target) :
    fate executor retained tree uri = if (executor.statError target).isSome then none
      else some (nodeFate executor target (tree.node? target)) := by
  have resolved : executor.resolver.resolve tree uri = .ok (.ok target) := leads
  rw [fate, if_neg expired, resolved]

theorem fate_congr (same : ∀ route, after.resolve [] route = tree.resolve [] route)
    (kept : uri ∉ retained → ∀ target, Leads executor tree uri target →
      after.node? target = tree.node? target) :
    fate executor retained after uri = fate executor retained tree uri := by
  unfold fate
  rw [resolve_congr same]
  split_ifs with expired
  · rfl
  cases resolved : executor.resolver.resolve tree uri with
  | error error => rfl
  | ok answer =>
      cases answer with
      | error reason => rfl
      | ok target => simp only [kept expired target resolved]

/-- A URI erases a file. -/
structure Erases (executor : TreeExecutor) (retained : List Text) (tree : FileTree) (uri : Text)
    (target : List Text) : Prop where
  applied : executor.dryRun = false
  expired : uri ∉ retained
  leads : Leads executor tree uri target
  readable : executor.statError target = none
  stored : ∃ content, tree.node? target = some (.file content)
  removable : executor.unlinkError target = none

def listed (progress : Progress) : Fate → List Text
  | .deleted => progress.deleted
  | .dryRun => progress.dryRun
  | .missing => progress.missing
  | .unsafeUri => progress.unsafeUris
  | .failed => progress.failed

/-- A URI is put on one list, and only one that is deleted changes the tree. -/
structure Turned (executor : TreeExecutor) (retained : List Text) (progress next : Progress)
    (uri : Text) (end_ : Fate) : Prop where
  lists : ∀ other, listed next other = listed progress other ++ if other = end_ then [uri] else []
  kept : end_ ≠ .deleted → next.files = progress.files
  erased : end_ = .deleted → ∃ target, Erases executor retained progress.files uri target ∧
    progress.files.unlink target = some next.files

variable {end_ : Fate}

theorem turned_alone (not_deleted : end_ ≠ .deleted) (lists : ∀ other,
      listed next other = listed progress other ++ if other = end_ then [uri] else [])
    (same : next.files = progress.files) : Turned executor retained progress next uri end_ where
  lists := lists
  kept _ := same
  erased deleted := (not_deleted deleted).elim

theorem turned_refuse (reason : Text) :
    Turned executor retained progress (progress.refuse uri reason) uri .unsafeUri := by
  refine turned_alone nofun (fun other => ?_) rfl
  cases other <;> simp [listed, CleanupProgress.refuse]

theorem cleanFile_turned (expired : uri ∉ retained)
    (leads : Leads executor progress.files uri target) (readable : executor.statError target = none)
    (fated : fate executor retained progress.files uri = some end_) :
    Turned executor retained progress (executor.cleanFile progress uri target) uri end_ := by
  have stat : progress.files.stat target = progress.files.node? target :=
    Tree.stat_of_physical leads.inside.physical
  have fated_node : nodeFate executor target (progress.files.node? target) = end_ := by
    rw [fate_leads expired leads, readable] at fated
    exact Option.some.inj fated
  unfold cleanFile
  rw [stat]
  cases found : progress.files.node? target with
  | none =>
      obtain rfl : .missing = end_ := by rwa [found] at fated_node
      refine turned_alone nofun (fun other => ?_) rfl
      cases other <;> simp [listed]
  | some node =>
      rw [found] at fated_node
      cases node with
      | folder =>
          obtain rfl : .unsafeUri = end_ := fated_node
          exact turned_refuse _
      | link route => exact (leads.inside.physical target List.prefix_rfl route found).elim
      | file content =>
          rw [nodeFate_file] at fated_node
          simp only
          split_ifs at fated_node ⊢ with dry unremovable
          · subst fated_node
            refine turned_alone nofun (fun other => ?_) rfl
            cases other <;> simp [listed]
          · subst fated_node
            obtain ⟨reason, given⟩ := Option.isSome_iff_exists.mp unremovable
            rw [given]
            refine turned_alone nofun (fun other => ?_) rfl
            cases other <;> simp [listed]
          · subst fated_node
            have removable : executor.unlinkError target = none := by simpa using unremovable
            have no_folder : progress.files.isFolder target = false := by
              rw [← Bool.not_eq_true, Tree.isFolder_iff, found]
              exact nofun
            obtain ⟨erased, unlinked⟩ := Option.isSome_iff_exists.mp
              (Tree.unlink_isSome (by rw [found]; rfl) no_folder)
            rw [removable]
            refine ⟨fun other => ?_, fun kept => (kept rfl).elim, fun _ => ⟨target, ?_, ?_⟩⟩
            · cases other <;> simp [listed]
            · exact {
                applied := by simpa using dry
                expired, leads, readable, removable
                stored := ⟨content, found⟩ }
            · rw [unlinked]
              rfl

theorem cleanUri_turned (fated : fate executor retained progress.files uri = some end_) :
    ∃ next, executor.cleanUri retained progress uri = .ok next ∧
      Turned executor retained progress next uri end_ := by
  by_cases expired : uri ∈ retained
  · rw [fate, if_pos expired] at fated
    cases fated
    exact ⟨_, by rw [cleanUri, if_pos (List.contains_iff_mem.mpr expired)], turned_refuse _⟩
  have not_retained : ¬ retained.contains uri = true := by rwa [List.contains_iff_mem]
  rw [cleanUri, if_neg not_retained]
  cases resolved : executor.resolver.resolve progress.files uri with
  | error error =>
      rw [fate, if_neg expired, resolved] at fated
      cases fated
  | ok answer =>
      cases answer with
      | error reason =>
          rw [fate, if_neg expired, resolved] at fated
          cases fated
          exact ⟨_, rfl, turned_refuse _⟩
      | ok target =>
          cases readable : executor.statError target with
          | some error =>
              rw [fate_leads expired resolved, readable] at fated
              cases fated
          | none =>
              refine ⟨executor.cleanFile progress uri target, ?_,
                cleanFile_turned expired resolved readable fated⟩
              dsimp only [bind, Except.bind]
              rw [readable]
              rfl

theorem cleanUri_raises (raises : fate executor retained progress.files uri = none) :
    ∃ error, executor.cleanUri retained progress uri = .error error := by
  by_cases expired : uri ∈ retained
  · rw [fate, if_pos expired] at raises
    cases raises
  have not_retained : ¬ retained.contains uri = true := by rwa [List.contains_iff_mem]
  rw [cleanUri, if_neg not_retained]
  cases resolved : executor.resolver.resolve progress.files uri with
  | error error => exact ⟨error, rfl⟩
  | ok answer =>
      cases answer with
      | error reason =>
          rw [fate, if_neg expired, resolved] at raises
          cases raises
      | ok target =>
          cases readable : executor.statError target with
          | some error =>
              refine ⟨error, ?_⟩
              dsimp only [bind, Except.bind]
              rw [readable]
          | none =>
              rw [fate_leads expired resolved, readable] at raises
              cases raises

/-- One of the URIs that are done erases the path. -/
def ErasedBy (executor : TreeExecutor) (retained : List Text) (tree : FileTree) (done : List Text)
    (path : List Text) : Prop :=
  ∃ uri ∈ done, Erases executor retained tree uri path

/-- A tree without the files that the URIs that are done erase. -/
structure Cleared (executor : TreeExecutor) (retained : List Text) (tree : FileTree)
    (done : List Text) (after : FileTree) : Prop where
  erased : ∀ path, ErasedBy executor retained tree done path → after.node? path = none
  kept : ∀ path, ¬ ErasedBy executor retained tree done path → after.node? path = tree.node? path
  routes : ∀ route, after.resolve [] route = tree.resolve [] route

/-- The file that the URI leads to was erased by the URIs before. -/
def Gone (executor : TreeExecutor) (retained : List Text) (tree : FileTree) (done : List Text)
    (uri : Text) : Prop :=
  ∃ target, Leads executor tree uri target ∧ ErasedBy executor retained tree done target

/-- The list that a URI gets to after others: a file that is gone is missing. -/
inductive Ends (executor : TreeExecutor) (retained : List Text) (tree : FileTree)
    (done : List Text) (uri : Text) : Fate → Prop
  | first {end_ : Fate} (fated : fate executor retained tree uri = some end_)
      (there : end_ = .deleted → ¬ Gone executor retained tree done uri) :
      Ends executor retained tree done uri end_
  | gone (fated : fate executor retained tree uri = some .deleted)
      (gone : Gone executor retained tree done uri) : Ends executor retained tree done uri .missing

variable {done : List Text} {end_ other : Fate}

theorem nodeFate_deleted_iff {node : Option (Node Text (List UInt8))}
    (no_link : ∀ route, node ≠ some (.link route)) :
    nodeFate executor target node = .deleted ↔ executor.dryRun = false ∧
      (∃ content, node = some (.file content)) ∧ executor.unlinkError target = none := by
  cases node with
  | none => simp [nodeFate]
  | some node =>
      cases node with
      | folder => simp [nodeFate]
      | link route => exact (no_link route rfl).elim
      | file content =>
          rw [nodeFate_file]
          split_ifs with dry unremovable
          · simp [dry]
          · simp [Option.isSome_iff_ne_none.mp unremovable]
          · simpa [dry] using unremovable

theorem fate_deleted_iff :
    fate executor retained tree uri = some .deleted ↔
      ∃ target, Erases executor retained tree uri target := by
  constructor
  · intro fated
    have expired : uri ∉ retained := by
      intro also_retained
      rw [fate, if_pos also_retained] at fated
      cases fated
    cases resolved : executor.resolver.resolve tree uri with
    | error error =>
        rw [fate, if_neg expired, resolved] at fated
        cases fated
    | ok answer =>
        cases answer with
        | error reason =>
            rw [fate, if_neg expired, resolved] at fated
            cases fated
        | ok target =>
            have leads : Leads executor tree uri target := resolved
            rw [fate_leads expired leads] at fated
            split_ifs at fated with unreadable
            have deleted := Option.some.inj fated
            rw [nodeFate_deleted_iff (leads.inside.physical target List.prefix_rfl)] at deleted
            obtain ⟨applied, stored, removable⟩ := deleted
            have readable : executor.statError target = none := by simpa using unreadable
            exact ⟨target, { applied, expired, leads, readable, stored, removable }⟩
  · rintro ⟨target, erases⟩
    have no_link := erases.leads.inside.physical target List.prefix_rfl
    rw [fate_leads erases.expired erases.leads, erases.readable]
    exact congrArg some ((nodeFate_deleted_iff no_link).mpr
      ⟨erases.applied, erases.stored, erases.removable⟩)

theorem Erases.unique {other : List Text} (one : Erases executor retained tree uri target)
    (two : Erases executor retained tree uri other) : target = other :=
  one.leads.unique two.leads

theorem Erases.along {second : Text} (erases : Erases executor retained tree uri target)
    (expired : second ∉ retained) (leads : Leads executor tree second target) :
    Erases executor retained tree second target :=
  { erases with expired, leads }

theorem fate_cleared (cleared : Cleared executor retained tree done after)
    (fated : fate executor retained after uri = some end_) :
    Ends executor retained tree done uri end_ := by
  by_cases gone : uri ∉ retained ∧ Gone executor retained tree done uri
  · obtain ⟨expired, target, leads, erased⟩ := gone
    obtain ⟨first, member, erases⟩ := erased
    have leads_after : Leads executor after uri target :=
      (resolve_congr cleared.routes).trans leads
    rw [fate_leads expired leads_after, erases.readable,
      cleared.erased target ⟨first, member, erases⟩] at fated
    cases fated
    exact .gone (fate_deleted_iff.mpr ⟨target, erases.along expired leads⟩)
      ⟨target, leads, first, member, erases⟩
  · have same : fate executor retained after uri = fate executor retained tree uri :=
      fate_congr cleared.routes fun expired target leads =>
        cleared.kept target fun erased => gone ⟨expired, target, leads, erased⟩
    rw [same] at fated
    refine .first fated fun deleted gone_by => ?_
    rw [deleted] at fated
    obtain ⟨_, own⟩ := fate_deleted_iff.mp fated
    exact gone ⟨own.expired, gone_by⟩

theorem fate_none_iff (cleared : Cleared executor retained tree done after) :
    fate executor retained after uri = none ↔ fate executor retained tree uri = none := by
  unfold fate
  rw [resolve_congr cleared.routes]
  split_ifs with expired
  · rfl
  cases resolved : executor.resolver.resolve tree uri with
  | error error => rfl
  | ok answer =>
      cases answer with
      | error reason => rfl
      | ok target =>
          simp only
          split_ifs with unreadable
          · rfl
          · exact iff_of_false nofun nofun

theorem Ends.unique (one : Ends executor retained tree done uri end_)
    (two : Ends executor retained tree done uri other) : end_ = other := by
  cases one with
  | first fated there =>
      cases two with
      | first fated_too _ => exact Option.some.inj (fated.symm.trans fated_too)
      | gone deleted gone => exact (there (Option.some.inj (fated.symm.trans deleted)) gone).elim
  | gone deleted gone =>
      cases two with
      | first fated there => exact (there (Option.some.inj (fated.symm.trans deleted)) gone).elim
      | gone _ _ => rfl

theorem exists_ends (fated : fate executor retained tree uri = some end_) :
    ∃ other, Ends executor retained tree done uri other := by
  by_cases gone : end_ = .deleted ∧ Gone executor retained tree done uri
  · obtain ⟨rfl, gone⟩ := gone
    exact ⟨.missing, .gone fated gone⟩
  · exact ⟨end_, .first fated fun deleted gone_by => gone ⟨deleted, gone_by⟩⟩

theorem cleared_start : Cleared executor retained tree [] tree where
  erased _ erased := by
    obtain ⟨uri, member, -⟩ := erased
    cases member
  kept _ _ := rfl
  routes _ := rfl

theorem cleared_turn (cleared : Cleared executor retained tree done progress.files)
    (fated : fate executor retained progress.files uri = some end_)
    (turned : Turned executor retained progress next uri end_) :
    Cleared executor retained tree (done ++ [uri]) next.files := by
  by_cases deleted : end_ = .deleted
  · obtain ⟨target, erases, unlinked⟩ := turned.erased deleted
    obtain ⟨content, found⟩ := erases.stored
    have not_erased : ¬ ErasedBy executor retained tree done target := by
      intro erased
      rw [cleared.erased target erased] at found
      cases found
    have own : Erases executor retained tree uri target := { erases with
      leads := (resolve_congr cleared.routes).symm.trans erases.leads
      stored := ⟨content, (cleared.kept target not_erased).symm.trans found⟩ }
    refine ⟨fun path erased => ?_, fun path kept => ?_, fun route => ?_⟩
    · rw [Tree.node?_unlink unlinked]
      split_ifs with same
      · rfl
      · obtain ⟨by_uri, member, by_erases⟩ := erased
        rcases List.mem_append.mp member with before | last
        · exact cleared.erased path ⟨by_uri, before, by_erases⟩
        · rw [List.mem_singleton.mp last] at by_erases
          exact (same (by_erases.unique own)).elim
    · have differs : path ≠ target := by
        rintro rfl
        exact kept ⟨uri, List.mem_append_right done (List.mem_singleton_self uri), own⟩
      rw [Tree.node?_unlink unlinked, if_neg differs]
      refine cleared.kept path fun erased => kept ?_
      obtain ⟨by_uri, member, by_erases⟩ := erased
      exact ⟨by_uri, List.mem_append_left _ member, by_erases⟩
    · rw [Tree.resolve_unlink unlinked found, cleared.routes]
  · rw [turned.kept deleted]
    refine ⟨fun path erased => ?_, fun path kept => ?_, cleared.routes⟩
    · obtain ⟨by_uri, member, erases⟩ := erased
      rcases List.mem_append.mp member with before | last
      · exact cleared.erased path ⟨by_uri, before, erases⟩
      · rw [List.mem_singleton.mp last] at erases
        have own := fate_deleted_iff.mpr ⟨path, erases⟩
        cases fate_cleared cleared fated with
        | first base _ => exact (deleted (Option.some.inj (base.symm.trans own))).elim
        | gone _ gone =>
            obtain ⟨target, leads, erased⟩ := gone
            rw [erases.leads.unique leads]
            exact cleared.erased target erased
    · refine cleared.kept path fun erased => kept ?_
      obtain ⟨by_uri, member, erases⟩ := erased
      exact ⟨by_uri, List.mem_append_left _ member, erases⟩

/-- The URI is listed, and ends so after those before it. -/
def EndsAmong (executor : TreeExecutor) (retained : List Text) (tree : FileTree)
    (done uris : List Text) (uri : Text) (end_ : Fate) : Prop :=
  ∃ front back, uris = front ++ uri :: back ∧
    Ends executor retained tree (done ++ front) uri end_

theorem endsAmong_cons {first : Text} {uris : List Text} :
    EndsAmong executor retained tree done (first :: uris) uri end_ ↔
      uri = first ∧ Ends executor retained tree done uri end_ ∨
        EndsAmong executor retained tree (done ++ [first]) uris uri end_ := by
  constructor
  · rintro ⟨front, back, split, ends⟩
    cases front with
    | nil =>
        rw [List.nil_append] at split
        rw [List.append_nil] at ends
        exact .inl ⟨(List.cons.inj split).1.symm, ends⟩
    | cons head front =>
        rw [List.cons_append] at split
        obtain ⟨same, rest_split⟩ := List.cons.inj split
        subst same
        rw [List.append_cons] at ends
        exact .inr ⟨front, back, rest_split, ends⟩
  · rintro (⟨rfl, ends⟩ | ⟨front, back, split, ends⟩)
    · exact ⟨[], uris, rfl, by rwa [List.append_nil]⟩
    · refine ⟨first :: front, back, by rw [split]; rfl, ?_⟩
      rwa [List.append_cons]

/-- A URI raises no error. -/
def settles (executor : TreeExecutor) (retained : List Text) (tree : FileTree)
    (uri : Text) : Bool :=
  (fate executor retained tree uri).isSome

theorem clean_run (uris : List Text)
    (cleared : Cleared executor retained tree done progress.files) :
    Cleared executor retained tree (done ++ uris.takeWhile (settles executor retained tree))
        (executor.clean retained progress uris).2.files ∧
      ((executor.clean retained progress uris).1 = none ↔
        ∀ uri ∈ uris, settles executor retained tree uri = true) ∧
      ∀ uri end_, uri ∈ listed (executor.clean retained progress uris).2 end_ ↔
        uri ∈ listed progress end_ ∨ EndsAmong executor retained tree done
          (uris.takeWhile (settles executor retained tree)) uri end_ := by
  induction uris generalizing progress done with
  | nil =>
      refine ⟨by rwa [List.takeWhile_nil, List.append_nil], iff_of_true rfl nofun,
        fun uri end_ => ?_⟩
      refine ⟨.inl, fun among => among.resolve_right ?_⟩
      rintro ⟨front, back, split, -⟩
      cases front <;> cases split
  | cons first rest ih =>
      cases fated : fate executor retained progress.files first with
      | none =>
          obtain ⟨error, raised⟩ := cleanUri_raises fated
          have unsettled : settles executor retained tree first = false := by
            rw [settles, (fate_none_iff cleared).mp fated]
            rfl
          have stopped :
              executor.clean retained progress (first :: rest) = (some error, progress) := by
            rw [clean, raised]
          have taken : (first :: rest).takeWhile (settles executor retained tree) = [] := by
            rw [List.takeWhile_cons, unsettled]
            rfl
          rw [stopped, taken]
          refine ⟨by rwa [List.append_nil], iff_of_false nofun fun all => ?_, fun uri end_ => ?_⟩
          · rw [all first List.mem_cons_self] at unsettled
            cases unsettled
          · refine ⟨.inl, fun among => among.resolve_right ?_⟩
            rintro ⟨front, back, split, -⟩
            cases front <;> cases split
      | some end_ =>
          obtain ⟨next, ran, turned⟩ := cleanUri_turned fated
          have ends := fate_cleared cleared fated
          have settled : settles executor retained tree first = true := by
            rw [settles, Option.isSome_iff_ne_none]
            exact fun none => by rw [(fate_none_iff cleared).mpr none] at fated; cases fated
          have went : executor.clean retained progress (first :: rest) =
              executor.clean retained next rest := by
            rw [clean, ran]
          have taken : (first :: rest).takeWhile (settles executor retained tree) =
              first :: rest.takeWhile (settles executor retained tree) := by
            rw [List.takeWhile_cons, if_pos settled]
          obtain ⟨cleared_rest, returns, lists⟩ := ih (cleared_turn cleared fated turned)
          rw [went, taken, List.append_cons]
          refine ⟨cleared_rest, ?_, fun uri other => ?_⟩
          · rw [returns, List.forall_mem_cons, and_iff_right settled]
          · have own : uri ∈ (if other = end_ then [first] else []) ↔
                uri = first ∧ Ends executor retained tree done uri other := by
              constructor
              · intro member
                split_ifs at member with same
                · obtain rfl := List.mem_singleton.mp member
                  exact ⟨rfl, same ▸ ends⟩
                · cases member
              · rintro ⟨rfl, ends_too⟩
                rw [if_pos (ends_too.unique ends)]
                exact List.mem_singleton_self _
            rw [lists, turned.lists, List.mem_append, own, endsAmong_cons, or_assoc]

variable {plan : RuntimeRetentionPlan}

/-- The expired URIs before the first one that raises an error. -/
def reached (executor : TreeExecutor) (plan : RuntimeRetentionPlan) (tree : FileTree) : List Text :=
  plan.expiredArtifactUris.takeWhile (settles executor plan.retainedArtifactUris tree)

theorem plan_start :
    Cleared executor plan.retainedArtifactUris tree [] ({ files := tree } : Progress).files :=
  cleared_start

theorem cleanPlan_cleared : Cleared executor plan.retainedArtifactUris tree
    (reached executor plan tree) (executor.cleanPlan plan tree).2.files :=
  (clean_run plan.expiredArtifactUris plan_start).1

theorem cleanPlan_returns : (executor.cleanPlan plan tree).1 = none ↔
    ∀ uri ∈ plan.expiredArtifactUris, settles executor plan.retainedArtifactUris tree uri = true :=
  (clean_run plan.expiredArtifactUris plan_start).2.1

theorem cleanPlan_lists : uri ∈ listed (executor.cleanPlan plan tree).2 end_ ↔
    EndsAmong executor plan.retainedArtifactUris tree [] (reached executor plan tree) uri end_ := by
  refine ((clean_run plan.expiredArtifactUris plan_start).2.2 uri end_).trans (or_iff_right ?_)
  cases end_ <;> exact nofun

/-- Something was at a path, and is no more. -/
def Removed (tree after : FileTree) (path : List Text) : Prop :=
  (tree.node? path).isSome = true ∧ after.node? path = none

theorem removed_iff (cleared : Cleared executor retained tree done after) (path : List Text) :
    Removed tree after path ↔ ErasedBy executor retained tree done path := by
  constructor
  · rintro ⟨there, none⟩
    by_contra kept
    rw [← cleared.kept path kept, none] at there
    cases there
  · intro erased
    obtain ⟨uri, -, erases⟩ := id erased
    obtain ⟨content, found⟩ := erases.stored
    exact ⟨by rw [found]; rfl, cleared.erased path erased⟩

theorem removed_inside {path : List Text}
    (removed : Removed tree (executor.cleanPlan plan tree).2.files path) :
    executor.resolver.root <+: path := by
  obtain ⟨uri, -, erases⟩ := (removed_iff cleanPlan_cleared path).mp removed
  exact erases.leads.inside.below

theorem dryRun_keeps (dry : executor.dryRun = true) (path : List Text) :
    (executor.cleanPlan plan tree).2.files.node? path = tree.node? path := by
  refine cleanPlan_cleared.kept path ?_
  rintro ⟨uri, -, erases⟩
  rw [erases.applied] at dry
  cases dry

theorem retained_kept_iff :
    (∀ uri ∈ plan.retainedArtifactUris, ∀ path, Leads executor tree uri path →
        ¬ Removed tree (executor.cleanPlan plan tree).2.files path) ↔
      ∀ uri ∈ reached executor plan tree, ∀ path,
        Erases executor plan.retainedArtifactUris tree uri path →
          ∀ kept ∈ plan.retainedArtifactUris, ¬ Leads executor tree kept path := by
  constructor
  · intro stays uri member path erases kept kept_member leads
    exact stays kept kept_member path leads
      ((removed_iff cleanPlan_cleared path).mpr ⟨uri, member, erases⟩)
  · intro apart kept kept_member path leads removed
    obtain ⟨uri, member, erases⟩ := (removed_iff cleanPlan_cleared path).mp removed
    exact apart uri member path erases kept kept_member leads

/-- The lists of a report. -/
def reported (report : RuntimeRetentionCleanupReport) : Fate → List Text
  | .deleted => report.deletedArtifactUris
  | .dryRun => report.dryRunArtifactUris
  | .missing => report.missingArtifactUris
  | .unsafeUri => report.unsafeArtifactUris
  | .failed => report.failedArtifactUris

theorem mem_reported {createdAt : Text} :
    uri ∈ reported (executor.report plan createdAt progress) end_ ↔ uri ∈ listed progress end_ := by
  cases end_ <;> exact List.mem_insertionSort _

/-- A URI that erases a file which no URI before it erases is not listed again. -/
def ErasesOnce (executor : TreeExecutor) (plan : RuntimeRetentionPlan) (tree : FileTree) : Prop :=
  ∀ front uri back target, plan.expiredArtifactUris = front ++ uri :: back →
    Erases executor plan.retainedArtifactUris tree uri target →
    ¬ ErasedBy executor plan.retainedArtifactUris tree front target → uri ∉ back

theorem gone_iff (erases : Erases executor retained tree uri target) :
    Gone executor retained tree done uri ↔ ErasedBy executor retained tree done target := by
  constructor
  · rintro ⟨path, leads, erased⟩
    rwa [erases.leads.unique leads]
  · exact fun erased => ⟨target, erases.leads, erased⟩

theorem ends_again (once : ErasesOnce executor plan tree) {front middle back : List Text}
    (split : plan.expiredArtifactUris = front ++ uri :: (middle ++ uri :: back))
    (first : Ends executor plan.retainedArtifactUris tree front uri end_)
    (again : Ends executor plan.retainedArtifactUris tree (front ++ uri :: middle) uri other) :
    end_ = other := by
  cases first with
  | first fated there =>
      cases again with
      | first fated_too _ => exact Option.some.inj (fated.symm.trans fated_too)
      | gone deleted _ =>
          obtain ⟨target, erases⟩ := fate_deleted_iff.mp deleted
          have not_gone := there (Option.some.inj (fated.symm.trans deleted))
          rw [gone_iff erases] at not_gone
          have listed_again : uri ∈ middle ++ uri :: back :=
            List.mem_append_right _ List.mem_cons_self
          exact (once front uri _ target split erases not_gone listed_again).elim
  | gone deleted gone =>
      cases again with
      | first fated there =>
          obtain ⟨target, leads, by_uri, member, erases⟩ := gone
          refine (there (Option.some.inj (fated.symm.trans deleted)) ?_).elim
          exact ⟨target, leads, by_uri, List.mem_append_left _ member, erases⟩
      | gone _ _ => rfl

theorem places {α : Type} {value : α} {front back front' back' : List α}
    (same : front ++ value :: back = front' ++ value :: back') :
    front = front' ∨
      (∃ middle, front' = front ++ value :: middle ∧ back = middle ++ value :: back') ∨
      ∃ middle, front = front' ++ value :: middle ∧ back' = middle ++ value :: back := by
  rcases List.append_eq_append_iff.mp same with ⟨gap, rfl, rest⟩ | ⟨gap, rfl, rest⟩
  · cases gap with
    | nil => exact .inl (List.append_nil front).symm
    | cons head middle =>
        obtain ⟨rfl, tail⟩ := List.cons.inj rest
        exact .inr (.inl ⟨middle, rfl, tail⟩)
  · cases gap with
    | nil => exact .inl (List.append_nil front')
    | cons head middle =>
        obtain ⟨rfl, tail⟩ := List.cons.inj rest
        exact .inr (.inr ⟨middle, rfl, tail⟩)

theorem reported_iff (createdAt : Text) :
    ((executor.cleanPlan plan tree).1 = none ∧ ∀ uri ∈ plan.expiredArtifactUris, ∃! end_,
        uri ∈ reported (executor.report plan createdAt (executor.cleanPlan plan tree).2) end_) ↔
      (∀ uri ∈ plan.expiredArtifactUris,
        settles executor plan.retainedArtifactUris tree uri = true) ∧
        ErasesOnce executor plan tree := by
  rw [cleanPlan_returns]
  refine and_congr_right fun settled => ?_
  have all_reached : reached executor plan tree = plan.expiredArtifactUris :=
    List.takeWhile_eq_self_iff.mpr settled
  simp only [mem_reported, cleanPlan_lists, all_reached, EndsAmong, List.nil_append]
  constructor
  · intro unique front uri back target split erases not_erased again
    obtain ⟨middle, rest, rfl⟩ := List.append_of_mem again
    have deleted := fate_deleted_iff.mpr ⟨target, erases⟩
    have first : Ends executor plan.retainedArtifactUris tree front uri .deleted :=
      .first deleted fun _ gone => not_erased ((gone_iff erases).mp gone)
    have second : Ends executor plan.retainedArtifactUris tree (front ++ uri :: middle) uri
        .missing :=
      .gone deleted ((gone_iff erases).mpr
        ⟨uri, List.mem_append_right _ List.mem_cons_self, erases⟩)
    have member : uri ∈ plan.expiredArtifactUris := by
      rw [split]
      exact List.mem_append_right _ List.mem_cons_self
    have split_again : plan.expiredArtifactUris = (front ++ uri :: middle) ++ uri :: rest := by
      rw [split, List.append_assoc, List.cons_append]
    cases (unique uri member).unique ⟨front, _, split, first⟩ ⟨_, rest, split_again, second⟩
  · intro once uri member
    obtain ⟨front, back, split⟩ := List.append_of_mem member
    obtain ⟨base, fated⟩ := Option.isSome_iff_exists.mp (settled uri member)
    obtain ⟨end_, ends⟩ : ∃ other, Ends executor plan.retainedArtifactUris tree front uri other :=
      exists_ends fated
    refine ⟨end_, ⟨front, back, split, ends⟩, ?_⟩
    rintro other ⟨front', back', split', ends'⟩
    rcases places (split.symm.trans split') with rfl | ⟨middle, rfl, rfl⟩ | ⟨middle, rfl, rfl⟩
    · exact ends'.unique ends
    · exact (ends_again once split ends ends').symm
    · exact ends_again once split' ends' ends

variable {store : ReportStore}

theorem saveFile_keeps (file : ArtifactPath × Artifact) :
    Tree.Keeps tree (store.saveFile tree file).2 := by
  unfold ReportStore.saveFile
  simp only
  split
  · rename_i made folder name folders _
    split
    · rename_i saved written
      exact (Tree.makeFolders_keeps folders).trans (Tree.save_keeps written)
    · exact Tree.makeFolders_keeps folders
  · exact .refl

theorem saveFiles_keeps (files : List (ArtifactPath × Artifact)) :
    Tree.Keeps tree (store.saveFiles tree files).2 := by
  induction files generalizing tree with
  | nil => exact .refl
  | cons file rest ih =>
      have first : Tree.Keeps tree (store.saveFile tree file).2 := saveFile_keeps file
      unfold ReportStore.saveFiles
      cases saved : store.saveFile tree file with
      | mk outcome middle =>
          rw [saved] at first
          cases outcome with
          | error error => exact first
          | ok done => exact first.trans ih

theorem writeJson_keeps (parts : List Text) (payload : Json) :
    Tree.Keeps tree (store.writeJson tree parts payload).2 := by
  unfold ReportStore.writeJson
  simp only
  split_ifs
  · exact .refl
  · generalize (store.settings.chunkLargeStrings _ _ _).2 ++ _ = files
    have kept : Tree.Keeps tree (store.saveFiles tree files).2 := saveFiles_keeps files
    cases saved : store.saveFiles tree files with
    | mk outcome after =>
        rw [saved] at kept
        cases outcome <;> exact kept

theorem apply_keeps (now : Datetime) :
    Tree.Keeps (executor.cleanPlan plan tree).2.files (executor.apply plan now tree).2 := by
  unfold TreeExecutor.apply
  cases cleaned : executor.cleanPlan plan tree with
  | mk raised progress =>
      cases raised with
      | some error => exact .refl
      | none =>
          simp only
          cases executor.reportArtifacts with
          | none => exact .refl
          | some store =>
              simp only
              generalize parts_eq : ([_, _, _] : List Text) = parts
              generalize Json_eq : RuntimeRetentionCleanupReport.toJson _ = payload
              have kept :
                  Tree.Keeps progress.files (store.writeJson progress.files parts payload).2 :=
                writeJson_keeps parts payload
              cases saved : store.writeJson progress.files parts payload with
              | mk outcome after =>
                  rw [saved] at kept
                  cases outcome <;> exact kept

theorem apply_report {now : Datetime} {answer : RuntimeRetentionCleanupReport × Option Text}
    (returned : (executor.apply plan now tree).1 = .ok answer) :
    answer.1 = executor.report plan (isoTimestamp now) (executor.cleanPlan plan tree).2 := by
  unfold TreeExecutor.apply at returned
  cases cleaned : executor.cleanPlan plan tree with
  | mk raised progress =>
      rw [cleaned] at returned
      cases raised with
      | some error => cases returned
      | none =>
          simp only at returned
          cases stored : executor.reportArtifacts with
          | none =>
              rw [stored] at returned
              cases returned
              rfl
          | some store =>
              rw [stored] at returned
              simp only at returned
              split at returned
              · cases returned
                rfl
              · cases returned

end Executor

/-- What retention keeps, and when: a plan splits the runs and retains what runs that are not
expired reference; it expires no run in progress unless a later record of its id is expired.
Cleaning removes only what is below the root, and nothing in a dry run; it keeps what retained URIs
lead to exactly when no expired URI erases it, and reports every URI once exactly when no error ends
it and no URI that erases a file is listed again. -/
theorem retention_exact (now : Datetime) :
    (∀ parseDatetime policy recordset plan,
      RecordsetPlanner.plan parseDatetime policy now recordset = .ok plan →
      (∀ run ∈ runsOf recordset, ∀ id, hasId id run = true →
        (id ∈ plan.expiredRunIds ↔ id ∉ plan.retainedRunIds)) ∧
      (∀ id uri, References recordset id uri → id ∉ plan.expiredRunIds →
        uri ∈ plan.retainedArtifactUris) ∧
      ((∀ run ∈ runsOf recordset, ∀ id, hasId id run = true →
          RecordsetPlanner.isOpen run = true → id ∉ plan.expiredRunIds) ↔
        ∀ run ∈ runsOf recordset, ∀ id, hasId id run = true →
          RecordsetPlanner.isOpen run = true → ∀ last, lastRun recordset id = some last →
            RecordsetPlanner.runIsExpired parseDatetime policy now last ≠ .ok true)) ∧
    ∀ (executor : TreeExecutor) plan tree,
      (∀ path, Removed tree (executor.cleanPlan plan tree).2.files path →
        executor.resolver.root <+: path) ∧
      (executor.dryRun = true → ∀ path,
        (executor.cleanPlan plan tree).2.files.node? path = tree.node? path) ∧
      ((∀ uri ∈ plan.retainedArtifactUris, ∀ path, Leads executor tree uri path →
          ¬ Removed tree (executor.cleanPlan plan tree).2.files path) ↔
        ∀ uri ∈ reached executor plan tree, ∀ path,
          Erases executor plan.retainedArtifactUris tree uri path →
            ∀ kept ∈ plan.retainedArtifactUris, ¬ Leads executor tree kept path) ∧
      ((executor.cleanPlan plan tree).1 = none ∧ (∀ uri ∈ plan.expiredArtifactUris, ∃! end_,
          uri ∈ reported
            (executor.report plan (isoTimestamp now) (executor.cleanPlan plan tree).2) end_) ↔
        (∀ uri ∈ plan.expiredArtifactUris,
          settles executor plan.retainedArtifactUris tree uri = true) ∧
          ErasesOnce executor plan tree) ∧
      Tree.Keeps (executor.cleanPlan plan tree).2.files (executor.apply plan now tree).2 ∧
      ∀ answer, (executor.apply plan now tree).1 = .ok answer →
        answer.1 = executor.report plan (isoTimestamp now) (executor.cleanPlan plan tree).2 := by
  refine ⟨fun parseDatetime policy recordset plan planned => ⟨?_, ?_, ?_⟩,
    fun executor plan tree => ⟨?_, dryRun_keeps, retained_kept_iff, ?_, apply_keeps now, ?_⟩⟩
  · exact fun run member id named => expired_or_retained planned member named
  · exact fun id uri => referenced_retained planned
  · exact open_kept_iff planned
  · exact fun path => removed_inside
  · exact reported_iff _
  · exact fun answer => apply_report

/-- A recordset with a run that was completed at the start of time, and a run in progress. -/
def twoRuns : JsonObject := [("records", .obj [
  ("runtime_runs", .arr [
    .obj [("id", .str "old"), ("status", .str "succeeded"), ("completed_at", .str "0001-01-01T00:00:00Z")],
    .obj [("id", .str "new"), ("status", .str "running")]]),
  ("runtime_checkpoints", .arr [
    .obj [("run_id", .str "new"), ("state_uri", .str "hetzner://runtime/state.json")]])])]

/-- The plan of the two runs: the run in progress and its state are retained. -/
theorem two_runs_split :
    (∀ run ∈ runsOf twoRuns, ∀ id, hasId id run = true →
      (id ∈ ["old".toList] ↔ id ∉ ["new".toList])) ∧
    ∀ id uri, References twoRuns id uri → id ∉ ["old".toList] →
      uri ∈ ["hetzner://runtime/state.json".toList] :=
  have exact_plan := (retention_exact 2592000000000).1 (fun _ => .ok 0) {} twoRuns
    ⟨["old"], [], ["new"], ["hetzner://runtime/state.json"]⟩ (by decide)
  ⟨exact_plan.1, exact_plan.2.1⟩

/-- An executor that deletes, on a host that refuses nothing. -/
def deleting : TreeExecutor where
  resolver := { root := ["repo"], loopError := ⟨.osError, "Symlink loop", none⟩ }
  statError _ := none
  unlinkError _ := none
  dryRun := false

/-- A plan that retains a file, and lists it as expired in another spelling. -/
def twoSpellings : RuntimeRetentionPlan where
  expiredRunIds := ["old"]
  expiredArtifactUris := ["hetzner://runtime/./notes"]
  retainedRunIds := ["new"]
  retainedArtifactUris := ["hetzner://runtime/notes"]

/-- The file of a retained URI is deleted. -/
theorem retained_file_deleted :
    "hetzner://runtime/notes".toList ∈ twoSpellings.retainedArtifactUris ∧
      Leads deleting FilesystemTools.linkedTree "hetzner://runtime/notes" ["repo", "notes"] ∧
      Removed FilesystemTools.linkedTree
        (deleting.cleanPlan twoSpellings FilesystemTools.linkedTree).2.files ["repo", "notes"] := by
  refine ⟨List.mem_singleton_self _, ?_, ?_, ?_⟩
  · unfold Leads
    decide
  · decide
  · exact Option.isNone_iff_eq_none.mp (by decide)

end CleanupSafety

end SkillCentric
