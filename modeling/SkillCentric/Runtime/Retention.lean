import SkillCentric.Runtime.ArtifactUris
import SkillCentric.Runtime.MemoryStore
import SkillCentric.Runtime.Timestamp

/-!
# Retention

`RuntimeRetentionPlanner.plan` lists the artifacts of expired and of retained runs, and
`RuntimeRetentionExecutor.apply` deletes the files of the first that are not among the second.  What
the host's parser makes of a timestamp and what the file system refuses are parameters.
-/

namespace SkillCentric

/-- `RuntimeRetentionPolicy`. -/
structure RuntimeRetentionPolicy where
  succeededRunArtifactDays : Int := 30
  failedRunArtifactDays : Int := 90
  cancelledRunArtifactDays : Int := 30
  cleanupReportArtifactDays : Int := 180

/-- `RuntimeRetentionPlan`. -/
structure RuntimeRetentionPlan where
  expiredRunIds : List Text
  expiredArtifactUris : List Text
  retainedRunIds : List Text
  retainedArtifactUris : List Text
  deriving DecidableEq

/-- The tables of the runtime plane's recordset that the planner reads. -/
structure RetentionRecords where
  runtimeRuns : List RuntimeRun
  runtimeEvents : List RuntimeEvent
  runtimeCheckpoints : List RuntimeCheckpoint
  toolInvocations : List ToolInvocation
  validationResults : List ValidationResult
  memoryCandidates : List (List (Text × Json))

namespace RetentionRecords

/-- The records of a store, and the memory candidates beside them. -/
def ofStore (store : InMemoryRuntimeStore) (memoryCandidates : List (List (Text × Json))) :
    RetentionRecords where
  runtimeRuns := store.runtimeRuns.values
  runtimeEvents := store.runtimeEvents
  runtimeCheckpoints := store.runtimeCheckpoints
  toolInvocations := store.toolInvocations
  validationResults := store.validationResults
  memoryCandidates

end RetentionRecords

/-- `sorted(set(texts))`. -/
def sortedSet (texts : List Text) : List Text := texts.eraseDups.insertionSort (· ≤ ·)

@[simp]
theorem mem_sortedSet {text : Text} {texts : List Text} :
    text ∈ sortedSet texts ↔ text ∈ texts := by
  rw [sortedSet, List.mem_insertionSort, List.mem_eraseDups]

/-- The plan for runs with the verdict on each, and artifacts with the run of each. -/
def RuntimeRetentionPlan.ofJudged (judged : List (Text × Bool)) (uris : List (Text × Text)) :
    RuntimeRetentionPlan :=
  let expiredRunIds := (judged.filter (·.2)).map Prod.fst
  { expiredRunIds := expiredRunIds.insertionSort (· ≤ ·)
    expiredArtifactUris :=
      sortedSet ((uris.filter fun entry => expiredRunIds.contains entry.1).map Prod.snd)
    retainedRunIds := ((judged.filter (!·.2)).map Prod.fst).insertionSort (· ≤ ·)
    retainedArtifactUris :=
      sortedSet ((uris.filter fun entry => !expiredRunIds.contains entry.1).map Prod.snd) }

namespace RuntimeRetentionPlanner

/-- `_run_is_expired`. -/
def runIsExpired (fromIsoformat : Text → Except PyError Datetime) (policy : RuntimeRetentionPolicy)
    (now : Datetime) (run : RuntimeRun) : Except PyError Bool :=
  match run.completedAt with
  | none => .ok false
  | some completedAt =>
      if run.status = .queued ∨ run.status = .running then .ok false
      else do
        let completed ← fromIsoformat completedAt
        let days := match run.status with
          | .failed => policy.failedRunArtifactDays
          | .cancelled => policy.cancelledRunArtifactDays
          | _ => policy.succeededRunArtifactDays
        return (completed : Int) + days * 86400000000 ≤ (now : Int)

/-- `_records_by_id`. -/
def recordsById (runs : List RuntimeRun) : Dict Text RuntimeRun :=
  runs.foldl (fun dict run => dict.set run.id run) .empty

/-- The content of a memory candidate, with the run it is of. -/
def candidateUri (candidate : List (Text × Json)) : Except PyError (Option (Text × Text)) :=
  match Json.field? "content_uri" candidate with
  | some (.str uri) =>
      match Json.field? "run_id" candidate with
      | some runId => .ok (some (runId.pyStr, uri))
      | none => .error (InMemoryRuntimeStore.keyError "run_id")
  | _ => .ok none

/-- The artifacts of the events, checkpoints, tool invocations and validation results. -/
def recordedArtifacts (records : RetentionRecords) : List (Text × ArtifactPath) :=
  (records.runtimeEvents.flatMap fun event =>
      [event.plannedActionUri, event.executionUri, event.resultUri].filterMap fun uri =>
        uri.map fun path => (event.runId, path)) ++
    records.runtimeCheckpoints.map (fun checkpoint => (checkpoint.runId, checkpoint.stateUri)) ++
    (records.toolInvocations.flatMap fun invocation =>
      [(invocation.runId, invocation.inputUri), (invocation.runId, invocation.outputUri)]) ++
    records.validationResults.map fun validation => (validation.runId, validation.findingsUri)

/-- `_iter_runtime_artifact_uris`. -/
def iterRuntimeArtifactUris (uriText : ArtifactPath → Text) (records : RetentionRecords) :
    Except PyError (List (Text × Text)) := do
  let candidates ← records.memoryCandidates.mapM candidateUri
  return (recordedArtifacts records).map (fun entry => (entry.1, uriText entry.2)) ++
    candidates.filterMap id

/-- `plan`. -/
def plan (fromIsoformat : Text → Except PyError Datetime) (policy : RuntimeRetentionPolicy)
    (now : Datetime) (uriText : ArtifactPath → Text) (records : RetentionRecords) :
    Except PyError RuntimeRetentionPlan := do
  let judged ← (recordsById records.runtimeRuns).entries.mapM fun entry => do
    return (entry.1, ← runIsExpired fromIsoformat policy now entry.2)
  return .ofJudged judged (← iterRuntimeArtifactUris uriText records)

end RuntimeRetentionPlanner

/-- `RuntimeArtifactUriResolver.resolve`: the path below the root, or the message of the error. -/
def resolveArtifactUri (uriPrefix uri : Text) : Except Text ArtifactPath :=
  let lead := uriPrefix ++ ['/']
  if Slug.startsWith uri lead then
    let raw := uri.drop lead.length
    let parts := pathParts raw
    if raw.head? = some '/' then
      .error (("Absolute artifact paths are not allowed: " : Text) ++ uri)
    else if parts = [] then .error (("Artifact URI has no relative path: " : Text) ++ uri)
    else if (".." : Text) ∈ parts then
      .error (("Unsafe artifact URI path segment: " : Text) ++ uri)
    else if parts.any fun part => part.contains '\\' || part.contains ':' then
      .error (("Platform-specific artifact path segment: " : Text) ++ uri)
    else .ok parts
  else .error (("Unsupported runtime artifact URI: " : Text) ++ uri)

/-- `RuntimeRetentionCleanupReport`, without the URI it is stored under. -/
structure RuntimeRetentionCleanupReport where
  createdAt : Text
  dryRun : Bool
  strictMissing : Bool
  cleanupReportArtifactDays : Int
  expiredRunIds : List Text
  retainedRunIds : List Text
  deletedArtifactUris : List Text
  dryRunArtifactUris : List Text
  missingArtifactUris : List Text
  unsafeArtifactUris : List Text
  failedArtifactUris : List Text
  retainedArtifactUris : List Text
  /-- URIs with the reason of the error. -/
  errors : List (Text × Text)

namespace RuntimeRetentionCleanupReport

variable (report : RuntimeRetentionCleanupReport)

/-- `to_dict`. -/
def toJson : Json :=
  let texts (values : List Text) : Json := .arr (values.map .str)
  .obj
    [("created_at", .str report.createdAt), ("dry_run", .bool report.dryRun),
      ("strict_missing", .bool report.strictMissing),
      ("cleanup_report_artifact_days", .int report.cleanupReportArtifactDays),
      ("expired_run_ids", texts report.expiredRunIds),
      ("retained_run_ids", texts report.retainedRunIds),
      ("deleted_artifact_uris", texts report.deletedArtifactUris),
      ("dry_run_artifact_uris", texts report.dryRunArtifactUris),
      ("missing_artifact_uris", texts report.missingArtifactUris),
      ("unsafe_artifact_uris", texts report.unsafeArtifactUris),
      ("failed_artifact_uris", texts report.failedArtifactUris),
      ("retained_artifact_uris", texts report.retainedArtifactUris),
      ("errors", .arr (report.errors.map fun error =>
        .obj [("uri", .str error.1), ("reason", .str error.2)])),
      ("report_uri", .null)]

end RuntimeRetentionCleanupReport

/-- The files and the lists of the report, on the way through a plan. -/
structure CleanupProgress (σ : Type) where
  files : σ
  deleted : List Text := []
  dryRun : List Text := []
  missing : List Text := []
  unsafeUris : List Text := []
  failed : List Text := []
  errors : List (Text × Text) := []

namespace CleanupProgress

variable {σ : Type} (progress : CleanupProgress σ)

/-- A URI that is not touched. -/
def refuse (uri reason : Text) : CleanupProgress σ :=
  { progress with
    unsafeUris := progress.unsafeUris ++ [uri]
    errors := progress.errors ++ [(uri, reason)] }

/-- The report of a pass over a plan. -/
def report (policy : RuntimeRetentionPolicy) (dryRun strictMissing : Bool)
    (plan : RuntimeRetentionPlan) (createdAt : Text) : RuntimeRetentionCleanupReport where
  createdAt
  dryRun
  strictMissing
  cleanupReportArtifactDays := policy.cleanupReportArtifactDays
  expiredRunIds := plan.expiredRunIds
  retainedRunIds := plan.retainedRunIds
  deletedArtifactUris := progress.deleted.insertionSort (· ≤ ·)
  dryRunArtifactUris := progress.dryRun.insertionSort (· ≤ ·)
  missingArtifactUris := progress.missing.insertionSort (· ≤ ·)
  unsafeArtifactUris := progress.unsafeUris.insertionSort (· ≤ ·)
  failedArtifactUris := progress.failed.insertionSort (· ≤ ·)
  retainedArtifactUris := plan.retainedArtifactUris
  errors := progress.errors

end CleanupProgress

/-- An executor: the file system's answers, and the settings of one call of `apply`. -/
structure RuntimeRetentionExecutor where
  policy : RuntimeRetentionPolicy := {}
  /-- `redact_sensitive_data`. -/
  redactSensitiveData : Json → Json
  /-- `is_dir()`. -/
  isDir : ArtifactPath → Bool
  /-- The error of `unlink()`, if it raises. -/
  unlinkError : ArtifactPath → Option Text
  dryRun : Bool := true
  strictMissing : Bool := false
  /-- `persist_report` and a configured report store. -/
  persistReport : Bool := true

namespace RuntimeRetentionExecutor

abbrev Progress := CleanupProgress (Dict ArtifactPath Artifact)

variable (executor : RuntimeRetentionExecutor) (uriPrefix : Text)

/-- The body of the loop, for a resolved URI. -/
def cleanPath (progress : Progress) (uri : Text) (path : ArtifactPath) : Progress :=
  if executor.isDir path then progress.refuse uri "artifact_uri_resolves_to_directory"
  else if (progress.files.get? path).isNone then
    { progress with
      missing := progress.missing ++ [uri]
      errors := progress.errors ++
        if executor.strictMissing then [(uri, ("artifact_file_missing" : Text))] else [] }
  else if executor.dryRun then { progress with dryRun := progress.dryRun ++ [uri] }
  else
    match executor.unlinkError path with
    | some reason =>
        { progress with
          failed := progress.failed ++ [uri], errors := progress.errors ++ [(uri, reason)] }
    | none =>
        { progress with
          files := progress.files.erase path, deleted := progress.deleted ++ [uri] }

/-- The body of the loop. -/
def cleanUri (retained : List Text) (progress : Progress) (uri : Text) : Progress :=
  if retained.contains uri then progress.refuse uri "artifact_uri_is_also_retained"
  else
    match resolveArtifactUri uriPrefix uri with
    | .error reason => progress.refuse uri reason
    | .ok path => cleanPath executor progress uri path

/-- The loop of `apply`. -/
def clean (plan : RuntimeRetentionPlan) (files : Dict ArtifactPath Artifact) : Progress :=
  plan.expiredArtifactUris.foldl (cleanUri executor uriPrefix plan.retainedArtifactUris) { files }

/-- The report of a pass. -/
def report (plan : RuntimeRetentionPlan) (createdAt : Text) (progress : Progress) :
    RuntimeRetentionCleanupReport :=
  progress.report executor.policy executor.dryRun executor.strictMissing plan createdAt

/-- `apply` on the files of an artifact store; the clock reads `now`. -/
def apply (plan : RuntimeRetentionPlan) (now : Datetime) (artifacts : JsonArtifactStore) :
    RuntimeRetentionCleanupReport × JsonArtifactStore :=
  let progress := executor.clean artifacts.uriPrefix plan artifacts.files
  let report := executor.report plan (isoTimestamp now) progress
  let cleaned := { artifacts with files := progress.files }
  if executor.persistReport then
    (report, (cleaned.writeJson
      ["retention-reports", report.createdAt, "runtime-retention-cleanup-report"]
      (executor.redactSensitiveData report.toJson)).2)
  else (report, cleaned)

end RuntimeRetentionExecutor

end SkillCentric
