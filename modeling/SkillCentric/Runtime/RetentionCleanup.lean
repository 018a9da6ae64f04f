import SkillCentric.Runtime.FilesystemAdapters
import SkillCentric.Runtime.ProfileComposer
import SkillCentric.Runtime.Retention

/-!
# Cleanup on a file tree

The planner on a recordset of JSON records, as it is read from a file, and the executor on a
file tree with links.  What the host's parser makes of a timestamp, and what its file system
refuses, are parameters.
-/

namespace SkillCentric

open Files RuntimeProfileComposer

namespace RecordsetPlanner

/-- A record is filed under its id, if it has one. -/
def addRecord (records : Dict Text Json) (record : Json) : Dict Text Json :=
  match record.get? "id" with
  | some id => records.set id.pyStr record
  | none => records

/-- `_records_by_id`. -/
def recordsById : Json → Dict Text Json
  | .arr values => values.foldl addRecord .empty
  | _ => .empty

/-- Days that the artifacts of a run with a status are kept. -/
def retentionDays (policy : RuntimeRetentionPolicy) (status : Text) : Int :=
  if status = ("failed" : Text) then policy.failedRunArtifactDays
  else if status = ("cancelled" : Text) then policy.cancelledRunArtifactDays
  else policy.succeededRunArtifactDays

/-- `completed + timedelta(days=days)`. -/
def plusDays (completed : Datetime) (days : Int) : Except PyError Int :=
  let moment := (completed : Int) + days * 86400000000
  if 0 ≤ moment ∧ moment < 3652059 * 86400000000 then .ok moment
  else .error ⟨.overflowError, "date value out of range", none⟩

/-- The status of a run is one of those in progress, or it has no time of completion. -/
def isOpen (run : Json) : Bool :=
  textField run "status" = ("queued" : Text) || textField run "status" = ("running" : Text) ||
    run.item "completed_at" == .null

/-- `_run_is_expired`. -/
def runIsExpired (parseDatetime : Text → Except PyError Datetime) (policy : RuntimeRetentionPolicy)
    (now : Datetime) (run : Json) : Except PyError Bool :=
  if isOpen run then .ok false
  else do
    let completed ← parseDatetime (run.item "completed_at").pyStr
    let moment ← plusDays completed (retentionDays policy (textField run "status"))
    return moment ≤ (now : Int)

/-- `_list_records`. -/
def listRecords (records : Json) (field : Text) : List Json :=
  match records.item field (.arr []) with
  | .arr values => values.filter Json.isMapping
  | _ => []

/-- The URIs in the fields of a record whose run is read first. -/
def recordUris (fields : List Text) (record : Json) : Except PyError (List (Text × Text)) := do
  let runId ← subscript record "run_id"
  return fields.filterMap fun field =>
    match record.get? field with
    | some (.str uri) => some (runId.pyStr, uri)
    | _ => none

/-- The URI in a field of a record whose run is read only for a URI. -/
def fieldUri (field : Text) (record : Json) : Except PyError (List (Text × Text)) :=
  match record.get? field with
  | some (.str uri) => do
      let runId ← subscript record "run_id"
      return [(runId.pyStr, uri)]
  | _ => .ok []

/-- `_iter_runtime_artifact_uris`. -/
def iterRuntimeArtifactUris (records : Json) : Except PyError (List (Text × Text)) := do
  let events ← (listRecords records "runtime_events").mapM
    (recordUris ["planned_action_uri", "execution_uri", "result_uri"])
  let checkpoints ← (listRecords records "runtime_checkpoints").mapM (fieldUri "state_uri")
  let invocations ← (listRecords records "tool_invocations").mapM
    (recordUris ["input_uri", "output_uri"])
  let validations ← (listRecords records "validation_results").mapM (fieldUri "findings_uri")
  let candidates ← (listRecords records "memory_candidates").mapM (fieldUri "content_uri")
  return (events ++ checkpoints ++ invocations ++ validations ++ candidates).flatten

/-- `plan`. -/
def plan (parseDatetime : Text → Except PyError Datetime) (policy : RuntimeRetentionPolicy)
    (now : Datetime) (recordset : JsonObject) : Except PyError RuntimeRetentionPlan :=
  let records := (Json.obj recordset).item "records" (.obj [])
  if records.isMapping then do
    let runs := recordsById (records.item "runtime_runs" (.arr []))
    let judged ← runs.entries.mapM fun entry => do
      return (entry.1, ← runIsExpired parseDatetime policy now entry.2)
    return .ofJudged judged (← iterRuntimeArtifactUris records)
  else .error ⟨.valueError, "runtime_plane_recordset.records must be an object.", none⟩

end RecordsetPlanner

/-- `RuntimeArtifactUriResolver` with a resolved root, and the host's error for a loop of links. -/
structure RuntimeArtifactUriResolver where
  root : List Text
  uriPrefix : Text := "hetzner://runtime"
  loopError : PyError

/-- `resolve`: the path, or the message of a `RuntimeRetentionError`; other errors are raised. -/
def RuntimeArtifactUriResolver.resolve (resolver : RuntimeArtifactUriResolver) (tree : FileTree)
    (uri : Text) : Except PyError (Except Text (List Text)) :=
  match resolveArtifactUri (resolver.uriPrefix.rdropWhile (· == '/')) uri with
  | .error message => .ok (.error message)
  | .ok parts =>
      if parts.any (·.contains '\x00') then .error ⟨.valueError, "embedded null byte", none⟩
      else
        match tree.resolve [] ⟨true, (resolver.root ++ parts).map .down⟩ with
        | none => .error resolver.loopError
        | some target =>
            if resolver.root <+: target then .ok (.ok target)
            else .ok (.error (("Artifact URI escapes runtime root: " : Text) ++ uri))

/-- A store of reports on a file tree: its root, the settings of a `JsonArtifactStore`, and
how files are written. -/
structure ReportStore where
  root : List Text
  settings : JsonArtifactStore := .empty
  /-- `redact_sensitive_data`. -/
  redactSensitiveData : Json → Json
  /-- `json.dumps(…)` of a payload, or the bytes of a chunk. -/
  artifactBytes : Artifact → List UInt8

namespace ReportStore

variable (store : ReportStore)

/-- Write one file, with the folders above it. -/
def saveFile (tree : FileTree) (file : ArtifactPath × Artifact) : Except PyError Unit × FileTree :=
  let path := store.root ++ file.1
  match tree.makeFolders [] path.dropLast, path.getLast? with
  | some (made, folder), some name =>
      match made.save folder name (store.artifactBytes file.2) with
      | some saved => (.ok (), saved)
      | none => (.error ⟨.osError, pathText path, none⟩, made)
  | _, _ => (.error ⟨.osError, pathText path, none⟩, tree)

/-- Write files until one fails. -/
def saveFiles : FileTree → List (ArtifactPath × Artifact) → Except PyError Unit × FileTree
  | tree, [] => (.ok (), tree)
  | tree, file :: rest =>
      match store.saveFile tree file with
      | (.ok _, saved) => saveFiles saved rest
      | (.error error, saved) => (.error error, saved)

/-- `write_json`. -/
def writeJson (tree : FileTree) (parts : List Text) (payload : Json) :
    Except PyError Text × FileTree :=
  let payload := store.redactSensitiveData payload
  if store.settings.chunkSizeBytes = 0 ∧ store.settings.unchunked payload = false then
    (.error ⟨.valueError, "range() arg 3 must not be zero", none⟩, tree)
  else
    let (stored, chunks) := store.settings.chunkLargeStrings (safeParts parts) [] payload
    match store.saveFiles tree (chunks ++ [(relativePath parts, .json stored)]) with
    | (.ok _, saved) => (.ok (store.settings.uriText (relativePath parts)), saved)
    | (.error error, saved) => (.error error, saved)

end ReportStore

/-- `RuntimeRetentionExecutor` with the settings of one call of `apply`, and
what the host refuses. -/
structure TreeExecutor where
  resolver : RuntimeArtifactUriResolver
  policy : RuntimeRetentionPolicy := {}
  /-- The error of `is_dir()` and `exists()`, if they raise. -/
  statError : List Text → Option PyError
  /-- The error of `unlink()`, if it raises. -/
  unlinkError : List Text → Option Text
  dryRun : Bool := true
  strictMissing : Bool := false
  /-- `report_artifacts`, unless `persist_report` is off. -/
  reportArtifacts : Option ReportStore := none

namespace TreeExecutor

abbrev Progress := CleanupProgress FileTree

variable (executor : TreeExecutor)

/-- The body of the loop, for a resolved URI. -/
def cleanFile (progress : Progress) (uri : Text) (target : List Text) : Progress :=
  match progress.files.stat target with
  | some .folder => progress.refuse uri "artifact_uri_resolves_to_directory"
  | none =>
      { progress with
        missing := progress.missing ++ [uri]
        errors := progress.errors ++
          if executor.strictMissing then [(uri, ("artifact_file_missing" : Text))] else [] }
  | some _ =>
      if executor.dryRun then { progress with dryRun := progress.dryRun ++ [uri] }
      else
        match executor.unlinkError target with
        | some reason =>
            { progress with
              failed := progress.failed ++ [uri], errors := progress.errors ++ [(uri, reason)] }
        | none =>
            { progress with
              files := (progress.files.unlink target).getD progress.files
              deleted := progress.deleted ++ [uri] }

/-- The body of the loop. -/
def cleanUri (retained : List Text) (progress : Progress) (uri : Text) : Except PyError Progress :=
  if retained.contains uri then .ok (progress.refuse uri "artifact_uri_is_also_retained")
  else do
    match ← executor.resolver.resolve progress.files uri with
    | .error reason => return progress.refuse uri reason
    | .ok target =>
        match executor.statError target with
        | some error => .error error
        | none => return executor.cleanFile progress uri target

/-- The loop of `apply`: the error that ends it, and what is done by then. -/
def clean (retained : List Text) : Progress → List Text → Option PyError × Progress
  | progress, [] => (none, progress)
  | progress, uri :: rest =>
      match executor.cleanUri retained progress uri with
      | .error error => (some error, progress)
      | .ok next => clean retained next rest

/-- The loop over the expired URIs of a plan. -/
def cleanPlan (plan : RuntimeRetentionPlan) (tree : FileTree) : Option PyError × Progress :=
  executor.clean plan.retainedArtifactUris { files := tree } plan.expiredArtifactUris

/-- The report of a loop. -/
def report (plan : RuntimeRetentionPlan) (createdAt : Text) (progress : Progress) :
    RuntimeRetentionCleanupReport :=
  progress.report executor.policy executor.dryRun executor.strictMissing plan createdAt

/-- `apply`: the report with the URI that it is stored under, and the tree. -/
def apply (plan : RuntimeRetentionPlan) (now : Datetime) (tree : FileTree) :
    Except PyError (RuntimeRetentionCleanupReport × Option Text) × FileTree :=
  match executor.cleanPlan plan tree with
  | (some error, progress) => (.error error, progress.files)
  | (none, progress) =>
      let report := executor.report plan (isoTimestamp now) progress
      match executor.reportArtifacts with
      | none => (.ok (report, none), progress.files)
      | some store =>
          match store.writeJson progress.files
            ["retention-reports", report.createdAt, "runtime-retention-cleanup-report"]
            report.toJson with
          | (.ok uri, saved) => (.ok (report, some uri), saved)
          | (.error error, saved) => (.error error, saved)

end TreeExecutor

end SkillCentric
