import SkillCentric.Library.Files
import SkillCentric.Library.Utf8
import SkillCentric.Runtime.ArtifactUris
import SkillCentric.Runtime.Coercions
import SkillCentric.Runtime.TenantStatus

/-!
# Filesystem adapters

`FilesystemReadAdapter`, `FilesystemListAdapter` and `FilesystemWriteAdapter` on a file tree with
links.  The case folding of names, the hash of contents, and what the file system refuses of a write
are parameters; errors of the operating system are `OSError`s.
-/

namespace SkillCentric

open Files Slug

/-- The file tree of the host. -/
abbrev FileTree := Files.Tree Text (List UInt8)

/-- The way that a text path describes. -/
def routeOf (text : Text) : Route Text where
  absolute := text.head? = some '/'
  moves := (pathParts text).map fun part => if part = (".." : Text) then .up else .down part

/-- `str(path)` of an absolute path. -/
def pathText (path : List Text) : Text := '/' :: List.intercalate ['/'] path

/-- `(root / relative).resolve()`. -/
def resolveBelow (tree : FileTree) (root : List Text) (relative : Text) :
    Except PyError (List Text) :=
  if '\x00' ∈ relative then .error ⟨.valueError, "embedded null byte", none⟩
  else
    let route := routeOf relative
    match tree.resolve []
      ⟨true, (if route.absolute then [] else root.map .down) ++ route.moves⟩ with
    | some target => .ok target
    | none => .error ⟨.osError, ("Symlink loop from " : Text) ++ Json.quoteText relative, none⟩

/-- `target.relative_to(root)`. -/
def relativeTo (target root : List Text) : Except PyError (List Text) :=
  if root <+: target then .ok (target.drop root.length)
  else .error
    ⟨.valueError, Json.quoteText (pathText target) ++ (" is not in the subpath of " : Text) ++
    Json.quoteText (pathText root), none⟩

/-- `(root / relative).resolve()`, inside the root. -/
def resolveInside (tree : FileTree) (root : List Text) (relative : Text) :
    Except PyError (List Text) := do
  let target ← resolveBelow tree root relative
  let _ ← relativeTo target root
  return target

/-- `str(payload.get(field) or default)`. -/
def textField (payload : Json) (field : Text) (default : Text := []) : Text :=
  (Json.orElse (payload.get? field) (.str default)).pyStr

/-- `int(payload.get(field) or default)`, refused below zero. -/
def limitField (payload : JsonObject) (field : Text) (default : Int) (refusal : Text) :
    Except PyError Nat := do
  let requested ← (Json.orElse ((Json.obj payload).get? field) (.int default)).toInt
  if requested < 0 then .error ⟨.valueError, refusal, none⟩ else .ok requested.toNat

namespace FilesystemReadAdapter

/-- `MAX_FILE_BYTES`. -/
def maxFileBytes : Nat := 100000

/-- `invoke`. -/
def invoke (tree : FileTree) (root : List Text) (payload : JsonObject) :
    Except PyError JsonObject := do
  let relativePath := textField (.obj payload) "path"
  if relativePath = [] then .error ⟨.valueError, "filesystem-read requires a path.", none⟩
  else
    let requestedMaxBytes ← limitField payload "max_bytes" 20000
      "filesystem-read max_bytes must be non-negative."
    let maxBytes := min requestedMaxBytes maxFileBytes
    let target ← resolveInside tree root relativePath
    match tree.stat target with
    | some (.file content) =>
        let data := content.take maxBytes
        return [
          ("path", .str (pathText target)),
          ("bytes_read", .int data.length),
          ("content", .str (Utf8.decode data)),
          ("truncated", .bool (maxBytes < content.length))]
    | _ => .error ⟨.osError, pathText target, none⟩

end FilesystemReadAdapter

namespace FilesystemListAdapter

/-- `MAX_ENTRIES`. -/
def maxEntries : Nat := 500

/-- The entry of a child. -/
def entryOf (tree : FileTree) (root target : List Text) (name : Text) : Except PyError Json :=
  match tree.stat (target ++ [name]) with
  | none => .error ⟨.osError, ("[Errno 2] No such file or directory: " : Text) ++
      Json.quoteText (pathText (target ++ [name])), none⟩
  | some node => .ok (.obj [
      ("name", .str name),
      ("path", .str (List.intercalate ['/'] ((target ++ [name]).drop root.length))),
      ("kind", .str (match node with
        | .folder => "directory"
        | _ => "file")),
      ("size_bytes", match node with
        | .file content => .int content.length
        | _ => .null)])

/-- `sorted(target.iterdir(), key=lambda item: item.name.casefold())`. -/
def sortedChildren (casefold : Text → Text) (tree : FileTree) (target : List Text) : List Text :=
  (tree.children target).insertionSort fun left right => casefold left ≤ casefold right

/-- `invoke`. -/
def invoke (casefold : Text → Text) (tree : FileTree) (root : List Text) (payload : JsonObject) :
    Except PyError JsonObject := do
  let relativePath := textField (.obj payload) "path" "."
  let requestedMaxEntries ← limitField payload "max_entries" 100
    "filesystem-list max_entries must be non-negative."
  let maxEntries := min requestedMaxEntries maxEntries
  let target ← resolveInside tree root relativePath
  match tree.stat target with
  | some .folder =>
      let entries ← ((sortedChildren casefold tree target).take maxEntries).mapM
        (entryOf tree root target)
      return [
        ("path", .str (pathText target)),
        ("entry_count", .int entries.length),
        ("entries", .arr entries),
        ("truncated", .bool (maxEntries < (tree.children target).length))]
  | _ => .error ⟨.osError, pathText target, none⟩

end FilesystemListAdapter

/-- One value of `_validated_approval`. -/
def approvalValue (approval : Json) (field : Text) : Except PyError (Text × Json) :=
  let value := strip (textField approval field)
  if value = [] then
    .error
      ⟨.valueError, ("filesystem-write approval requires " : Text) ++ field ++ ("." : Text), none⟩
  else if '\x00' ∈ value then
    .error ⟨.valueError, "filesystem-write approval values must not contain NUL bytes.", none⟩
  else .ok (field, .str value)

/-- `_validated_approval`. -/
def validatedApproval (approval : Json) : Except PyError JsonObject := do
  let record ← (["approval_id", "approved_by", "approved_at", "policy_id"] : List Text).mapM
    (approvalValue approval)
  if (Json.obj record).item "policy_id" = .str "write-approval-required" then return record
  else .error ⟨.valueError,
    "filesystem-write approval policy_id must be write-approval-required.", none⟩

namespace FilesystemWriteAdapter

/-- `MAX_CONTENT_BYTES`. -/
def maxContentBytes : Nat := 100000

/-- A write that passed the checks. -/
structure WritePlan where
  target : List Text
  contentBytes : List UInt8
  applyWrite : Bool
  previousBytes : Option (List UInt8)
  approvalRecord : JsonObject
  rollbackStrategy : Text
  rollbackReason : Text

/-- Raise a `ValueError` when a condition holds. -/
def refuseIf (condition : Bool) (message : Text) : Except PyError Unit :=
  if condition then .error ⟨.valueError, message, none⟩ else .ok ()

/-- `value` where it is a mapping. -/
def requireMapping (value : Json) (message : Text) : Except PyError Json :=
  if value.isMapping then .ok value else .error ⟨.valueError, message, none⟩

/-- `target.read_bytes() if target.exists() else None`, where the target is a file if it exists. -/
def previousBytes (tree : FileTree) (target : List Text) : Except PyError (Option (List UInt8)) :=
  match tree.stat target with
  | none => .ok none
  | some (.file content) => .ok (some content)
  | some _ => .error ⟨.valueError, "filesystem-write target must be a file path.", none⟩

/-- The content of a payload, as bytes. -/
def contentBytes (payload : JsonObject) : Except PyError (List UInt8) :=
  match (Json.obj payload).item "content" with
  | .str content => .ok (encodeUtf8 content)
  | _ => .error ⟨.valueError, "filesystem-write requires string content.", none⟩

/-- The `apply` flag of a payload. -/
def applyFlag (payload : JsonObject) : Except PyError Bool :=
  match (Json.obj payload).item "apply" (.bool false) with
  | .bool apply => .ok apply
  | _ => .error ⟨.valueError, "filesystem-write apply must be a boolean.", none⟩

/-- The checks of `invoke`. -/
def planWrite (tree : FileTree) (root : List Text) (payload : JsonObject) :
    Except PyError WritePlan := do
  refuseIf (((Json.obj payload).get? "command").isSome || ((Json.obj payload).get? "shell").isSome)
    "filesystem-write accepts structured write plans, not commands."
  refuseIf (textField (.obj payload) "operation" ≠ ("write_text_file" : Text))
    "filesystem-write operation must be write_text_file."
  let approval ← requireMapping ((Json.obj payload).item "approval")
    "filesystem-write requires an approval object."
  let approvalRecord ← validatedApproval approval
  let rollback ← requireMapping ((Json.obj payload).item "rollback")
    "filesystem-write requires rollback metadata."
  let relativePath := textField (.obj payload) "path"
  refuseIf (relativePath = []) "filesystem-write requires a path."
  refuseIf ('\x00' ∈ relativePath) "filesystem-write path must not contain NUL bytes."
  refuseIf (relativePath.head? = some '/')
    "filesystem-write path must be relative to the repository root."
  let contentBytes ← contentBytes payload
  refuseIf (maxContentBytes < contentBytes.length)
    "filesystem-write content exceeds the adapter limit."
  let target ← resolveInside tree root relativePath
  let previousBytes ← previousBytes tree target
  let applyWrite ← applyFlag payload
  let rollbackStrategy := textField rollback "strategy"
  let expectedStrategy : Text :=
    if previousBytes.isSome then "restore_previous_content" else "delete_created_file"
  refuseIf (rollbackStrategy ≠ expectedStrategy)
    (("filesystem-write rollback strategy must be " : Text) ++ expectedStrategy ++
      (" for this target." : Text))
  return {
    target
    contentBytes
    applyWrite
    previousBytes
    approvalRecord
    rollbackStrategy
    rollbackReason := textField rollback "reason" }

/-- The answer of `invoke`. -/
def WritePlan.result (plan : WritePlan) (sha256Hex : List UInt8 → Text) : JsonObject := [
  ("operation", .str "write_text_file"),
  ("status", .str (if plan.applyWrite then "applied" else "planned")),
  ("path", .str (pathText plan.target)),
  ("bytes_planned", .int plan.contentBytes.length),
  ("content_sha256", .str (sha256Hex plan.contentBytes)),
  ("existed_before", .bool plan.previousBytes.isSome),
  ("previous_content_sha256", plan.previousBytes.elim .null fun bytes => .str (sha256Hex bytes)),
  ("approval", .obj plan.approvalRecord),
  ("rollback", .obj [
    ("strategy", .str plan.rollbackStrategy),
    ("metadata_only", .bool true),
    ("reason", .str plan.rollbackReason)])]

/-- How the writing of a file ends. -/
inductive WriteOutcome where
  | completed
  /-- The file is not opened. -/
  | refused
  /-- The file was opened, and holds this when the writing breaks off. -/
  | broken (left : List UInt8)

/-- What the file system of the host refuses: a folder that is created on the way to a target, and
the target. -/
structure WriteHost where
  refusesFolder : (target folder : List Text) → Bool
  write : (target : List Text) → (content : List UInt8) → WriteOutcome

/-- The folders above a target that are not there, from the root down. -/
def missingFolders (tree : FileTree) (target : List Text) : List (List Text) :=
  target.dropLast.inits.filter fun folder => (tree.node? folder).isNone

/-- `target.parent.mkdir(parents=True, exist_ok=True)` and `target.write_text(content)`, with what
they leave behind. -/
def applyWrite (host : WriteHost) (tree : FileTree) (plan : WritePlan) :
    Except PyError Unit × FileTree :=
  let failed : Except PyError Unit := .error ⟨.osError, pathText plan.target, none⟩
  match tree.mkdirs plan.target.dropLast with
  | none => (failed, tree)
  | some made =>
      match (missingFolders tree plan.target).find? (host.refusesFolder plan.target) with
      -- the folders above the refused one are created before it
      | some folder => (failed, (tree.mkdirs folder.dropLast).getD tree)
      | none =>
          match host.write plan.target plan.contentBytes with
          | .refused => (failed, made)
          | .broken left => (failed, (made.write plan.target left).getD made)
          | .completed =>
              match made.write plan.target plan.contentBytes with
              | none => (failed, made)
              | some written => (.ok (), written)

/-- `invoke`. -/
def invoke (sha256Hex : List UInt8 → Text) (host : WriteHost) (tree : FileTree) (root : List Text)
    (payload : JsonObject) : Except PyError JsonObject × FileTree :=
  match planWrite tree root payload with
  | .error error => (.error error, tree)
  | .ok plan =>
      if plan.applyWrite then
        match applyWrite host tree plan with
        | (.error error, after) => (.error error, after)
        | (.ok _, after) => (.ok (plan.result sha256Hex), after)
      else (.ok (plan.result sha256Hex), tree)

end FilesystemWriteAdapter

end SkillCentric
