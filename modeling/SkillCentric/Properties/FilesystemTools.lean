import SkillCentric.Library.Stateful
import SkillCentric.Runtime.FilesystemAdapters

/-!
# Filesystem tools

What the filesystem adapters reach.  The path of a payload is resolved before it is compared with
the root, so the target is a link-free path below the root, and reading, listing and writing it
reach the node at that path.  A write that the host refuses leaves what was written before.
-/

namespace SkillCentric

namespace FilesystemTools

open Files Stateful

variable {tree : FileTree} {root target : List Text} {payload result : JsonObject}

/-- A path that was resolved inside the root: it is below the root, and free of links. -/
structure Inside (tree : FileTree) (root target : List Text) : Prop where
  below : root <+: target
  physical : tree.Physical target

/-- The path that a payload asks for, resolved. -/
def Requested (tree : FileTree) (root : List Text) (payload : JsonObject) (default : Text)
    (target : List Text) : Prop :=
  resolveBelow tree root (textField (.obj payload) "path" default) = .ok target

theorem relativeTo_ok {rest : List Text} (related : relativeTo target root = .ok rest) :
    root <+: target := by
  unfold relativeTo at related
  split_ifs at related with below
  exact below

theorem resolveBelow_physical {relative : Text}
    (resolved : resolveBelow tree root relative = .ok target) : tree.Physical target := by
  unfold resolveBelow at resolved
  split_ifs at resolved
  simp only at resolved
  generalize route_eq : (⟨true, _⟩ : Route Text) = route at resolved
  cases reached : tree.resolve [] route with
  | none =>
      rw [reached] at resolved
      cases resolved
  | some found =>
      rw [reached] at resolved
      cases resolved
      exact Tree.resolve_physical Tree.physical_nil reached

theorem resolveInside_ok {relative : Text}
    (resolved : resolveInside tree root relative = .ok target) :
    resolveBelow tree root relative = .ok target ∧ Inside tree root target := by
  obtain ⟨found, reached, resolved⟩ := bind_eq_ok.mp resolved
  obtain ⟨_, related, resolved⟩ := bind_eq_ok.mp resolved
  cases resolved
  exact ⟨reached, relativeTo_ok related, resolveBelow_physical reached⟩

theorem read_inside (read : FilesystemReadAdapter.invoke tree root payload = .ok result) :
    ∃ requested target content,
      limitField payload "max_bytes" 20000 "filesystem-read max_bytes must be non-negative." =
        .ok requested ∧
      Requested tree root payload [] target ∧ Inside tree root target ∧
      tree.node? target = some (.file content) ∧
      (Json.obj result).item "path" = .str (pathText target) ∧
      (Json.obj result).item "bytes_read" =
        .int (content.take (min requested FilesystemReadAdapter.maxFileBytes)).length ∧
      (Json.obj result).item "content" =
        .str (Utf8.decode (content.take (min requested FilesystemReadAdapter.maxFileBytes))) := by
  unfold FilesystemReadAdapter.invoke at read
  simp only at read
  split_ifs at read
  obtain ⟨requested, limited, read⟩ := bind_eq_ok.mp read
  obtain ⟨target, resolved, read⟩ := bind_eq_ok.mp read
  obtain ⟨asked, inside⟩ := resolveInside_ok resolved
  rw [Tree.stat_of_physical inside.physical] at read
  cases found : tree.node? target with
  | none =>
      rw [found] at read
      cases read
  | some node =>
      rw [found] at read
      cases node with
      | file content =>
          cases read
          exact ⟨requested, target, content, limited, asked, inside, found, rfl, rfl, rfl⟩
      | _ => cases read

/-- An entry is of a child, under its name. -/
def EntryOf (tree : FileTree) (target : List Text) (entry : Json) : Prop :=
  ∃ name, (tree.node? (target ++ [name])).isSome ∧ entry.item "name" = .str name

theorem entryOf_ok {name : Text} {entry : Json}
    (read : FilesystemListAdapter.entryOf tree root target name = .ok entry) :
    entry.item "name" = .str name := by
  unfold FilesystemListAdapter.entryOf at read
  cases found : tree.stat (target ++ [name]) with
  | none =>
      rw [found] at read
      cases read
  | some node =>
      rw [found] at read
      cases read
      rfl

theorem list_inside {casefold : Text → Text}
    (listed : FilesystemListAdapter.invoke casefold tree root payload = .ok result) :
    ∃ requested target entries,
      limitField payload "max_entries" 100 "filesystem-list max_entries must be non-negative." =
        .ok requested ∧
      Requested tree root payload "." target ∧ Inside tree root target ∧
      tree.isFolder target = true ∧ (Json.obj result).item "path" = .str (pathText target) ∧
      (Json.obj result).item "entries" = .arr entries ∧
      entries.length =
        min (min requested FilesystemListAdapter.maxEntries) (tree.children target).length ∧
      ∀ entry ∈ entries, EntryOf tree target entry := by
  unfold FilesystemListAdapter.invoke at listed
  obtain ⟨requested, limited, listed⟩ := bind_eq_ok.mp listed
  obtain ⟨target, resolved, listed⟩ := bind_eq_ok.mp listed
  obtain ⟨asked, inside⟩ := resolveInside_ok resolved
  rw [Tree.stat_of_physical inside.physical] at listed
  cases found : tree.node? target with
  | none =>
      rw [found] at listed
      cases listed
  | some node =>
      rw [found] at listed
      cases node with
      | folder =>
          obtain ⟨entries, passed, listed⟩ := bind_eq_ok.mp listed
          cases listed
          refine ⟨requested, target, entries, limited, asked, inside, Tree.isFolder_iff.mpr found,
            rfl, rfl, ?_, ?_⟩
          · rw [length_of_mapM_ok passed, List.length_take, FilesystemListAdapter.sortedChildren,
              List.length_insertionSort]
          · intro entry member
            obtain ⟨name, among, read⟩ := exists_of_mapM_ok passed entry member
            have child : name ∈ tree.children target :=
              (List.perm_insertionSort _ _).mem_iff.mp (List.mem_of_mem_take among)
            exact ⟨name, Tree.mem_children.mp child, entryOf_ok read⟩
      | _ => cases listed

open FilesystemWriteAdapter

variable {sha256Hex : List UInt8 → Text} {plan : WritePlan} {after : FileTree}

/-- What a plan says about the tree and the payload. -/
structure Planned (tree : FileTree) (root : List Text) (payload : JsonObject) (plan : WritePlan) :
    Prop where
  asked : Requested tree root payload [] plan.target
  inside : Inside tree root plan.target
  content : ∃ text, (Json.obj payload).item "content" = .str text ∧
    plan.contentBytes = encodeUtf8 text
  applied : (Json.obj payload).item "apply" (.bool false) = .bool plan.applyWrite
  previous : tree.node? plan.target = plan.previousBytes.map .file

theorem previousBytes_ok {bytes : Option (List UInt8)} (physical : tree.Physical target)
    (read : FilesystemWriteAdapter.previousBytes tree target = .ok bytes) :
    tree.node? target = bytes.map .file := by
  unfold FilesystemWriteAdapter.previousBytes at read
  rw [Tree.stat_of_physical physical] at read
  cases found : tree.node? target with
  | none =>
      rw [found] at read
      cases read
      rfl
  | some node =>
      rw [found] at read
      cases node with
      | file content =>
          cases read
          rfl
      | _ => cases read

theorem contentBytes_ok {bytes : List UInt8}
    (read : FilesystemWriteAdapter.contentBytes payload = .ok bytes) :
    ∃ text, (Json.obj payload).item "content" = .str text ∧ bytes = encodeUtf8 text := by
  unfold FilesystemWriteAdapter.contentBytes at read
  cases given : (Json.obj payload).item "content" with
  | str text =>
      rw [given] at read
      cases read
      exact ⟨text, rfl, rfl⟩
  | _ =>
      rw [given] at read
      cases read

theorem applyFlag_ok {apply : Bool} (read : applyFlag payload = .ok apply) :
    (Json.obj payload).item "apply" (.bool false) = .bool apply := by
  unfold applyFlag at read
  cases given : (Json.obj payload).item "apply" (.bool false) with
  | bool flag =>
      rw [given] at read
      cases read
      rfl
  | _ =>
      rw [given] at read
      cases read

theorem planWrite_ok (planned : planWrite tree root payload = .ok plan) :
    Planned tree root payload plan := by
  unfold planWrite at planned
  obtain ⟨_, -, planned⟩ := bind_eq_ok.mp planned
  obtain ⟨_, -, planned⟩ := bind_eq_ok.mp planned
  obtain ⟨approval, -, planned⟩ := bind_eq_ok.mp planned
  obtain ⟨record, -, planned⟩ := bind_eq_ok.mp planned
  obtain ⟨rollback, -, planned⟩ := bind_eq_ok.mp planned
  obtain ⟨_, -, planned⟩ := bind_eq_ok.mp planned
  obtain ⟨_, -, planned⟩ := bind_eq_ok.mp planned
  obtain ⟨_, -, planned⟩ := bind_eq_ok.mp planned
  obtain ⟨content, given, planned⟩ := bind_eq_ok.mp planned
  obtain ⟨_, -, planned⟩ := bind_eq_ok.mp planned
  obtain ⟨target, resolved, planned⟩ := bind_eq_ok.mp planned
  obtain ⟨previous, stored, planned⟩ := bind_eq_ok.mp planned
  obtain ⟨apply, flagged, planned⟩ := bind_eq_ok.mp planned
  obtain ⟨_, -, planned⟩ := bind_eq_ok.mp planned
  cases planned
  obtain ⟨asked, inside⟩ := resolveInside_ok resolved
  exact {
    asked
    inside
    content := contentBytes_ok given
    applied := applyFlag_ok flagged
    previous := previousBytes_ok inside.physical stored }

/-- The tree after a write: the content of the target, and the folders above
it that were missing. -/
def Written (tree after : FileTree) (target : List Text) (content : List UInt8) : Prop :=
  after.node? target = some (.file content) ∧
    ∀ path, path ≠ target → after.node? path = tree.node? path ∨
      path <+: target.dropLast ∧ tree.node? path = none ∧ after.node? path = some .folder

theorem target_ne_nil (planned : Planned tree root payload plan) : plan.target ≠ [] := by
  intro none
  have stored := planned.previous
  rw [none, Tree.node?_nil] at stored
  cases previous : plan.previousBytes with
  | none => simp [previous] at stored
  | some bytes => simp [previous] at stored

theorem not_prefix_dropLast {path : List Text} (path_ne : path ≠ []) :
    ¬ path <+: path.dropLast := by
  intro above
  have shorter := above.length_le
  have longer := List.length_pos_iff.mpr path_ne
  rw [List.length_dropLast] at shorter
  omega

theorem mkdirs_above {folder : List Text} {made : FileTree}
    (possible : tree.mkdirs target = some made)
    (above : folder <+: target) :
    ∃ middle, tree.mkdirs folder = some middle ∧ middle.isFolder folder = true := by
  obtain ⟨rest, rfl⟩ := above
  rw [Tree.mkdirs, Tree.mkdirsFrom_append] at possible
  obtain ⟨middle, first, -⟩ := Option.bind_eq_some_iff.mp possible
  exact ⟨middle, first, Tree.isFolder_mkdirs first⟩

/-- What the host refuses of an applied write comes before the first change: the folder above a
refused folder is there, the folder of a refused file is there, and a broken write leaves what the
file held. -/
def Untouched (host : WriteHost) (tree : FileTree) (plan : WritePlan) : Prop :=
  match (missingFolders tree plan.target).find? (host.refusesFolder plan.target) with
  | some folder => tree.isFolder folder.dropLast = true
  | none =>
      match host.write plan.target plan.contentBytes with
      | .completed => True
      | .refused => tree.isFolder plan.target.dropLast = true
      | .broken left => plan.previousBytes = some left

/-- What a write that goes through the checks leaves of the tree. -/
theorem applyWrite_cases (planned : Planned tree root payload plan) (host : WriteHost) :
    (applyWrite host tree plan).1 = .ok () ∧
        Written tree (applyWrite host tree plan).2 plan.target plan.contentBytes ∧
        (Untouched host tree plan ∨ tree.mkdirs plan.target.dropLast = none) ∨
      ∃ error, (applyWrite host tree plan).1 = .error error ∧
        ((applyWrite host tree plan).2 = tree ↔
          Untouched host tree plan ∨ tree.mkdirs plan.target.dropLast = none) := by
  have target_ne := target_ne_nil planned
  unfold applyWrite Untouched
  cases folders : tree.mkdirs plan.target.dropLast with
  | none => exact .inr ⟨_, rfl, by simp⟩
  | some made =>
      simp only [reduceCtorEq, or_false]
      cases refused : (missingFolders tree plan.target).find? (host.refusesFolder plan.target) with
      | some folder =>
          refine .inr ⟨_, rfl, ?_⟩
          have listed := List.mem_of_mem_filter (List.mem_of_find?_eq_some refused)
          have above := (List.dropLast_prefix folder).trans ((List.mem_inits _ _).mp listed)
          obtain ⟨middle, created, there⟩ := mkdirs_above folders above
          simp only [created, Option.getD_some]
          constructor
          · intro same
            rw [← same]
            exact there
          · intro folder_there
            exact Option.some.inj (created.symm.trans (Tree.mkdirs_of_isFolder folder_there))
      | none =>
          have kept : made.node? plan.target = tree.node? plan.target := by
            rcases Tree.node?_mkdirs folders plan.target with kept | ⟨above, -, -⟩
            · exact kept
            · exact (not_prefix_dropLast target_ne above).elim
          have no_folder : made.isFolder plan.target = false := by
            rw [← Bool.not_eq_true, Tree.isFolder_iff, kept, planned.previous]
            cases plan.previousBytes <;> simp
          have possible (content : List UInt8) :
              ∃ after, made.write plan.target content = some after :=
            Option.isSome_iff_exists.mp
              (Tree.put_isSome target_ne (Tree.isFolder_mkdirs folders) no_folder)
          have unchanged (folder_there : tree.isFolder plan.target.dropLast = true) : made = tree :=
            Option.some.inj (folders.symm.trans (Tree.mkdirs_of_isFolder folder_there))
          cases host.write plan.target plan.contentBytes with
          | completed =>
              obtain ⟨after, written⟩ := possible plan.contentBytes
              have changed := Tree.node?_put written
              refine .inl ⟨by simp only [written], ?_, trivial⟩
              simp only [written]
              refine ⟨by rw [changed, if_pos rfl], fun path differs => ?_⟩
              rw [changed, if_neg differs]
              exact Tree.node?_mkdirs folders path
          | refused =>
              refine .inr ⟨_, rfl, fun same => ?_, unchanged⟩
              rw [← show made = tree from same]
              exact Tree.isFolder_mkdirs folders
          | broken left =>
              obtain ⟨after, written⟩ := possible left
              refine .inr ⟨_, rfl, ?_⟩
              simp only [written, Option.getD_some]
              constructor
              · intro same
                have stored := Tree.node?_put written plan.target
                rw [if_pos rfl, same, planned.previous] at stored
                cases previous : plan.previousBytes with
                | none => simp [previous] at stored
                | some bytes => simpa [previous] using stored
              · intro previous
                have stored : tree.node? plan.target = some (.file left) := by
                  rw [planned.previous, previous]
                  rfl
                have folder_there : tree.isFolder plan.target.dropLast = true := by
                  rw [← List.dropLast_append_getLast target_ne] at stored
                  exact Tree.isFolder_of_node? (by rw [stored]; rfl)
                rw [unchanged folder_there] at written no_folder
                exact Option.some.inj (written.symm.trans (Tree.put_of_same stored no_folder))

/-- The hashes in an answer are of the content of the payload and of what the target held before. -/
structure Hashed (sha256Hex : List UInt8 → Text) (tree : FileTree) (target : List Text)
    (content : List UInt8) (result : JsonObject) : Prop where
  path : (Json.obj result).item "path" = .str (pathText target)
  content_sha256 : (Json.obj result).item "content_sha256" = .str (sha256Hex content)
  previous_content_sha256 : (Json.obj result).item "previous_content_sha256" =
    match tree.node? target with
    | some (.file bytes) => .str (sha256Hex bytes)
    | _ => .null

theorem result_hashed (planned : Planned tree root payload plan) :
    Hashed sha256Hex tree plan.target plan.contentBytes (plan.result sha256Hex) where
  path := rfl
  content_sha256 := rfl
  previous_content_sha256 := by
    have answered : (Json.obj (plan.result sha256Hex)).item "previous_content_sha256" =
        plan.previousBytes.elim .null fun bytes => .str (sha256Hex bytes) := rfl
    rw [answered, planned.previous]
    cases plan.previousBytes <;> rfl

/-- A write changes nothing, or it applies the content of the payload to a file inside the root, and
hashes what it writes and what was there. -/
def WriteContained (sha256Hex : List UInt8 → Text) (host : WriteHost) (tree : FileTree)
    (root : List Text) (payload : JsonObject) : Prop :=
  let invoked := FilesystemWriteAdapter.invoke sha256Hex host tree root payload
  (∃ error, invoked.1 = .error error ∧ invoked.2 = tree) ∨
    ∃ result target content, invoked.1 = .ok result ∧ Requested tree root payload [] target ∧
      Inside tree root target ∧ (Json.obj payload).item "content" = .str content ∧
      Hashed sha256Hex tree target (encodeUtf8 content) result ∧
      ((Json.obj payload).item "apply" (.bool false) = .bool true ∧
          Written tree invoked.2 target (encodeUtf8 content) ∨
        (Json.obj payload).item "apply" (.bool false) = .bool false ∧ invoked.2 = tree)

/-- A write that is planned to be applied is untouched by the host, or a file stands where a folder
above its target would be. -/
def WriteHarmless (host : WriteHost) (tree : FileTree) (root : List Text) (payload : JsonObject) :
    Prop :=
  ∀ plan, planWrite tree root payload = .ok plan → plan.applyWrite = true →
    Untouched host tree plan ∨ tree.mkdirs plan.target.dropLast = none

theorem writeContained_iff (sha256Hex : List UInt8 → Text) (host : WriteHost) (tree : FileTree)
    (root : List Text) (payload : JsonObject) :
    WriteContained sha256Hex host tree root payload ↔ WriteHarmless host tree root payload := by
  unfold WriteContained WriteHarmless FilesystemWriteAdapter.invoke
  cases checked : planWrite tree root payload with
  | error error => simp
  | ok plan =>
      have planned := planWrite_ok checked
      obtain ⟨content, given, encoded⟩ := planned.content
      have hashed : Hashed sha256Hex tree plan.target plan.contentBytes (plan.result sha256Hex) :=
        result_hashed planned
      have applied := planned.applied
      rw [encoded] at hashed
      simp only
      cases apply : plan.applyWrite with
      | false =>
          rw [apply] at applied
          refine ⟨fun _ other same applies => ?_, fun _ => .inr ⟨_, _, content, rfl,
            planned.asked, planned.inside, given, hashed, .inr ⟨applied, rfl⟩⟩⟩
          cases same
          rw [apply] at applies
          cases applies
      | true =>
          rw [apply] at applied
          rcases applyWrite_cases planned host with ⟨went, written, harmless⟩
            | ⟨error, failed, same⟩
          · rw [encoded] at written
            have split : applyWrite host tree plan = (.ok (), (applyWrite host tree plan).2) :=
              Prod.ext went rfl
            rw [split]
            refine ⟨fun _ other same _ => ?_, fun _ => .inr ⟨_, _, content, rfl, planned.asked,
              planned.inside, given, hashed, .inl ⟨applied, written⟩⟩⟩
            cases same
            exact harmless
          · have split : applyWrite host tree plan =
                (.error error, (applyWrite host tree plan).2) := Prod.ext failed rfl
            rw [split]
            constructor
            · rintro (⟨_, -, kept⟩ | ⟨_, _, _, answered, -⟩) other found -
              · cases found
                exact same.mp kept
              · cases answered
            · intro harmless
              exact .inl ⟨error, rfl, same.mpr (harmless plan rfl apply)⟩

/-- The filesystem tools stay inside the root: a read answers with the start of a file inside it, a
listing with the names in a folder inside it, and a write is contained exactly when what the host
refuses of it comes before the first change. -/
theorem filesystem_tools (tree : FileTree) (root : List Text) :
    (∀ payload result, FilesystemReadAdapter.invoke tree root payload = .ok result →
      ∃ target content limit, Requested tree root payload [] target ∧ Inside tree root target ∧
        tree.node? target = some (.file content) ∧
        (Json.obj result).item "path" = .str (pathText target) ∧
        (Json.obj result).item "content" = .str (Utf8.decode (content.take limit))) ∧
    (∀ casefold payload result,
      FilesystemListAdapter.invoke casefold tree root payload = .ok result →
      ∃ target entries, Requested tree root payload "." target ∧ Inside tree root target ∧
        tree.isFolder target = true ∧ (Json.obj result).item "path" = .str (pathText target) ∧
        (Json.obj result).item "entries" = .arr entries ∧
        ∀ entry ∈ entries, EntryOf tree target entry) ∧
    ∀ sha256Hex host payload,
      WriteContained sha256Hex host tree root payload ↔ WriteHarmless host tree root payload := by
  refine ⟨?_, ?_, fun sha256Hex host payload => writeContained_iff sha256Hex host tree root payload⟩
  · intro payload result read
    obtain ⟨_, target, content, -, asked, inside, stored, path, -, text⟩ := read_inside read
    exact ⟨target, content, _, asked, inside, stored, path, text⟩
  · intro casefold payload result listed
    obtain ⟨_, target, entries, -, asked, inside, folder, path, answered, -, children⟩ :=
      list_inside listed
    exact ⟨target, entries, asked, inside, folder, path, answered, children⟩

/-- A repository with a file and a link to it. -/
def linkedTree : FileTree :=
  (((Tree.empty : FileTree).mkdirs ["repo", "docs"]).bind fun made =>
    (made.put ["repo", "docs", "way"] (.link (routeOf "../notes"))).bind fun linked =>
      linked.write ["repo", "notes"] (encodeUtf8 "kept")).getD .empty

/-- A file is read through the link to it. -/
theorem linked_file_read :
    ∃ target content limit,
      Requested linkedTree ["repo"] [("path", .str "docs/way")] [] target ∧
        Inside linkedTree ["repo"] target ∧ linkedTree.node? target = some (.file content) ∧
        (Json.obj [("path", .str "/repo/notes"), ("bytes_read", .int 4), ("content", .str "kept"),
          ("truncated", .bool false)]).item "path" = .str (pathText target) ∧
        (Json.obj [("path", .str "/repo/notes"), ("bytes_read", .int 4), ("content", .str "kept"),
          ("truncated", .bool false)]).item "content" =
            .str (Utf8.decode (content.take limit)) := by
  have read : FilesystemReadAdapter.invoke linkedTree ["repo"] [("path", .str "docs/way")] =
      .ok [("path", .str "/repo/notes"), ("bytes_read", .int 4), ("content", .str "kept"),
        ("truncated", .bool false)] := by
    decide +kernel
  exact (filesystem_tools linkedTree ["repo"]).1 _ _ read

/-- A host that does not open files of long names. -/
def shortNames : WriteHost where
  refusesFolder _ _ := false
  write target _ :=
    if (target.getLast?.elim 0 List.length) ≤ 255 then .completed else .refused

/-- An approved write of a file in a new folder. -/
def writeRequest (name : Text) : JsonObject := [
  ("operation", .str "write_text_file"),
  ("approval", .obj [("approval_id", .str "a-1"), ("approved_by", .str "ada"),
    ("approved_at", .str "2026-01-01"), ("policy_id", .str "write-approval-required")]),
  ("rollback", .obj [("strategy", .str "delete_created_file")]),
  ("path", .str (("notes/" : Text) ++ name)), ("content", .str "text"), ("apply", .bool true)]

/-- The folder of a file whose name is too long is there after the write has failed. -/
theorem refused_write_leaves_folder :
    ¬∀ sha256Hex host tree root payload, WriteContained sha256Hex host tree root payload := by
  intro contained
  let invoked := FilesystemWriteAdapter.invoke (fun _ => []) shortNames .empty []
    (writeRequest (List.replicate 256 'a'))
  have failed : invoked.1.toOption.isNone = true := by decide +kernel
  have left : invoked.2.isFolder ["notes"] = true := by decide +kernel
  have before : (Tree.empty : FileTree).isFolder ["notes"] = false := by decide
  rcases contained (fun _ => []) shortNames .empty [] (writeRequest (List.replicate 256 'a')) with
    ⟨_, -, same⟩ | ⟨result, _, _, answered, -⟩
  · rw [show invoked.2 = _ from same, before] at left
    cases left
  · rw [show invoked.1 = _ from answered] at failed
    cases failed

end FilesystemTools

end SkillCentric
