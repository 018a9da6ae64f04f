import SkillCentric.Library.Dict
import SkillCentric.Runtime.Records

/-!
# The JSON artifact store

Payloads live as files below an artifact root.  Path parts are slugged on the way in, and strings
above a size threshold are moved to chunk files and replaced by a reference to their manifest.  The
files list the keys of a mapping in order; here they keep the caller's, which no comparison of
mappings sees.
-/

namespace SkillCentric

open Slug

/-- The content of an artifact file. -/
inductive Artifact where
  | json (payload : Json)
  | bytes (content : List UInt8)

/-- The files below the artifact root and the store's settings. -/
structure JsonArtifactStore where
  files : Dict ArtifactPath Artifact
  uriPrefix : Text := "hetzner://runtime"
  chunkStringThresholdBytes : Nat := 64000
  chunkSizeBytes : Nat := 32000

/-- UTF-8 encoding. -/
def encodeUtf8 (value : Text) : List UInt8 := value.flatMap String.utf8EncodeChar

/-- `str.removesuffix`. -/
def removeSuffix (value ending : Text) : Text :=
  if ending.isSuffixOf value then value.take (value.length - ending.length) else value

/-- `_relative_path`, directory parts and file name without `.json`. -/
def safeParts (parts : List Text) : List Text :=
  (parts.filter (· ≠ [])).map fun part => slugId (removeSuffix part ".json")

/-- The file path of slugged parts: the last part gets the suffix `.json`. -/
def jsonFile (parts : List Text) : ArtifactPath :=
  match parts.getLast? with
  | none => []
  | some filename => parts.dropLast ++ [filename ++ (".json" : Text)]

/-- `_relative_path`. -/
def relativePath (parts : List Text) : ArtifactPath := jsonFile (safeParts parts)

/-- `_field_path`. -/
def fieldPath (parts : List Text) : List Text :=
  let safe := (parts.filter (· ≠ [])).map (slugId ·)
  if safe.isEmpty then [("root" : Text)] else safe

namespace JsonArtifactStore

/-- The artifact store without files. -/
def empty : JsonArtifactStore := { files := .empty }

variable (store : JsonArtifactStore)

/-- The stored URI of a path. -/
def uriText (path : ArtifactPath) : Text :=
  store.uriPrefix ++ '/' :: List.intercalate ['/'] path

/-- The chunk files and the manifest of a large string, with the reference that replaces it. -/
def chunkedText (base field : List Text) (encoded : List UInt8) :
    Json × List (ArtifactPath × Artifact) :=
  let size := store.chunkSizeBytes
  let dir := base ++ [("chunks" : Text)] ++ fieldPath field
  let count := (encoded.length + size - 1) / size
  let chunkName (index : Nat) : Text :=
    List.replicate (4 - (decimal index).length) '0' ++ decimal index ++ (".txt" : Text)
  let chunk (index : Nat) : List UInt8 := (encoded.drop (index * size)).take size
  let entry (index : Nat) : Json :=
    .obj [("index", .int index), ("uri", .str (store.uriText (dir ++ [chunkName index]))),
      ("byte_start", .int (index * size)), ("byte_length", .int (chunk index).length)]
  let manifest : Json :=
    .obj [("artifact_kind", .str "chunked_text"), ("encoding", .str "utf-8"),
      ("byte_length", .int encoded.length), ("chunk_size_bytes", .int size),
      ("chunk_count", .int count), ("chunks", .arr ((List.range count).map entry))]
  let manifestPath := dir ++ [("manifest.json" : Text)]
  (.obj [("artifact_ref", .str "chunked_text"), ("manifest_uri", .str (store.uriText manifestPath)),
      ("encoding", .str "utf-8"), ("byte_length", .int encoded.length),
      ("chunk_count", .int count)],
    ((List.range count).map fun index =>
      (dir ++ [chunkName index], Artifact.bytes (chunk index))) ++
      [(manifestPath, .json manifest)])

mutual

/-- `_chunk_large_strings_at`: the payload to store and the chunk files written on the way. -/
def chunkLargeStrings (base field : List Text) : Json → Json × List (ArtifactPath × Artifact)
  | .str value =>
      if (encodeUtf8 value).length ≤ store.chunkStringThresholdBytes then (.str value, [])
      else store.chunkedText base field (encodeUtf8 value)
  | .arr items =>
      let (stored, files) := chunkItems base field 0 items
      (.arr stored, files)
  | .obj fields =>
      let (stored, files) := chunkFields base field fields
      (.obj stored, files)
  | value => (value, [])

/-- The items of a list, `index` being the position of the first. -/
def chunkItems (base field : List Text) (index : Nat) :
    List Json → List Json × List (ArtifactPath × Artifact)
  | [] => ([], [])
  | item :: rest =>
      let (stored, files) := chunkLargeStrings base (field ++ [decimal index]) item
      let (storedRest, filesRest) := chunkItems base field (index + 1) rest
      (stored :: storedRest, files ++ filesRest)

/-- The fields of an object. -/
def chunkFields (base field : List Text) :
    List (Text × Json) → List (Text × Json) × List (ArtifactPath × Artifact)
  | [] => ([], [])
  | (name, value) :: rest =>
      let (stored, files) := chunkLargeStrings base (field ++ [name]) value
      let (storedRest, filesRest) := chunkFields base field rest
      ((name, stored) :: storedRest, files ++ filesRest)

end

mutual

/-- No string of the payload is above the threshold. -/
def unchunked : Json → Bool
  | .str value => (encodeUtf8 value).length ≤ store.chunkStringThresholdBytes
  | .arr items => unchunkedItems items
  | .obj fields => unchunkedFields fields
  | _ => true

/-- No string of the items is above the threshold. -/
def unchunkedItems : List Json → Bool
  | [] => true
  | item :: rest => unchunked item && unchunkedItems rest

/-- No string among the values of the fields is above the threshold. -/
def unchunkedFields : List (Text × Json) → Bool
  | [] => true
  | (_, value) :: rest => unchunked value && unchunkedFields rest

end

mutual

theorem chunkLargeStrings_of_unchunked (base field : List Text) :
    (payload : Json) → store.unchunked payload = true →
      store.chunkLargeStrings base field payload = (payload, [])
  | .str value, small => by
      have bound : (encodeUtf8 value).length ≤ store.chunkStringThresholdBytes := by
        simpa [unchunked] using small
      simp [chunkLargeStrings, bound]
  | .arr items, small => by
      have stored := chunkItems_of_unchunked base field 0 items (by simpa [unchunked] using small)
      simp [chunkLargeStrings, stored]
  | .obj fields, small => by
      have stored := chunkFields_of_unchunked base field fields (by simpa [unchunked] using small)
      simp [chunkLargeStrings, stored]
  | .null, _ | .bool _, _ | .int _, _ | .float _, _ => by simp [chunkLargeStrings]

theorem chunkItems_of_unchunked (base field : List Text) (index : Nat) :
    (items : List Json) → store.unchunkedItems items = true →
      store.chunkItems base field index items = (items, [])
  | [], _ => by simp [chunkItems]
  | item :: rest, small => by
      simp only [unchunkedItems, Bool.and_eq_true] at small
      have first := chunkLargeStrings_of_unchunked base (field ++ [decimal index]) item small.1
      have others := chunkItems_of_unchunked base field (index + 1) rest small.2
      simp [chunkItems, first, others]

theorem chunkFields_of_unchunked (base field : List Text) :
    (fields : List (Text × Json)) → store.unchunkedFields fields = true →
      store.chunkFields base field fields = (fields, [])
  | [], _ => by simp [chunkFields]
  | (name, value) :: rest, small => by
      simp only [unchunkedFields, Bool.and_eq_true] at small
      have first := chunkLargeStrings_of_unchunked base (field ++ [name]) value small.1
      have others := chunkFields_of_unchunked base field rest small.2
      simp [chunkFields, first, others]

end

mutual

variable {other : JsonArtifactStore}

theorem unchunked_congr (same : other.chunkStringThresholdBytes = store.chunkStringThresholdBytes) :
    (payload : Json) → other.unchunked payload = store.unchunked payload
  | .str value => by simp [unchunked, same]
  | .arr items => by simp [unchunked, unchunkedItems_congr same items]
  | .obj fields => by simp [unchunked, unchunkedFields_congr same fields]
  | .null | .bool _ | .int _ | .float _ => by simp [unchunked]

theorem unchunkedItems_congr
    (same : other.chunkStringThresholdBytes = store.chunkStringThresholdBytes) :
    (items : List Json) → other.unchunkedItems items = store.unchunkedItems items
  | [] => by simp [unchunkedItems]
  | item :: rest => by
      simp [unchunkedItems, unchunked_congr same item, unchunkedItems_congr same rest]

theorem unchunkedFields_congr
    (same : other.chunkStringThresholdBytes = store.chunkStringThresholdBytes) :
    (fields : List (Text × Json)) → other.unchunkedFields fields = store.unchunkedFields fields
  | [] => by simp [unchunkedFields]
  | (_, value) :: rest => by
      simp [unchunkedFields, unchunked_congr same value, unchunkedFields_congr same rest]

end

/-- `write_json(parts, payload, redact=False)`: the artifact's path and the files afterwards. -/
def writeJson (parts : List Text) (payload : Json) : ArtifactPath × JsonArtifactStore :=
  let path := relativePath parts
  let (stored, chunks) := store.chunkLargeStrings (safeParts parts) [] payload
  let written := chunks.foldl (fun files entry => files.set entry.1 entry.2) store.files
  (path, { store with files := written.set path (.json stored) })

theorem writeJson_of_unchunked {parts : List Text} {payload : Json}
    (small : store.unchunked payload = true) :
    store.writeJson parts payload = (relativePath parts,
      { store with files := store.files.set (relativePath parts) (.json payload) }) := by
  simp [writeJson, store.chunkLargeStrings_of_unchunked _ _ payload small]

/-- `read_json(uri)`. -/
def readJson (path : ArtifactPath) : Except PyError Json :=
  match store.files.get? path with
  | some (.json payload) => .ok payload
  | some (.bytes _) => .error ⟨.valueError, "Expecting value", none⟩
  | none => .error ⟨.osError, "No such file or directory", none⟩

theorem readJson_eq_ok_iff {path : ArtifactPath} {payload : Json} :
    store.readJson path = .ok payload ↔ store.files.get? path = some (.json payload) := by
  unfold readJson
  cases store.files.get? path with
  | none => simp
  | some artifact => cases artifact <;> simp

end JsonArtifactStore

end SkillCentric
