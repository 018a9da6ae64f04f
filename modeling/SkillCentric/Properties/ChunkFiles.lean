import SkillCentric.Properties.ArtifactNames

/-!
# Chunk files of a payload

A large string is written to chunk files whose manifest tells how to put it together again.  Strings
with one slugged field path share their files, so that after the whole payload is written all of its
large strings reassemble exactly when such strings are equal.
-/

namespace SkillCentric

namespace ChunkFiles

open Slug Datetime ArtifactNames JsonArtifactStore

/-- An entry of a manifest, with the name of its file. -/
structure ChunkRow where
  index : Nat
  name : Text
  byteStart : Nat
  byteLength : Nat

variable (store : JsonArtifactStore) {dir base field : List Text} {encoded other : List UInt8}
  {files : Dict ArtifactPath Artifact} {reference : Json}

/-- The entry as JSON. -/
def ChunkRow.json (dir : List Text) (row : ChunkRow) : Json :=
  .obj [("index", .int row.index), ("uri", .str (store.uriText (dir ++ [row.name]))),
    ("byte_start", .int row.byteStart), ("byte_length", .int row.byteLength)]

def manifestOf (dir : List Text) (length : Nat) (rows : List ChunkRow) : Json :=
  .obj [("artifact_kind", .str "chunked_text"), ("encoding", .str "utf-8"),
    ("byte_length", .int length), ("chunk_size_bytes", .int store.chunkSizeBytes),
    ("chunk_count", .int rows.length), ("chunks", .arr (rows.map (ChunkRow.json store dir)))]

def referenceTo (dir : List Text) (length count : Nat) : Json :=
  .obj [("artifact_ref", .str "chunked_text"),
    ("manifest_uri", .str (store.uriText (dir ++ [("manifest.json" : Text)]))),
    ("encoding", .str "utf-8"), ("byte_length", .int length), ("chunk_count", .int count)]

/-- The rows follow one another without a gap, none of them empty. -/
def Consecutive : Nat → List ChunkRow → Nat → Prop
  | start, [], stop => start = stop
  | start, row :: rest, stop =>
      row.byteStart = start ∧ 0 < row.byteLength ∧ Consecutive (start + row.byteLength) rest stop

/-- The file of a row holds as many bytes as the row says. -/
def Stored (files : Dict ArtifactPath Artifact) (dir : List Text) (row : ChunkRow)
    (content : List UInt8) : Prop :=
  files.get? (dir ++ [row.name]) = some (.bytes content) ∧ content.length = row.byteLength

/-- A string reassembles from the files of its rows. -/
structure ReassemblesFrom (files : Dict ArtifactPath Artifact) (dir : List Text) (reference : Json)
    (encoded : List UInt8) (rows : List ChunkRow) (contents : List (List UInt8)) : Prop where
  refers : reference = referenceTo store dir encoded.length rows.length
  manifest : files.get? (dir ++ [("manifest.json" : Text)]) =
    some (.json (manifestOf store dir encoded.length rows))
  indices : rows.map ChunkRow.index = List.range rows.length
  ranges : Consecutive 0 rows encoded.length
  stored : List.Forall₂ (Stored files dir) rows contents
  whole : contents.flatten = encoded

/-- A string reassembles from the chunk files of a directory. -/
def Reassembles (files : Dict ArtifactPath Artifact) (dir : List Text) (reference : Json)
    (encoded : List UInt8) : Prop :=
  ∃ rows contents, ReassemblesFrom store files dir reference encoded rows contents

/-- The files after some are written. -/
def written (files : Dict ArtifactPath Artifact) (entries : List (ArtifactPath × Artifact)) :
    Dict ArtifactPath Artifact :=
  entries.foldl (fun files entry => files.set entry.1 entry.2) files

def chunkAt (encoded : List UInt8) (index : Nat) : List UInt8 :=
  (encoded.drop (index * store.chunkSizeBytes)).take store.chunkSizeBytes

def rowAt (encoded : List UInt8) (index : Nat) : ChunkRow where
  index
  name := padded 4 index ++ (".txt" : Text)
  byteStart := index * store.chunkSizeBytes
  byteLength := (chunkAt store encoded index).length

def chunkCount (encoded : List UInt8) : Nat :=
  (encoded.length + store.chunkSizeBytes - 1) / store.chunkSizeBytes

def rowsOf (encoded : List UInt8) : List ChunkRow :=
  (List.range (chunkCount store encoded)).map (rowAt store encoded)

theorem length_rowsOf (encoded : List UInt8) :
    (rowsOf store encoded).length = chunkCount store encoded := by
  rw [rowsOf, List.length_map, List.length_range]

theorem chunkedText_eq (base field : List Text) (encoded : List UInt8) :
    store.chunkedText base field encoded =
      (referenceTo store (chunkDirectory base field) encoded.length (chunkCount store encoded),
        (List.range (chunkCount store encoded)).map (fun index =>
          (chunkDirectory base field ++ [(rowAt store encoded index).name],
            Artifact.bytes (chunkAt store encoded index))) ++
        [(chunkDirectory base field ++ [("manifest.json" : Text)],
          .json (manifestOf store (chunkDirectory base field) encoded.length
            (rowsOf store encoded)))]) := by
  have rows : (rowsOf store encoded).map (ChunkRow.json store (chunkDirectory base field)) =
      (List.range (chunkCount store encoded)).map fun index : Nat => Json.obj
        [("index", .int index),
          ("uri", .str (store.uriText (chunkDirectory base field ++
            [padded 4 index ++ (".txt" : Text)]))),
          ("byte_start", .int (index * store.chunkSizeBytes)),
          ("byte_length", .int (chunkAt store encoded index).length)] := by
    rw [rowsOf, List.map_map]
    refine List.map_congr_left fun index _ => ?_
    simp only [Function.comp_apply, ChunkRow.json, rowAt, Nat.cast_mul]
  rw [manifestOf, rows, length_rowsOf]
  rfl

theorem mem_range_chunkCount (positive : 0 < store.chunkSizeBytes) {index : Nat}
    (below : index < chunkCount store encoded) : index * store.chunkSizeBytes < encoded.length := by
  have quotient := (Nat.le_div_iff_mul_le positive).mp (Nat.succ_le_of_lt below)
  rw [Nat.succ_mul] at quotient
  omega

theorem length_le_chunkCount (positive : 0 < store.chunkSizeBytes) (encoded : List UInt8) :
    encoded.length ≤ chunkCount store encoded * store.chunkSizeBytes := by
  have division := Nat.div_add_mod (encoded.length + store.chunkSizeBytes - 1) store.chunkSizeBytes
  have remainder := Nat.mod_lt (encoded.length + store.chunkSizeBytes - 1) positive
  rw [Nat.mul_comm] at division
  change chunkCount store encoded * store.chunkSizeBytes + _ = _ at division
  omega

theorem flatten_chunks {first count : Nat}
    (enough : encoded.length ≤ (first + count) * store.chunkSizeBytes) :
    ((List.range' first count).map (chunkAt store encoded)).flatten =
      encoded.drop (first * store.chunkSizeBytes) := by
  induction count generalizing first with
  | zero => exact (List.drop_eq_nil_of_le enough).symm
  | succ count ih =>
      have rest := @ih (first + 1) (by rwa [Nat.add_assoc, Nat.add_comm 1])
      rw [List.range'_succ, List.map_cons, List.flatten_cons, rest, chunkAt, Nat.succ_mul,
        ← List.drop_drop, List.take_append_drop]

theorem consecutive_rows {first count : Nat}
    (enough : encoded.length ≤ (first + count) * store.chunkSizeBytes)
    (inside : ∀ index < first + count, index * store.chunkSizeBytes < encoded.length)
    (positive : 0 < store.chunkSizeBytes) :
    Consecutive (min (first * store.chunkSizeBytes) encoded.length)
      ((List.range' first count).map (rowAt store encoded)) encoded.length := by
  induction count generalizing first with
  | zero => exact Nat.min_eq_right enough
  | succ count ih =>
      have begins := inside first (by omega)
      have length : (rowAt store encoded first).byteLength =
          min store.chunkSizeBytes (encoded.length - first * store.chunkSizeBytes) := by
        rw [rowAt, chunkAt, List.length_take, List.length_drop]
      have next : min (first * store.chunkSizeBytes) encoded.length +
          (rowAt store encoded first).byteLength =
            min ((first + 1) * store.chunkSizeBytes) encoded.length := by
        rw [length, Nat.succ_mul]
        omega
      rw [List.range'_succ, List.map_cons]
      refine ⟨(Nat.min_eq_left begins.le).symm, ?_, ?_⟩
      · rw [length]
        omega
      · rw [next]
        refine ih ?_ fun index below => inside index (by omega)
        rwa [Nat.add_assoc, Nat.add_comm 1]

theorem reassembles_of_stored (positive : 0 < store.chunkSizeBytes)
    (stored : ∀ entry ∈ (store.chunkedText base field encoded).2,
      files.get? entry.1 = some entry.2) :
    Reassembles store files (chunkDirectory base field) (store.chunkedText base field encoded).1
      encoded := by
  rw [chunkedText_eq] at stored ⊢
  have inside : ∀ index < 0 + chunkCount store encoded,
      index * store.chunkSizeBytes < encoded.length := by
    intro index below
    exact mem_range_chunkCount store positive (by omega)
  have enough : encoded.length ≤ (0 + chunkCount store encoded) * store.chunkSizeBytes := by
    rw [Nat.zero_add]
    exact length_le_chunkCount store positive encoded
  refine ⟨rowsOf store encoded,
    (List.range (chunkCount store encoded)).map (chunkAt store encoded), ?_⟩
  exact {
    refers := by rw [length_rowsOf]
    manifest := stored _ (List.mem_append_right _ (List.mem_singleton_self _))
    indices := by
      rw [length_rowsOf, rowsOf, List.map_map]
      exact List.map_id _
    ranges := by
      have ranges := consecutive_rows store enough inside positive
      rwa [Nat.zero_mul, Nat.zero_min, ← List.range_eq_range'] at ranges
    stored := by
      rw [rowsOf, List.forall₂_map_left_iff, List.forall₂_map_right_iff, List.forall₂_same]
      intro index member
      exact ⟨stored _ (List.mem_append_left _ (List.mem_map_of_mem member)), rfl⟩
    whole := by
      rw [List.range_eq_range', flatten_chunks store enough, Nat.zero_mul, List.drop_zero] }

theorem intercalate_concat_injective (dir : List Text) :
    Function.Injective fun name : Text => List.intercalate ['/'] (dir ++ [name]) := by
  intro left right same
  induction dir with
  | nil => simpa using same
  | cons part rest ih =>
      simp only [List.cons_append] at same
      rw [List.intercalate_cons_of_ne_nil (by simp),
        List.intercalate_cons_of_ne_nil (by simp)] at same
      exact ih (List.append_cancel_left same)

theorem json_injective (dir : List Text) : Function.Injective (ChunkRow.json store dir) := by
  rintro ⟨index, name, start, length⟩ ⟨index', name', start', length'⟩ same
  simp only [ChunkRow.json, Json.obj.injEq, List.cons.injEq, Prod.mk.injEq, Json.int.injEq,
    Json.str.injEq, Nat.cast_inj, true_and, and_true] at same
  obtain ⟨rfl, uri, rfl, rfl⟩ := same
  have joined := List.cons.inj (List.append_cancel_left uri)
  rw [intercalate_concat_injective dir joined.2]

theorem Reassembles.unique {reference' : Json}
    (left : Reassembles store files dir reference encoded)
    (right : Reassembles store files dir reference' other) : encoded = other := by
  obtain ⟨rows, contents, left⟩ := left
  obtain ⟨rows', contents', right⟩ := right
  have manifests := left.manifest.symm.trans right.manifest
  simp only [Option.some.injEq, Artifact.json.injEq, manifestOf, Json.obj.injEq, List.cons.injEq,
    Prod.mk.injEq, Json.arr.injEq, true_and, and_true] at manifests
  obtain rfl : rows = rows' := List.map_injective_iff.mpr (json_injective store dir) manifests.2.2
  have same : contents = contents' := by
    have stored := left.stored
    have stored' := right.stored
    clear left right manifests
    induction stored generalizing contents' with
    | nil =>
        cases stored'
        rfl
    | cons first _ ih =>
        obtain _ | ⟨first', rest'⟩ := stored'
        have content := first.1.symm.trans first'.1
        cases content
        exact congrArg _ (ih _ rest')
  rw [← left.whole, same, right.whole]

theorem get?_written {entries : List (ArtifactPath × Artifact)} {path : ArtifactPath}
    {value : Artifact} (member : (path, value) ∈ entries)
    (agree : ∀ entry ∈ entries, entry.1 = path → entry.2 = value) :
    (written files entries).get? path = some value := by
  unfold written
  induction entries generalizing files with
  | nil => cases member
  | cons entry rest ih =>
      rw [List.foldl_cons]
      by_cases later : (path, value) ∈ rest
      · exact ih later fun entry among => agree entry (List.mem_cons_of_mem _ among)
      · obtain rfl := (List.mem_cons.mp member).resolve_right later
        rw [get?_foldl_set]
        · exact Dict.get?_set_self _ _ _
        · intro entry among same
          have content := agree entry (List.mem_cons_of_mem _ among) same
          exact later (by rwa [← same, ← content])

theorem chunkedText_congr {field field' : List Text} (same : fieldPath field = fieldPath field') :
    store.chunkedText base field encoded = store.chunkedText base field' encoded := by
  rw [chunkedText_eq, chunkedText_eq, chunkDirectory, chunkDirectory, same]

theorem fieldPath_eq_of_path_eq {left right : List Text × List UInt8}
    {first second : ArtifactPath × Artifact}
    (of_left : first ∈ (store.chunkedText base left.1 left.2).2)
    (of_right : second ∈ (store.chunkedText base right.1 right.2).2) (same : first.1 = second.1) :
    fieldPath left.1 = fieldPath right.1 := by
  by_contra differ
  exact (chunkedText_disjoint_iff store base left right).mpr differ
    (List.mem_map_of_mem of_left) (by rw [same]; exact List.mem_map_of_mem of_right)

theorem content_eq_of_path_eq {first second : ArtifactPath × Artifact}
    (in_first : first ∈ (store.chunkedText base field encoded).2)
    (in_second : second ∈ (store.chunkedText base field encoded).2) (same : first.1 = second.1) :
    first.2 = second.2 := by
  have distinct : ((store.chunkedText base field encoded).2.map Prod.fst).Nodup := by
    rw [chunkedText_files]
    exact (chunkNames_nodup store encoded).map fun left right same => by simpa using same
  rw [List.inj_on_of_nodup_map distinct in_first in_second same]

theorem reassembles_written (positive : 0 < store.chunkSizeBytes)
    (files : Dict ArtifactPath Artifact) (base field : List Text) (encoded : List UInt8) :
    Reassembles store (written files (store.chunkedText base field encoded).2)
      (chunkDirectory base field) (store.chunkedText base field encoded).1 encoded := by
  refine reassembles_of_stored store positive fun entry member => ?_
  exact get?_written member fun second among same =>
    content_eq_of_path_eq store among member same

def afterAll (base : List Text) (payload : Json) : Dict ArtifactPath Artifact :=
  written store.files (store.chunkLargeStrings base [] payload).2

/-- All large strings of a payload reassemble after all are written. -/
def AllReassemble (base : List Text) (payload : Json) : Prop :=
  ∀ large ∈ largeStrings store [] payload,
    Reassembles store (afterAll store base payload) (chunkDirectory base large.1)
      (store.chunkedText base large.1 large.2).1 large.2

/-- Large strings with one slugged field path are equal. -/
def SharedAgree (payload : Json) : Prop :=
  ∀ left ∈ largeStrings store [] payload, ∀ right ∈ largeStrings store [] payload,
    fieldPath left.1 = fieldPath right.1 → left.2 = right.2

theorem sharedAgree_of_allReassemble {payload : Json} (all : AllReassemble store base payload) :
    SharedAgree store payload := by
  intro left of_left right of_right same
  have first := all left of_left
  have second := all right of_right
  rw [chunkDirectory, same] at first
  exact first.unique store second

theorem allReassemble_of_sharedAgree (positive : 0 < store.chunkSizeBytes) {payload : Json}
    (agreed : SharedAgree store payload) : AllReassemble store base payload := by
  intro large member
  refine reassembles_of_stored store positive fun entry of_large => ?_
  rw [afterAll, chunkLargeStrings_files]
  refine get?_written (List.mem_flatMap.mpr ⟨large, member, of_large⟩) fun second among same => ?_
  obtain ⟨writer, listed, of_writer⟩ := List.mem_flatMap.mp among
  have slugs := fieldPath_eq_of_path_eq store of_writer of_large same
  rw [chunkedText_congr store slugs, agreed writer listed large member slugs] at of_writer
  exact content_eq_of_path_eq store of_writer of_large same

/-- Every large string reassembles when it is written, and all of them do after the last one exactly
when those with one slugged field path are equal. -/
theorem chunk_files_reassemble_iff (store : JsonArtifactStore) (base : List Text) (payload : Json)
    (positive : 0 < store.chunkSizeBytes) :
    (∀ (files : Dict ArtifactPath Artifact) (field : List Text) (encoded : List UInt8),
      Reassembles store (written files (store.chunkedText base field encoded).2)
        (chunkDirectory base field) (store.chunkedText base field encoded).1 encoded) ∧
    (AllReassemble store base payload ↔ SharedAgree store payload) :=
  ⟨fun files field encoded => reassembles_written store positive files base field encoded,
    sharedAgree_of_allReassemble store, allReassemble_of_sharedAgree store positive⟩

/-- Two keys with one slug, with a string above the threshold each. -/
def twoKeys : Json :=
  .obj [("a b", .str (List.replicate 64001 'x')), ("a-b", .str (List.replicate 64001 'y'))]

theorem length_encodeUtf8_replicate {c : Char} (ascii : (String.utf8EncodeChar c).length = 1)
    (count : Nat) : (encodeUtf8 (List.replicate count c)).length = count := by
  rw [encodeUtf8, List.length_flatMap, List.map_replicate, List.sum_replicate, ascii, smul_eq_mul,
    Nat.mul_one]

theorem largeStrings_twoKeys : largeStrings .empty [] twoKeys =
    [([("a b" : Text)], encodeUtf8 (List.replicate 64001 'x')),
      ([("a-b" : Text)], encodeUtf8 (List.replicate 64001 'y'))] := by
  have above {c : Char} (ascii : (String.utf8EncodeChar c).length = 1) :
      ¬ (encodeUtf8 (List.replicate 64001 c)).length ≤ empty.chunkStringThresholdBytes := by
    rw [length_encodeUtf8_replicate ascii]
    decide
  rw [twoKeys, largeStrings, largeFields, largeFields, largeFields, largeStrings, largeStrings,
    if_neg (above rfl), if_neg (above rfl)]
  rfl

theorem chunk_files_reassemble_iff_twoKeys :
    AllReassemble .empty [] twoKeys ↔ SharedAgree .empty twoKeys :=
  (chunk_files_reassemble_iff .empty [] twoKeys (by decide)).2

/-- The strings of two keys that slug alike do not both reassemble. -/
theorem twoKeys_lose_a_string : ¬ AllReassemble .empty [] twoKeys := by
  intro all
  have agreed := sharedAgree_of_allReassemble .empty all
  rw [SharedAgree, largeStrings_twoKeys] at agreed
  have same := agreed _ List.mem_cons_self _ (List.mem_cons_of_mem _ List.mem_cons_self) (by decide)
  have bytes := congrArg List.head? same
  rw [encodeUtf8, encodeUtf8, List.replicate_succ, List.replicate_succ] at bytes
  exact absurd bytes (by decide)

end ChunkFiles

end SkillCentric
