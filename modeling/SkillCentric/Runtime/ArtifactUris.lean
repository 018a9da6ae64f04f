import SkillCentric.Runtime.Artifacts
import SkillCentric.Runtime.SlugFixpoints

/-!
# Artifact URIs

`write_json` answers with a URI, and `read_json` turns a URI back into a file below the artifact
root.  The URI of a written artifact leads to the file it was written to.
-/

namespace SkillCentric

open Slug

/-- `Path(text).parts`, without the anchor of an absolute path. -/
def pathParts (text : Text) : List Text :=
  (text.splitOn '/').filter fun part => part ≠ [] ∧ part ≠ ("." : Text)

/-- `Path.resolve` where no part is a symbolic link. -/
def resolve (parts : List Text) : List Text :=
  parts.foldl (fun done part => if part = (".." : Text) then done.dropLast else done ++ [part]) []

namespace JsonArtifactStore

variable (store : JsonArtifactStore)

/-- `write_json(parts, payload, redact=False)`, with its errors: an empty path has no file name,
and chunks of no size cannot be cut. -/
def writeJsonUri (parts : List Text) (payload : Json) : Except PyError Text × JsonArtifactStore :=
  if safeParts parts = [] then
    (.error ⟨.valueError, "PosixPath('.') has an empty name", none⟩, store)
  else if store.chunkSizeBytes = 0 ∧ store.unchunked payload = false then
    (.error ⟨.valueError, "range() arg 3 must not be zero", none⟩, store)
  else
    let (path, after) := store.writeJson parts payload
    (.ok (store.uriText path), after)

/-- `read_json(uri)`, below the artifact root `root`. -/
def readJsonUri (root : List Text) (uri : Text) : Except PyError Json :=
  let lead := store.uriPrefix ++ ['/']
  if startsWith uri lead then
    let relative := uri.drop lead.length
    let parts := pathParts relative
    let target := resolve (if relative.head? = some '/' then parts else root ++ parts)
    if resolve root <+: target then store.readJson (target.drop (resolve root).length)
    else .error ⟨.valueError, "Artifact URI escapes the artifact root.", none⟩
  else .error ⟨.valueError, "Artifact URI is outside this store.", none⟩

end JsonArtifactStore

/-- A part that is one part of a path again when it is written into a URI. -/
def PlainPart (part : Text) : Prop :=
  part ≠ [] ∧ '/' ∉ part ∧ part ≠ ("." : Text) ∧ part ≠ (".." : Text)

theorem pathParts_intercalate {path : List Text} (plain : ∀ part ∈ path, PlainPart part) :
    pathParts (List.intercalate ['/'] path) = path := by
  by_cases path_ne : path = []
  · subst path_ne
    rfl
  · unfold pathParts
    rw [List.splitOn_intercalate '/' (fun part member => (plain part member).2.1) path_ne]
    refine List.filter_eq_self.mpr fun part member => ?_
    obtain ⟨part_ne, -, dot_ne, -⟩ := plain part member
    exact decide_eq_true ⟨part_ne, dot_ne⟩

theorem resolve_append {root path : List Text} (plain : ∀ part ∈ path, PlainPart part) :
    resolve (root ++ path) = resolve root ++ path := by
  unfold resolve
  rw [List.foldl_append]
  generalize List.foldl _ [] root = done
  induction path generalizing done with
  | nil => simp
  | cons part rest ih =>
      have part_plain := plain part (by simp)
      rw [List.foldl_cons, if_neg part_plain.2.2.2,
        ih (fun other member => plain other (by simp [member]))]
      simp

theorem intercalate_head? {path : List Text} (plain : ∀ part ∈ path, PlainPart part) :
    (List.intercalate ['/'] path).head? ≠ some '/' := by
  cases path with
  | nil => simp
  | cons part rest =>
      obtain ⟨part_ne, slash, -, -⟩ := plain part (by simp)
      cases part with
      | nil => exact (part_ne rfl).elim
      | cons c part =>
          have first_ne : c ≠ '/' := fun equal => slash (by simp [equal])
          cases rest <;> simpa [List.intercalate, List.intersperse] using first_ne

namespace JsonArtifactStore

variable {store : JsonArtifactStore}

theorem readJsonUri_uriText (root : List Text) {path : ArtifactPath}
    (plain : ∀ part ∈ path, PlainPart part) :
    store.readJsonUri root (store.uriText path) = store.readJson path := by
  have uri_eq : store.uriText path =
      (store.uriPrefix ++ ['/']) ++ List.intercalate ['/'] path := by
    simp [uriText]
  have starts : startsWith (store.uriText path) (store.uriPrefix ++ ['/']) = true := by
    rw [uri_eq, startsWith_iff]
    exact List.prefix_append _ _
  simp only [readJsonUri]
  rw [if_pos starts, uri_eq, List.drop_left, pathParts_intercalate plain,
    if_neg (intercalate_head? plain), resolve_append plain, if_pos (List.prefix_append _ _),
    List.drop_left]

end JsonArtifactStore

theorem plainPart_slugId (value : Text) {ending : Text} (ending_chars : '/' ∉ ending) :
    PlainPart (slugId value ++ ending) := by
  have slug_ne : slugId value ≠ [] := slugId_ne_nil value (.inl rfl)
  have slash := slash_notMem_slugId value (.inl rfl)
  obtain ⟨c, rest, slug_eq⟩ := List.exists_cons_of_ne_nil slug_ne
  have first_ne : c ≠ '.' := by
    rintro rfl
    exact dot_notMem_slugId value (.inl rfl) (by simp [slug_eq])
  refine ⟨by simp [slug_ne], by simp [slash, ending_chars], ?_, ?_⟩
  · intro equal
    rw [slug_eq] at equal
    exact first_ne (List.cons.inj equal).1
  · intro equal
    rw [slug_eq] at equal
    exact first_ne (List.cons.inj equal).1

theorem plainPart_relativePath (parts : List Text) :
    ∀ part ∈ relativePath parts, PlainPart part := by
  have slugs : ∀ part ∈ safeParts parts, ∃ value, part = slugId value := by
    intro part member
    obtain ⟨raw, -, rfl⟩ := List.mem_map.mp member
    exact ⟨_, rfl⟩
  intro part member
  unfold relativePath jsonFile at member
  cases last : (safeParts parts).getLast? with
  | none => simp [last] at member
  | some filename =>
      simp only [last, List.mem_append, List.mem_singleton] at member
      rcases member with directory | rfl
      · obtain ⟨value, rfl⟩ := slugs part (List.mem_of_mem_dropLast directory)
        simpa using plainPart_slugId value (List.not_mem_nil (a := '/'))
      · obtain ⟨value, rfl⟩ := slugs filename (List.mem_of_getLast? last)
        exact plainPart_slugId value (by decide)

end SkillCentric
