import SkillCentric.Library.Stateful
import SkillCentric.Properties.ArtifactNames

/-!
# The profile seal

Before its first step the loop reads the sealed profile artifact back and compares its hash with the
recorded one.  The profile it executes is another copy: the one in the start result.  So the check
says what it should exactly when the two copies are both as sealed or both changed, and a profile
with a string above the chunk threshold is refused although nobody touched it.
-/

namespace SkillCentric

open RuntimeEntryPoint JsonArtifactStore

namespace Json

def sortFields (fields : List (Text × Json)) : List (Text × Json) :=
  fields.insertionSort fun left right => left.1 ≤ right.1

mutual

/-- What `json.dumps(value, sort_keys=True)` writes: the fields of every object by key. -/
def canonical : Json → Json
  | .arr items => .arr (canonicalItems items)
  | .obj fields => .obj (sortFields (canonicalFields fields))
  | value => value

def canonicalItems : List Json → List Json
  | [] => []
  | item :: rest => canonical item :: canonicalItems rest

def canonicalFields : List (Text × Json) → List (Text × Json)
  | [] => []
  | (name, value) :: rest => (name, canonical value) :: canonicalFields rest

end

/-- Equal up to the order of fields. -/
def Same (left right : Json) : Prop := left.canonical = right.canonical

instance (left right : Json) : Decidable (Same left right) :=
  inferInstanceAs (Decidable (left.canonical = right.canonical))

theorem stringsOfFields_eq_sum (fields : List (Text × Json)) :
    stringsOfFields fields = (fields.map fun field => strings field.2).sum := by
  induction fields with
  | nil => rfl
  | cons field rest ih =>
      obtain ⟨name, value⟩ := field
      rw [stringsOfFields, ih, List.map_cons, List.sum_cons]

mutual

theorem strings_canonical : (value : Json) → strings value.canonical = strings value
  | .arr items => by simp [canonical, strings, stringsOfItems_canonical items]
  | .obj fields => by
      have sorted : stringsOfFields (sortFields (canonicalFields fields)) =
          stringsOfFields (canonicalFields fields) := by
        rw [stringsOfFields_eq_sum, stringsOfFields_eq_sum]
        exact ((List.perm_insertionSort _ _).map _).sum_eq
      simp [canonical, strings, sorted, stringsOfFields_canonical fields]
  | .null | .bool _ | .int _ | .float _ | .str _ => by simp [canonical]

theorem stringsOfItems_canonical : (items : List Json) →
    stringsOfItems (canonicalItems items) = stringsOfItems items
  | [] => by simp [canonicalItems]
  | item :: rest => by
      simp [canonicalItems, stringsOfItems, strings_canonical item, stringsOfItems_canonical rest]

theorem stringsOfFields_canonical : (fields : List (Text × Json)) →
    stringsOfFields (canonicalFields fields) = stringsOfFields fields
  | [] => by simp [canonicalFields]
  | (_, value) :: rest => by
      simp [canonicalFields, stringsOfFields, strings_canonical value,
        stringsOfFields_canonical rest]

end

theorem Same.isMapping {value : Json} {fields : JsonObject} (same : value.Same (.obj fields)) :
    value.isMapping = true := by
  cases value with
  | obj _ => rfl
  | _ => simp [Same, canonical] at same

theorem same_stored_iff (store : JsonArtifactStore) (parts : List Text) (payload : Json) :
    (store.stored parts payload).Same payload ↔ store.unchunked payload = true := by
  constructor
  · intro same
    by_contra large
    have grown := store.strings_lt_stored parts (Bool.eq_false_iff.mpr large)
    have counts := congrArg strings same
    rw [strings_canonical, strings_canonical] at counts
    omega
  · intro small
    rw [store.stored_of_unchunked parts small]
    exact rfl

end Json

namespace ProfileSeal

/-- `RuntimeStartResult` as the loop gets it; the profile is a dictionary that may have been
changed since. -/
structure HandedStart where
  profile : Json
  profileArtifactUri : ArtifactPath
  profileSha256 : Text

/-- A start result that nobody changed. -/
def handed (start : RuntimeStartResult) : HandedStart :=
  ⟨start.profile.toJson, start.profileArtifactUri, start.profileSha256⟩

/-- `_assert_profile_seal`. -/
def assertProfileSeal (components : Components) (start : HandedStart) : Py Unit := do
  let stored ← Py.call (.readJson start.profileArtifactUri)
  let profile ← Py.lift stored
  Py.raiseIf (!profile.isMapping) (MinimalRuntimeLoop.loopError
    "Runtime profile artifact is not a JSON object." (some "profile_integrity_failure"))
  Py.raiseIf (components.profileSha256 profile ≠ start.profileSha256)
    (MinimalRuntimeLoop.loopError
      "Runtime profile artifact seal does not match the recorded SHA-256."
      (some "profile_integrity_failure"))

/-- The loop makes this check on the start result that it was given. -/
theorem assertProfileSeal_handed (loop : MinimalRuntimeLoop) (start : RuntimeStartResult) :
    loop.assertProfileSeal start = assertProfileSeal loop.components (handed start) := rfl

/-- The loop gets past the check. -/
def Passes (components : Components) (plane : Plane) (start : HandedStart) : Prop :=
  ((assertProfileSeal components start).run exec plane).1 = .ok ()

/-- The artifact holds the sealed profile. -/
def StoredAs (plane : Plane) (path : ArtifactPath) (sealed : Json) : Prop :=
  ∃ stored, plane.artifacts.readJson path = .ok stored ∧ stored.Same sealed

section Check

variable {components : Components} {plane : Plane} {start : HandedStart}

theorem passes_iff :
    Passes components plane start ↔
      ∃ stored, plane.artifacts.readJson start.profileArtifactUri = .ok stored ∧
        stored.isMapping = true ∧ components.profileSha256 stored = start.profileSha256 := by
  unfold Passes assertProfileSeal
  have reply : exec (.readJson start.profileArtifactUri) plane =
      (plane.artifacts.readJson start.profileArtifactUri, plane) := rfl
  simp only [Py.call, Py.lift, Program.run_bind, Program.run_op, reply, Program.run_ofExcept]
  cases plane.artifacts.readJson start.profileArtifactUri with
  | error error => simp
  | ok stored =>
      simp only [Py.raiseIf, Except.ok.injEq, exists_eq_left']
      by_cases mapping : stored.isMapping = true
      · by_cases sealed : components.profileSha256 stored = start.profileSha256
        · simp [mapping, sealed]
        · simp [mapping, sealed]
      · simp [mapping]

theorem passes_iff_storedAs {sealed : Json} (object : ∃ fields, sealed = .obj fields)
    (recorded : start.profileSha256 = components.profileSha256 sealed)
    (hash : ∀ other, components.profileSha256 other = components.profileSha256 sealed ↔
      other.Same sealed) :
    Passes components plane start ↔ StoredAs plane start.profileArtifactUri sealed := by
  rw [passes_iff, recorded]
  constructor
  · rintro ⟨stored, read, -, same⟩
    exact ⟨stored, read, (hash stored).mp same⟩
  · rintro ⟨stored, read, same⟩
    obtain ⟨fields, rfl⟩ := object
    exact ⟨stored, read, same.isMapping, (hash stored).mpr same⟩

end Check

section Start

open ArtifactNames

variable {components : Components} {plane after : Plane} {task : JsonObject}
  {context : Option JsonObject} {runId : Option Text} {generation : ProfileGeneration}
  {result : RuntimeStartResult}

theorem safeParts_cons {head : Text} (rest : List Text) (head_ne : head ≠ []) :
    safeParts (head :: rest) = slugId (removeSuffix head ".json") :: safeParts rest := by
  simp [safeParts, head_ne]

theorem relativePath_head? {head : Text} {rest : List Text} (head_ne : head ≠ [])
    (rest_ne : safeParts rest ≠ []) :
    (relativePath (head :: rest)).head? = some (slugId (removeSuffix head ".json")) := by
  obtain ⟨next, others, rest_eq⟩ := List.exists_cons_of_ne_nil rest_ne
  rw [relativePath, safeParts_cons rest head_ne, rest_eq, jsonFile]
  have last := List.getLast?_eq_some_getLast
    (l := slugId (removeSuffix head ".json") :: next :: others) (by simp)
  rw [last]
  rfl

/-- The artifacts of a run lie below `traces` and `tool-outputs`. -/
theorem directory_of_runArtifact {runId : Text} {parts : List Text}
    {tools : List (Text × Nat)} (artifact : RunArtifact runId tools parts) :
    ∃ directory rest, safeParts parts = directory :: rest ∧
      (relativePath parts).head? = some directory ∧ directory ≠ ("profiles" : Text) := by
  have below : ∀ {head : Text} {rest : List Text}, head ≠ [] → safeParts rest ≠ [] →
      slugId (removeSuffix head ".json") ≠ ("profiles" : Text) → parts = head :: rest →
      ∃ directory rest, safeParts parts = directory :: rest ∧
        (relativePath parts).head? = some directory ∧ directory ≠ ("profiles" : Text) := by
    rintro head rest head_ne rest_ne differ rfl
    exact ⟨_, _, safeParts_cons rest head_ne, relativePath_head? head_ne rest_ne, differ⟩
  have inside : ∀ {first second : List Text} {name : Text}, name ≠ [] →
      safeParts (first ++ name :: second) ≠ [] := by
    intro first second name name_ne
    rw [safeParts_append, safeParts_cons second name_ne]
    simp
  rcases artifact with ⟨event, slot, parts_eq⟩ | ⟨checkpoint, parts_eq⟩ |
    ⟨tool, -, port, parts_eq⟩ | ⟨validator, parts_eq⟩
  · exact below (by decide) (@inside [runId] _ ("events" : Text) (by decide)) (by decide) parts_eq
  · exact below (by decide) (@inside [runId] _ ("checkpoints" : Text) (by decide)) (by decide)
      parts_eq
  · exact below (by decide) (@inside [runId] [] _ (by simp)) (by decide) parts_eq
  · exact below (by decide) (@inside [runId] _ ("validation" : Text) (by decide)) (by decide)
      parts_eq

theorem readJson_of_names {α : Type} {program : Py α} {runId : Text} {tools : List (Text × Nat)}
    (names : program.Performs (Named runId tools)) {path : ArtifactPath}
    (profile : path.head? = some ("profiles" : Text)) (plane : Plane) :
    (program.run exec plane).2.artifacts.readJson path = plane.artifacts.readJson path := by
  refine names.run_invariant (fun later =>
    later.artifacts.readJson path = plane.artifacts.readJson path) ?_ rfl
  intro op state named kept
  rw [← kept]
  by_cases writes : ∃ parts payload, op = .writeJson parts payload
  · obtain ⟨parts, payload, rfl⟩ := writes
    obtain ⟨directory, rest, parts_eq, head, differ⟩ := directory_of_runArtifact named
    refine state.artifacts.readJson_writeJson_of_ne parts payload ?_ ?_
    · rintro rfl
      exact differ (Option.some.inj (head.symm.trans profile))
    · rw [parts_eq]
      rintro ⟨tail, rfl⟩
      exact differ (Option.some.inj profile)
  · rw [exec_artifacts]
    intro parts payload same
    exact writes ⟨parts, payload, same⟩

theorem recordStart_names (components : Components) (task : JsonObject) (prepared : Prepared)
    (start : RuntimeStartResult) :
    (recordStart components task prepared start).Performs (Named start.runId []) := by
  unfold recordStart
  refine performs_bind (recordEvent_names rfl) fun _ => ?_
  refine performs_bind (recordEvent_names rfl) fun _ => ?_
  refine performs_bind (recordEvent_names rfl) fun _ => ?_
  refine performs_bind (recordEvent_names rfl) fun _ => ?_
  refine performs_bind (checkpoint_names _) fun _ => ?_
  exact performs_bind (recordEvent_names rfl) fun _ => performs_pure

theorem except_bind_ok {ε α β : Type} {first : Except ε α} {next : α → Except ε β} {result : β}
    (returned : (first >>= next) = .ok result) :
    ∃ value, first = .ok value ∧ next value = .ok result := by
  cases first with
  | error error => cases returned
  | ok value => exact ⟨value, rfl, returned⟩

theorem prepare_profile_id {prepared : Prepared}
    (prepares : prepare components task context generation = .ok prepared) :
    prepared.profile.id ≠ [] := by
  obtain ⟨-, -, prepares⟩ := except_bind_ok prepares
  obtain ⟨analyzed, -, prepares⟩ := except_bind_ok prepares
  obtain ⟨response, -, prepares⟩ := except_bind_ok prepares
  obtain ⟨-, -, prepares⟩ := except_bind_ok prepares
  obtain ⟨profile, composes, prepares⟩ := except_bind_ok prepares
  obtain ⟨composition, -, composes⟩ := except_bind_ok composes
  have profile_eq := Except.ok.inj composes
  have prepared_eq := Except.ok.inj prepares
  rw [← prepared_eq, ← profile_eq]
  intro empty
  simp only [profileId] at empty
  split at empty
  · simp at empty
  · simp at empty

theorem start_seals
    (started : (start components task context runId generation).run exec plane =
      (.ok result, after)) :
    result.profileSha256 = components.profileSha256 result.profile.toJson ∧
      ∃ parts, after.artifacts.readJson result.profileArtifactUri =
        .ok (plane.artifacts.stored parts result.profile.toJson) := by
  obtain ⟨prepared, middle, lifted, started⟩ := Program.run_bind_ok exec started
  obtain ⟨prepares, same_plane⟩ := Prod.mk.inj lifted
  subst same_plane
  have id_ne := prepare_profile_id prepares
  obtain ⟨uri, sealed, written, started⟩ := Program.run_bind_ok exec started
  obtain ⟨uri_ok, sealed_eq⟩ := Prod.mk.inj written
  have uri_eq := Except.ok.inj uri_ok
  obtain ⟨run, begun, run_started, started⟩ := Program.run_bind_ok exec started
  have begun_artifacts : begun.artifacts = sealed.artifacts :=
    (congrArg (fun ran => ran.2.artifacts) run_started).symm
  obtain ⟨_, recorded, ran, returned⟩ := Program.run_bind_ok exec started
  obtain ⟨result_ok, after_eq⟩ := Prod.mk.inj returned
  have result_eq := Except.ok.inj result_ok
  have path_eq : relativePath (profileParts prepared.profile
      (components.profileSha256 prepared.profile.toJson)) = uri := uri_eq
  have profile_path : List.head? (α := Text) uri = some ("profiles" : Text) := by
    rw [← path_eq]
    refine relativePath_head? (by decide) ?_
    rw [safeParts_cons _ id_ne]
    simp
  subst result_eq after_eq
  refine ⟨rfl, profileParts prepared.profile (components.profileSha256 prepared.profile.toJson), ?_⟩
  have kept := readJson_of_names (recordStart_names components task prepared
    ⟨run.id, prepared.analyzed.taskId, prepared.profile, uri,
      components.profileSha256 prepared.profile.toJson⟩) profile_path begun
  rw [ran] at kept
  refine kept.trans ?_
  have written_artifacts : ∀ parts payload, (exec (.writeJson parts payload) plane).2.artifacts =
      (plane.artifacts.writeJson parts payload).2 := fun _ _ => rfl
  rw [begun_artifacts, ← sealed_eq, ← path_eq, written_artifacts,
    plane.artifacts.readJson_writeJson]

/-- The check of the seal says whether the executed profile is the sealed one exactly when the
artifact and the executed profile are both as sealed or both changed; nobody having touched
anything, it passes exactly when no string of the profile was moved. -/
theorem profile_seal
    (started : (start components task context runId generation).run exec plane =
      (.ok result, after))
    (hash : ∀ other, components.profileSha256 other =
      components.profileSha256 result.profile.toJson ↔ other.Same result.profile.toJson) :
    (∀ (later : Plane) (executed : Json),
      (Passes components later { handed result with profile := executed } ↔
          executed.Same result.profile.toJson) ↔
        (StoredAs later result.profileArtifactUri result.profile.toJson ↔
          executed.Same result.profile.toJson)) ∧
      (Passes components after (handed result) ↔
        plane.artifacts.unchunked result.profile.toJson = true) := by
  obtain ⟨recorded, parts, stored⟩ := start_seals started
  have object : ∃ fields, result.profile.toJson = .obj fields := ⟨_, rfl⟩
  constructor
  · intro later executed
    rw [passes_iff_storedAs object recorded hash]
    rfl
  · rw [passes_iff_storedAs object recorded hash, ← Json.same_stored_iff _ parts]
    constructor
    · rintro ⟨found, read, same⟩
      have found_eq := Except.ok.inj (stored.symm.trans read)
      rwa [found_eq]
    · intro same
      exact ⟨_, stored, same⟩

end Start

/-- The profile composed for a task. -/
def sampleProfile : RuntimeProfile where
  id := profileId "task-a" 1
  profileVersion := "0.6.0"
  profileGeneration := 1
  parentProfileId := none
  recompositionReason := none
  tenantId := "tenant-a"
  areaId := "tenant-a"
  composition := ⟨false, [], []⟩

/-- Collaborators whose hash tells the sample profile from every other. -/
def sealing : Components :=
  { Sample.components with
    profileSha256 := fun profile =>
      if profile.Same sampleProfile.toJson then "5ea1ed" else "07e4" }

def planeWith (threshold : Nat) : Plane :=
  ⟨Sample.clock, .empty, { JsonArtifactStore.empty with chunkStringThresholdBytes := threshold }⟩

/-- The start of the task. -/
def sampleStart (threshold : Nat) : Except PyError RuntimeStartResult × Plane :=
  (start sealing (Sample.task "task-a" "tenant-a")
    (some (Sample.authorized "tenant-a")) none {}).run
    exec (planeWith threshold)

private theorem eq_of_isOk {ε α σ : Type} {ran : Except ε α × σ} (default : α)
    (returned : ran.1.isOk = true) :
    ran = (.ok (ran.1.toOption.getD default), ran.2) :=
  Prod.ext (Stateful.eq_ok_of_isOk default returned) rfl

/-- What the start returns. -/
def sampleResult (threshold : Nat) : RuntimeStartResult :=
  (sampleStart threshold).1.toOption.getD ⟨[], [], sampleProfile, [], []⟩

theorem sampleStart_eq (threshold : Nat) (returned : (sampleStart threshold).1.isOk = true) :
    (start sealing (Sample.task "task-a" "tenant-a") (some (Sample.authorized "tenant-a")) none
      {}).run exec (planeWith threshold) =
        (.ok (sampleResult threshold), (sampleStart threshold).2) :=
  eq_of_isOk _ returned

theorem sealing_hash {sealed : Json} (same : sealed = sampleProfile.toJson) (other : Json) :
    sealing.profileSha256 other = sealing.profileSha256 sealed ↔ other.Same sealed := by
  subst same
  have itself : sampleProfile.toJson.Same sampleProfile.toJson := rfl
  simp only [sealing, if_pos itself]
  by_cases sealed : other.Same sampleProfile.toJson
  · simp [sealed]
  · simp [sealed]

theorem sample_started : (sampleStart 64000).1.isOk = true ∧
    (sampleResult 64000).profile.toJson = sampleProfile.toJson := by
  decide +kernel

theorem profile_seal_untouched :
    Passes sealing (sampleStart 64000).2 (handed (sampleResult 64000)) :=
  (profile_seal (sampleStart_eq 64000 sample_started.1)
    (sealing_hash sample_started.2)).2.mpr (by decide +kernel)

/-- An in-memory profile that was emptied is executed under an intact artifact, and an untouched
profile with a string above the threshold is refused. -/
theorem seal_misses_executed_profile :
    (¬∀ (components : Components) (task : JsonObject) (context : Option JsonObject)
      (runId : Option Text) (generation : ProfileGeneration) (plane after : Plane)
      (result : RuntimeStartResult),
      (start components task context runId generation).run exec plane = (.ok result, after) →
      (∀ other, components.profileSha256 other = components.profileSha256 result.profile.toJson ↔
        other.Same result.profile.toJson) →
      ∀ (later : Plane) (executed : Json),
        Passes components later { handed result with profile := executed } ↔
          executed.Same result.profile.toJson) ∧
    ¬Passes sealing (sampleStart 16).2 (handed (sampleResult 16)) := by
  constructor
  · intro checks
    have claim := checks sealing _ _ _ _ _ _ _ (sampleStart_eq 64000 sample_started.1)
      (sealing_hash sample_started.2) (sampleStart 64000).2 (.obj [])
    have passes : Passes sealing (sampleStart 64000).2
        { handed (sampleResult 64000) with profile := .obj [] } := by
      unfold Passes
      decide +kernel
    exact absurd (claim.mp passes) (by decide +kernel)
  · unfold Passes
    decide +kernel

end ProfileSeal

end SkillCentric
