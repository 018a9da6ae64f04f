import SkillCentric.Properties.ArtifactRoundTrip
import SkillCentric.Runtime.Footprints
import SkillCentric.Runtime.RunNames

/-!
# Names of the artifacts of a run

Every artifact of a run is written to a file named after it, and every record gets an identifier.
Names are slugs, cut to 96 characters: while no name is cut, they are pairwise distinct exactly when
no two validators slug alike, and the chunk files of a payload exactly when no two of its fields do.
-/

namespace SkillCentric

open Slug Datetime FlightRecorder JsonArtifactStore

namespace ArtifactNames

/-- The three payloads of an event. -/
inductive Slot where
  | planned
  | execution
  | result
  deriving DecidableEq, Repr

/-- The slot as it stands in the file name. -/
def Slot.text : Slot → Text
  | .planned => "planned"
  | .execution => "execution"
  | .result => "result"

/-- The slots of an event. -/
def Slot.all : List Slot := [.planned, .execution, .result]

/-- The two payloads of a tool invocation. -/
inductive Port where
  | input
  | output
  deriving DecidableEq, Repr

/-- The port as it stands in the file name. -/
def Port.text : Port → Text
  | .input => "input"
  | .output => "output"

def eventId (runId : Text) (event : RuntimeEventType × Nat) : Text :=
  slugId (runId ++ '-' :: event.1.text ++ '-' :: decimal event.2) "event"

def checkpointId (runId : Text) (checkpoint : RuntimePhase × Nat) : Text :=
  slugId (runId ++ '-' :: checkpoint.1.text ++ '-' :: decimal checkpoint.2) "checkpoint"

def stepId (runId : Text) (step : RuntimeStepKind × Nat) : Text :=
  slugId (runId ++ '-' :: step.1.text ++ '-' :: decimal step.2) "step"

def toolId (runId : Text) (tool : Text × Nat) : Text :=
  slugId (runId ++ '-' :: tool.1 ++ '-' :: decimal tool.2) "tool"

def validationId (runId validatorId : Text) : Text :=
  slugId (runId ++ '-' :: validatorId) "validation"

def toolParts (runId : Text) (tool : Text × Nat) (port : Port) : List Text :=
  ["tool_outputs", runId, toolId runId tool ++ '-' :: port.text]

def findingsParts (runId validatorId : Text) : List Text :=
  ["traces", runId, "validation", validatorId]

/-- What a run records, each list in the order of its index. -/
structure RunRecord where
  runId : Text
  events : List RuntimeEventType
  checkpoints : List RuntimePhase
  steps : List RuntimeStepKind
  tools : List Text
  validators : List Text

namespace RunRecord

variable (record : RunRecord)

def eventFiles : List ArtifactPath :=
  record.events.zipIdx.flatMap fun event => Slot.all.map fun slot =>
    relativePath (eventPayloadParts record.runId event.2 event.1 slot.text)

def checkpointFiles : List ArtifactPath :=
  record.checkpoints.zipIdx.map fun checkpoint =>
    relativePath (checkpointParts record.runId checkpoint.2 checkpoint.1)

def toolFiles : List ArtifactPath :=
  record.tools.zipIdx.flatMap fun tool => [Port.input, Port.output].map fun port =>
    relativePath (toolParts record.runId tool port)

def findingsFiles : List ArtifactPath :=
  record.validators.map fun validatorId => relativePath (findingsParts record.runId validatorId)

/-- The files of the run. -/
def files : List ArtifactPath :=
  record.eventFiles ++ record.checkpointFiles ++ record.toolFiles ++ record.findingsFiles

/-- The identifiers of the records of the run. -/
def ids : List Text :=
  record.events.zipIdx.map (eventId record.runId) ++
    record.checkpoints.zipIdx.map (checkpointId record.runId) ++
    record.steps.zipIdx.map (stepId record.runId) ++
      record.tools.zipIdx.map (toolId record.runId) ++
    record.validators.map (validationId record.runId)

/-- No name of the run is cut. -/
structure Uncut : Prop where
  eventFiles : ∀ event ∈ record.events.zipIdx, ∀ slot : Slot,
    (slugStem (padded 3 event.2 ++ '-' :: event.1.text ++ '-' :: slot.text) []).length ≤ 96
  checkpointFiles : ∀ checkpoint ∈ record.checkpoints.zipIdx,
    (slugStem (padded 3 checkpoint.2 ++ '-' :: checkpoint.1.text) []).length ≤ 96
  eventIds : ∀ event ∈ record.events.zipIdx,
    (slugStem (record.runId ++ '-' :: event.1.text ++ '-' :: decimal event.2) "event").length ≤ 96
  checkpointIds : ∀ checkpoint ∈ record.checkpoints.zipIdx,
    (slugStem (record.runId ++ '-' :: checkpoint.1.text ++ '-' :: decimal checkpoint.2)
      "checkpoint").length ≤ 96
  stepIds : ∀ step ∈ record.steps.zipIdx,
    (slugStem (record.runId ++ '-' :: step.1.text ++ '-' :: decimal step.2) "step").length ≤ 96
  /-- The identifier of an invocation leaves room for `-output`. -/
  toolIds : ∀ tool ∈ record.tools.zipIdx,
    (slugStem (record.runId ++ '-' :: tool.1 ++ '-' :: decimal tool.2) "tool").length ≤ 89
  validationIds : ∀ validatorId ∈ record.validators,
    (slugStem (record.runId ++ '-' :: validatorId) "validation").length ≤ 96

/-- No two validators of the run slug alike. -/
structure Apart : Prop where
  ids : (record.validators.map fun validatorId =>
    slugStem (record.runId ++ '-' :: validatorId) "validation").Nodup
  files : ((record.validators.filter (· ≠ [])).map fun validatorId =>
    slugId (removeSuffix validatorId ".json")).Nodup

end RunRecord

section Files

variable {runId : Text}

theorem safeParts_append (left right : List Text) :
    safeParts (left ++ right) = safeParts left ++ safeParts right := by
  simp [safeParts, List.filter_append]

variable {name : Text}

theorem relativePath_append (directories : List Text) (name_ne : name ≠ []) :
    relativePath (directories ++ [name]) =
      safeParts directories ++ [slugId (removeSuffix name ".json") ++ (".json" : Text)] := by
  have parts : safeParts (directories ++ [name]) =
      safeParts directories ++ [slugId (removeSuffix name ".json")] := by
    simp [safeParts, List.filter_append, name_ne]
  rw [relativePath, parts, jsonFile]
  simp

theorem removeSuffix_of_undotted {value : Text} (undotted : '.' ∉ value) :
    removeSuffix value ".json" = value := by
  unfold removeSuffix
  rw [if_neg]
  intro ends
  exact undotted ((List.isSuffixOf_iff_suffix.mp ends).mem (by decide))

variable {left right : Text} {path : ArtifactPath}

theorem name_of_relativePath {directories : List Text} (left_ne : left ≠ []) (right_ne : right ≠ [])
    (same : relativePath (directories ++ [left]) = relativePath (directories ++ [right])) :
    slugId (removeSuffix left ".json") = slugId (removeSuffix right ".json") := by
  rw [relativePath_append directories left_ne, relativePath_append directories right_ne] at same
  have last := List.append_cancel_left same
  exact List.append_cancel_right (List.cons.inj last).1

theorem eventType_text (eventType : RuntimeEventType) :
    '.' ∉ eventType.text ∧ normal eventType.text ≠ [] := by
  cases eventType <;> decide

theorem phase_text (phase : RuntimePhase) : '.' ∉ phase.text ∧ normal phase.text ≠ [] := by
  cases phase <;> decide

theorem slot_isWord (slot : Slot) : IsWord slot.text := by
  cases slot <;> decide

theorem dot_notMem_of_isWord {word : Text} (is_word : IsWord word) : '.' ∉ word := by
  intro member
  exact absurd (is_word.2 '.' member) (by decide)

theorem nodup_map_zipIdx {α β : Type} {list : List α} {f : α × Nat → β}
    (inj : ∀ left ∈ list.zipIdx, ∀ right ∈ list.zipIdx, f left = f right → left.2 = right.2) :
    (list.zipIdx.map f).Nodup := by
  have positions : list.zipIdx.Nodup := by
    refine List.Nodup.of_map Prod.snd ?_
    rw [List.zipIdx_map_snd]
    exact List.nodup_range'
  refine List.Nodup.map_on (fun left left_mem right right_mem same => ?_) positions
  have index := inj left left_mem right right_mem same
  have left_at := List.mem_zipIdx_iff_getElem?.mp left_mem
  have right_at := List.mem_zipIdx_iff_getElem?.mp right_mem
  rw [index, right_at, Option.some.injEq] at left_at
  exact Prod.ext left_at.symm index

theorem nodup_flatMap_zipIdx {α β π : Type} {list : List α} {ports : List π} {f : α × Nat → π → β}
    (ports_nodup : ports.Nodup)
    (inj : ∀ left ∈ list.zipIdx, ∀ right ∈ list.zipIdx, ∀ port other,
      f left port = f right other → left.2 = right.2)
    (port_inj : ∀ position ∈ list.zipIdx, ∀ port other,
      f position port = f position other → port = other) :
    (list.zipIdx.flatMap fun position => ports.map (f position)).Nodup := by
  rw [List.nodup_flatMap]
  constructor
  · intro position member
    exact ports_nodup.map_on fun port _ other _ same => port_inj position member port other same
  · have positions : list.zipIdx.Nodup := by
      rw [← List.map_id list.zipIdx]
      exact nodup_map_zipIdx fun left _ right _ same => congrArg Prod.snd same
    refine positions.pairwise_of_forall_ne fun left left_mem right right_mem differ => ?_
    intro path in_left in_right
    obtain ⟨port, -, rfl⟩ := List.mem_map.mp in_left
    obtain ⟨other, -, same⟩ := List.mem_map.mp in_right
    have index := inj right right_mem left left_mem other port same
    have left_at := List.mem_zipIdx_iff_getElem?.mp left_mem
    have right_at := List.mem_zipIdx_iff_getElem?.mp right_mem
    rw [index, left_at, Option.some.injEq] at right_at
    exact differ (Prod.ext right_at index.symm)

theorem normal_eventSlot (eventType : RuntimeEventType) (slot : Slot) :
    normal (eventType.text ++ '-' :: slot.text) = normal eventType.text ++ '-' :: slot.text := by
  have slot_word := slot_isWord slot
  rw [normal_append (eventType_text eventType).2, normal_of_word slot_word]
  rw [normal_of_word slot_word]
  exact slot_word.1

theorem eventName_undotted (event : RuntimeEventType × Nat) (slot : Slot) :
    '.' ∉ padded 3 event.2 ++ '-' :: event.1.text ++ '-' :: slot.text := by
  have number := dot_notMem_of_isWord (padded_isWord 3 event.2)
  have slot_free := dot_notMem_of_isWord (slot_isWord slot)
  simp [number, slot_free, (eventType_text event.1).1]

theorem checkpointName_undotted (checkpoint : RuntimePhase × Nat) :
    '.' ∉ padded 3 checkpoint.2 ++ '-' :: checkpoint.1.text := by
  have number := dot_notMem_of_isWord (padded_isWord 3 checkpoint.2)
  simp [number, (phase_text checkpoint.1).1]

variable {record : RunRecord}

theorem eventName_inj (uncut : record.Uncut) {left right : RuntimeEventType × Nat}
    (left_mem : left ∈ record.events.zipIdx) (right_mem : right ∈ record.events.zipIdx)
    {slot other : Slot}
    (same : relativePath (eventPayloadParts record.runId left.2 left.1 slot.text) =
      relativePath (eventPayloadParts record.runId right.2 right.1 other.text)) :
    left.2 = right.2 ∧
      normal (left.1.text ++ '-' :: slot.text) = normal (right.1.text ++ '-' :: other.text) := by
  have names := @name_of_relativePath _ _ [("traces" : Text), record.runId, ("events" : Text)]
    (by simp) (by simp) same
  rw [removeSuffix_of_undotted (eventName_undotted left slot),
    removeSuffix_of_undotted (eventName_undotted right other)] at names
  have left_fits := uncut.eventFiles left left_mem slot
  have right_fits := uncut.eventFiles right right_mem other
  rw [List.append_assoc, List.cons_append] at left_fits right_fits
  rw [List.append_assoc, List.cons_append, List.append_assoc, List.cons_append] at names
  exact slugId_padded_inj (by rw [normal_eventSlot]; simp) (by rw [normal_eventSlot]; simp)
    left_fits right_fits names

theorem eventFiles_nodup (uncut : record.Uncut) : record.eventFiles.Nodup := by
  refine nodup_flatMap_zipIdx (by decide) ?_ ?_
  · intro left left_mem right right_mem slot other same
    exact (eventName_inj uncut left_mem right_mem same).1
  · intro event member slot other same
    have words := (eventName_inj uncut member member same).2
    rw [normal_eventSlot, normal_eventSlot] at words
    have texts := (List.cons.inj (List.append_cancel_left words)).2
    revert texts
    cases slot <;> cases other <;> decide

theorem checkpointFiles_nodup (uncut : record.Uncut) : record.checkpointFiles.Nodup := by
  refine nodup_map_zipIdx fun left left_mem right right_mem same => ?_
  have names := @name_of_relativePath _ _ [("traces" : Text), record.runId, ("checkpoints" : Text)]
    (by simp) (by simp) same
  rw [removeSuffix_of_undotted (checkpointName_undotted left),
    removeSuffix_of_undotted (checkpointName_undotted right)] at names
  exact (slugId_padded_inj (phase_text left.1).2 (phase_text right.1).2
    (uncut.checkpointFiles left left_mem) (uncut.checkpointFiles right right_mem) names).1

theorem findingsFile_empty : relativePath (findingsParts runId []) =
    safeParts [("traces" : Text), runId] ++ [("validation.json" : Text)] := by
  have named := relativePath_append [("traces" : Text), runId]
    (show ("validation" : Text) ≠ [] by decide)
  have whole : slugId (removeSuffix ("validation" : Text) ".json") ++ (".json" : Text) =
      ("validation.json" : Text) := by decide
  rw [whole] at named
  rw [← named, relativePath, relativePath]
  simp [safeParts, findingsParts, List.filter_cons]

theorem findingsFile_of_ne {validatorId : Text} (named : validatorId ≠ []) :
    relativePath (findingsParts runId validatorId) =
      safeParts [("traces" : Text), runId, ("validation" : Text)] ++
        [slugId (removeSuffix validatorId ".json") ++ (".json" : Text)] :=
  relativePath_append [("traces" : Text), runId, ("validation" : Text)] named

theorem findingsFile_eq_iff :
    relativePath (findingsParts runId left) = relativePath (findingsParts runId right) ↔
      (left = [] ↔ right = []) ∧ (left ≠ [] →
        slugId (removeSuffix left ".json") = slugId (removeSuffix right ".json")) := by
  have lengths : ∀ name : Text,
      safeParts [("traces" : Text), runId] ++ [("validation.json" : Text)] ≠
        safeParts [("traces" : Text), runId, ("validation" : Text)] ++ [name] := by
    intro name same
    have lengths := congrArg List.length same
    have one := congrArg List.length
      (safeParts_append [("traces" : Text), runId] [("validation" : Text)])
    simp only [List.length_append, List.length_singleton, List.cons_append, List.nil_append]
      at lengths one
    have single : (safeParts [("validation" : Text)]).length = 1 := by decide
    omega
  by_cases left_ne : left = [] <;> by_cases right_ne : right = []
  · simp [left_ne, right_ne]
  · subst left_ne
    rw [findingsFile_empty, findingsFile_of_ne right_ne]
    exact ⟨fun same => absurd same (lengths _), fun both => absurd (both.1.mp rfl) right_ne⟩
  · subst right_ne
    rw [findingsFile_empty, findingsFile_of_ne left_ne]
    exact ⟨fun same => absurd same.symm (lengths _), fun both => absurd (both.1.mpr rfl) left_ne⟩
  · rw [findingsFile_of_ne left_ne, findingsFile_of_ne right_ne]
    simp [left_ne, right_ne]

theorem findingsFiles_nodup (apart : record.Apart) : record.findingsFiles.Nodup := by
  have ids := List.pairwise_map.mp apart.ids
  have files := List.pairwise_filter.mp (List.pairwise_map.mp apart.files)
  refine List.pairwise_map.mpr ((ids.and files).imp ?_)
  rintro left right ⟨ids_differ, files_differ⟩ same
  obtain ⟨both, slugs⟩ := findingsFile_eq_iff.mp same
  by_cases left_ne : left = []
  · exact ids_differ (by rw [left_ne, both.mp left_ne])
  · have right_ne : right ≠ [] := fun empty => left_ne (both.mpr empty)
    exact files_differ (by simpa using left_ne) (by simpa using right_ne) (slugs left_ne)

theorem apart_files (nodup : record.findingsFiles.Nodup) :
    ((record.validators.filter (· ≠ [])).map fun validatorId =>
      slugId (removeSuffix validatorId ".json")).Nodup := by
  refine List.pairwise_map.mpr (List.pairwise_filter.mpr ((List.pairwise_map.mp nodup).imp ?_))
  intro left right differ left_ne right_ne same
  have left_ne : left ≠ [] := by simpa using left_ne
  have right_ne : right ≠ [] := by simpa using right_ne
  exact differ (findingsFile_eq_iff.mpr ⟨by simp [left_ne, right_ne], fun _ => same⟩)

theorem port_isWord (port : Port) : IsWord port.text := by
  cases port <;> decide

theorem toolId_inj (uncut : record.Uncut) {left right : Text × Nat}
    (left_mem : left ∈ record.tools.zipIdx) (right_mem : right ∈ record.tools.zipIdx)
    (same : toolId record.runId left = toolId record.runId right) : left.2 = right.2 := by
  have left_fits := uncut.toolIds left left_mem
  have right_fits := uncut.toolIds right right_mem
  exact decimal_injective (slugId_word_inj (decimal_isWord left.2) (decimal_isWord right.2)
    (by decide) (by omega) (by omega) same)

theorem slugId_toolName (uncut : record.Uncut) {tool : Text × Nat}
    (member : tool ∈ record.tools.zipIdx) (port : Port) :
    slugId (removeSuffix (toolId record.runId tool ++ '-' :: port.text) ".json") =
      toolId record.runId tool ++ '-' :: port.text := by
  have tool_word : IsWord ("tool" : Text) := by decide
  have undotted : '.' ∉ toolId record.runId tool ++ '-' :: port.text := by
    have id_free : '.' ∉ toolId record.runId tool := dot_notMem_slugId _ (.inr tool_word)
    have port_free := dot_notMem_of_isWord (port_isWord port)
    simp [id_free, port_free]
  rw [removeSuffix_of_undotted undotted]
  refine slugId_slugId_word _ tool_word rfl (by decide) (port_isWord port) ?_
  have stem_fits := uncut.toolIds tool member
  have port_fits : port.text.length ≤ 6 := by cases port <;> decide
  rw [slugId_eq_stem (.inr tool_word) (by omega)]
  omega

theorem toolFiles_nodup (uncut : record.Uncut) : record.toolFiles.Nodup := by
  have split : ∀ left ∈ record.tools.zipIdx, ∀ right ∈ record.tools.zipIdx, ∀ port other : Port,
      relativePath (toolParts record.runId left port) =
        relativePath (toolParts record.runId right other) →
      toolId record.runId left = toolId record.runId right ∧ port.text = other.text := by
    intro left left_mem right right_mem port other same
    have names := @name_of_relativePath _ _ [("tool_outputs" : Text), record.runId]
      (by simp) (by simp) same
    rw [slugId_toolName uncut left_mem, slugId_toolName uncut right_mem] at names
    exact last_hyphen_split (hyphen_notMem_of_isWord (port_isWord port))
      (hyphen_notMem_of_isWord (port_isWord other)) names
  refine nodup_flatMap_zipIdx (by decide) ?_ ?_
  · intro left left_mem right right_mem port other same
    exact toolId_inj uncut left_mem right_mem
      (split left left_mem right right_mem port other same).1
  · intro tool member port other same
    have texts := (split tool member tool member port other same).2
    revert texts
    cases port <;> cases other <;> decide

theorem dropLast_relativePath (directories : List Text) (name_ne : name ≠ []) :
    (relativePath (directories ++ [name])).dropLast = safeParts directories := by
  rw [relativePath_append directories name_ne, List.dropLast_concat]

theorem directory_of_eventFiles (member : path ∈ record.eventFiles) :
    path.dropLast = safeParts [("traces" : Text), record.runId, ("events" : Text)] := by
  obtain ⟨event, -, inside⟩ := List.mem_flatMap.mp member
  obtain ⟨slot, -, rfl⟩ := List.mem_map.mp inside
  exact dropLast_relativePath [("traces" : Text), record.runId, ("events" : Text)] (by simp)

theorem directory_of_checkpointFiles (member : path ∈ record.checkpointFiles) :
    path.dropLast = safeParts [("traces" : Text), record.runId, ("checkpoints" : Text)] := by
  obtain ⟨checkpoint, -, rfl⟩ := List.mem_map.mp member
  exact dropLast_relativePath [("traces" : Text), record.runId, ("checkpoints" : Text)] (by simp)

theorem directory_of_toolFiles (member : path ∈ record.toolFiles) :
    path.dropLast = safeParts [("tool_outputs" : Text), record.runId] := by
  obtain ⟨tool, -, inside⟩ := List.mem_flatMap.mp member
  obtain ⟨port, -, rfl⟩ := List.mem_map.mp inside
  exact dropLast_relativePath [("tool_outputs" : Text), record.runId] (by simp)

theorem directory_of_findingsFiles (member : path ∈ record.findingsFiles) :
    path.dropLast = safeParts [("traces" : Text), record.runId, ("validation" : Text)] ∨
      path.dropLast = safeParts [("traces" : Text), record.runId] := by
  obtain ⟨validatorId, -, rfl⟩ := List.mem_map.mp member
  by_cases named : validatorId = []
  · rw [named, findingsFile_empty, List.dropLast_concat]
    exact .inr rfl
  · rw [findingsFile_of_ne named, List.dropLast_concat]
    exact .inl rfl

theorem traces_directory_ne (differ : safeParts [left] ≠ safeParts [right]) :
    safeParts [("traces" : Text), runId, left] ≠ safeParts [("traces" : Text), runId, right] := by
  intro same
  have shape : ∀ name : Text, safeParts [("traces" : Text), runId, name] =
      safeParts [("traces" : Text), runId] ++ safeParts [name] := fun name =>
    safeParts_append [("traces" : Text), runId] [name]
  rw [shape, shape] at same
  exact differ (List.append_cancel_left same)

theorem tool_directory_ne (names : List Text) :
    safeParts (("traces" : Text) :: runId :: names) ≠
      safeParts [("tool_outputs" : Text), runId] := by
  intro same
  have heads := congrArg List.head? same
  rw [show ("traces" : Text) :: runId :: names = [("traces" : Text)] ++ runId :: names from rfl,
    show [("tool_outputs" : Text), runId] = [("tool_outputs" : Text)] ++ [runId] from rfl,
    safeParts_append, safeParts_append] at heads
  have traces : safeParts [("traces" : Text)] = [("traces" : Text)] := by decide
  have tools : safeParts [("tool_outputs" : Text)] = [("tool-outputs" : Text)] := by decide
  rw [traces, tools] at heads
  have texts : some ("traces" : Text) = some ("tool-outputs" : Text) := heads
  exact absurd texts (by decide)

theorem subdirectory_ne (named : name ≠ []) :
    safeParts [("traces" : Text), runId, name] ≠ safeParts [("traces" : Text), runId] := by
  intro same
  have lengths := congrArg List.length same
  rw [show [("traces" : Text), runId, name] = [("traces" : Text), runId] ++ [name] from rfl,
    safeParts_append, List.length_append] at lengths
  simp [safeParts, named] at lengths

theorem disjoint_of_directories {left right : List ArtifactPath} {there : List Text}
    (left_dir : ∀ path ∈ left, path.dropLast = there)
    (differ : ∀ path ∈ right, path.dropLast ≠ there) : left.Disjoint right :=
  fun path in_left in_right => differ path in_right (left_dir path in_left)

theorem files_nodup_iff (uncut : record.Uncut) :
    record.files.Nodup ↔ record.findingsFiles.Nodup := by
  have events := fun path => @directory_of_eventFiles path record
  have checkpoints := fun path => @directory_of_checkpointFiles path record
  have tools := fun path => @directory_of_toolFiles path record
  have findings : ∀ {name : Text}, name ≠ [] →
      safeParts [("validation" : Text)] ≠ safeParts [name] → ∀ path ∈ record.findingsFiles,
        path.dropLast ≠ safeParts [("traces" : Text), record.runId, name] := by
    intro name named differ path member same
    rcases directory_of_findingsFiles member with below | above
    · exact traces_directory_ne differ (below.symm.trans same)
    · exact subdirectory_ne named (same.symm.trans above)
  refine ⟨fun nodup => (List.nodup_append'.mp nodup).2.1, fun nodup => ?_⟩
  unfold RunRecord.files
  refine List.Nodup.append (List.Nodup.append (List.Nodup.append (eventFiles_nodup uncut)
    (checkpointFiles_nodup uncut) ?_) (toolFiles_nodup uncut) ?_) nodup ?_
  · exact disjoint_of_directories events fun path member same =>
      traces_directory_ne (by decide) ((checkpoints path member).symm.trans same)
  · rw [List.disjoint_append_left]
    exact ⟨(disjoint_of_directories tools fun path member same =>
        tool_directory_ne _ ((events path member).symm.trans same)).symm,
      (disjoint_of_directories tools fun path member same =>
        tool_directory_ne _ ((checkpoints path member).symm.trans same)).symm⟩
  · rw [List.disjoint_append_left, List.disjoint_append_left]
    refine ⟨⟨disjoint_of_directories events (findings (by decide) (by decide)),
      disjoint_of_directories checkpoints (findings (by decide) (by decide))⟩,
      disjoint_of_directories tools fun path member same => ?_⟩
    rcases directory_of_findingsFiles member with below | above
    · exact tool_directory_ne _ (below.symm.trans same)
    · exact tool_directory_ne [] (above.symm.trans same)

end Files

section Ids

variable {record : RunRecord}

theorem indexed_nodup {α : Type} {list : List α} (value : α → Text) {lead : Text}
    (lead_word : IsWord lead)
    (fits : ∀ entry ∈ list.zipIdx,
      (slugStem (value entry.1 ++ '-' :: decimal entry.2) lead).length ≤ 96) :
    (list.zipIdx.map fun entry => slugId (value entry.1 ++ '-' :: decimal entry.2) lead).Nodup := by
  refine nodup_map_zipIdx fun left left_mem right right_mem same => ?_
  exact decimal_injective (slugId_word_inj (decimal_isWord left.2) (decimal_isWord right.2)
    lead_word (fits left left_mem) (fits right right_mem) same)

theorem validationIds_eq (uncut : record.Uncut) :
    record.validators.map (validationId record.runId) = record.validators.map fun validatorId =>
      slugStem (record.runId ++ '-' :: validatorId) "validation" := by
  have lead_word : IsWord ("validation" : Text) := by decide
  exact List.map_congr_left fun validatorId member =>
    slugId_eq_stem (.inr lead_word) (uncut.validationIds validatorId member)

theorem disjoint_of_leads {left right : List Text} {first second : Char}
    (left_head : ∀ id ∈ left, id.head? = some first)
    (right_head : ∀ id ∈ right, id.head? = some second)
    (differ : first ≠ second) : left.Disjoint right := by
  intro id in_left in_right
  have heads := (left_head id in_left).symm.trans (right_head id in_right)
  exact differ (Option.some.inj heads)

theorem head_of_mem_map {α : Type} {list : List α} {name : α → Text} {lead : Text} {first : Char}
    (lead_word : IsWord lead) (lead_head : lead.head? = some first)
    (slugged : ∀ entry, ∃ value, name entry = slugId value lead) :
    ∀ id ∈ list.map name, id.head? = some first := by
  intro id member
  obtain ⟨entry, -, rfl⟩ := List.mem_map.mp member
  obtain ⟨value, same⟩ := slugged entry
  rw [same]
  exact (slugId_head? value lead_word).trans lead_head

theorem ids_nodup_iff (uncut : record.Uncut) : record.ids.Nodup ↔
    (record.validators.map (validationId record.runId)).Nodup := by
  have event_word : IsWord ("event" : Text) := by decide
  have checkpoint_word : IsWord ("checkpoint" : Text) := by decide
  have step_word : IsWord ("step" : Text) := by decide
  have tool_word : IsWord ("tool" : Text) := by decide
  have validation_word : IsWord ("validation" : Text) := by decide
  have events : (record.events.zipIdx.map (eventId record.runId)).Nodup :=
    indexed_nodup (fun eventType => record.runId ++ '-' :: RuntimeEventType.text eventType)
      event_word uncut.eventIds
  have checkpoints : (record.checkpoints.zipIdx.map (checkpointId record.runId)).Nodup :=
    indexed_nodup (fun phase => record.runId ++ '-' :: RuntimePhase.text phase)
      checkpoint_word uncut.checkpointIds
  have steps : (record.steps.zipIdx.map (stepId record.runId)).Nodup :=
    indexed_nodup (fun kind => record.runId ++ '-' :: RuntimeStepKind.text kind)
      step_word uncut.stepIds
  have tools : (record.tools.zipIdx.map (toolId record.runId)).Nodup :=
    nodup_map_zipIdx fun left left_mem right right_mem same =>
      toolId_inj uncut left_mem right_mem same
  have event_head := @head_of_mem_map _ record.events.zipIdx (eventId record.runId) _ 'e'
    event_word rfl fun _ => ⟨_, rfl⟩
  have checkpoint_head := @head_of_mem_map _ record.checkpoints.zipIdx (checkpointId record.runId)
    _ 'c' checkpoint_word rfl fun _ => ⟨_, rfl⟩
  have step_head := @head_of_mem_map _ record.steps.zipIdx (stepId record.runId) _ 's'
    step_word rfl fun _ => ⟨_, rfl⟩
  have tool_head := @head_of_mem_map _ record.tools.zipIdx (toolId record.runId) _ 't'
    tool_word rfl fun _ => ⟨_, rfl⟩
  have validation_head := @head_of_mem_map _ record.validators (validationId record.runId) _ 'v'
    validation_word rfl fun _ => ⟨_, rfl⟩
  refine ⟨fun nodup => (List.nodup_append'.mp nodup).2.1, fun validations => ?_⟩
  unfold RunRecord.ids
  refine List.Nodup.append (List.Nodup.append (List.Nodup.append (List.Nodup.append events
    checkpoints ?_) steps ?_) tools ?_) validations ?_
  · exact disjoint_of_leads event_head checkpoint_head (by decide)
  · simp only [List.disjoint_append_left]
    exact ⟨disjoint_of_leads event_head step_head (by decide),
      disjoint_of_leads checkpoint_head step_head (by decide)⟩
  · simp only [List.disjoint_append_left]
    exact ⟨⟨disjoint_of_leads event_head tool_head (by decide),
      disjoint_of_leads checkpoint_head tool_head (by decide)⟩,
      disjoint_of_leads step_head tool_head (by decide)⟩
  · simp only [List.disjoint_append_left]
    exact ⟨⟨⟨disjoint_of_leads event_head validation_head (by decide),
      disjoint_of_leads checkpoint_head validation_head (by decide)⟩,
      disjoint_of_leads step_head validation_head (by decide)⟩,
      disjoint_of_leads tool_head validation_head (by decide)⟩

end Ids

section Chunks

variable (store : JsonArtifactStore)

mutual

/-- The strings of a payload that are moved to chunk files, each with its field path. -/
def largeStrings (field : List Text) : Json → List (List Text × List UInt8)
  | .str value =>
      if (encodeUtf8 value).length ≤ store.chunkStringThresholdBytes then []
      else [(field, encodeUtf8 value)]
  | .arr items => largeItems field 0 items
  | .obj fields => largeFields field fields
  | _ => []

def largeItems (field : List Text) (index : Nat) : List Json → List (List Text × List UInt8)
  | [] => []
  | item :: rest =>
    largeStrings (field ++ [decimal index]) item ++ largeItems field (index + 1) rest

def largeFields (field : List Text) : List (Text × Json) → List (List Text × List UInt8)
  | [] => []
  | (name, value) :: rest => largeStrings (field ++ [name]) value ++ largeFields field rest

end

mutual

theorem chunkLargeStrings_files (base field : List Text) : (payload : Json) →
    (store.chunkLargeStrings base field payload).2 =
      (largeStrings store field payload).flatMap fun large =>
        (store.chunkedText base large.1 large.2).2
  | .str value => by
      simp only [chunkLargeStrings, largeStrings]
      split
      · simp
      · simp
  | .arr items => by
      simpa only [chunkLargeStrings, largeStrings] using
        chunkItems_files base field 0 items
  | .obj fields => by
      simpa only [chunkLargeStrings, largeStrings] using
        chunkFields_files base field fields
  | .null | .bool _ | .int _ | .float _ => by
      simp [chunkLargeStrings, largeStrings]

theorem chunkItems_files (base field : List Text) (index : Nat) : (items : List Json) →
    (store.chunkItems base field index items).2 =
      (largeItems store field index items).flatMap fun large =>
        (store.chunkedText base large.1 large.2).2
  | [] => by simp [chunkItems, largeItems]
  | item :: rest => by
      have first := chunkLargeStrings_files base (field ++ [decimal index]) item
      have others := chunkItems_files base field (index + 1) rest
      simp only [chunkItems, largeItems, List.flatMap_append, first, others]

theorem chunkFields_files (base field : List Text) : (fields : List (Text × Json)) →
    (store.chunkFields base field fields).2 =
      (largeFields store field fields).flatMap fun large =>
        (store.chunkedText base large.1 large.2).2
  | [] => by simp [chunkFields, largeFields]
  | (name, value) :: rest => by
      have first := chunkLargeStrings_files base (field ++ [name]) value
      have others := chunkFields_files base field rest
      simp only [chunkFields, largeFields, List.flatMap_append, first, others]

end

def chunkNames (encoded : List UInt8) : List Text :=
  ((List.range ((encoded.length + store.chunkSizeBytes - 1) / store.chunkSizeBytes)).map
    fun index =>
    padded 4 index ++ (".txt" : Text)) ++ [("manifest.json" : Text)]

theorem chunkNames_nodup (encoded : List UInt8) : (chunkNames store encoded).Nodup := by
  refine List.Nodup.append (List.nodup_range.map ?_) (by simp) ?_
  · intro left right same
    exact padded_injective 4 (List.append_cancel_right same)
  · intro name chunk manifest
    obtain ⟨index, -, rfl⟩ := List.mem_map.mp chunk
    have ending := congrArg List.getLast? (List.mem_singleton.mp manifest)
    rw [List.getLast?_append_of_ne_nil _ (by decide)] at ending
    exact absurd ending (by decide)

/-- The chunk directory of a field. -/
def chunkDirectory (base field : List Text) : List Text :=
  base ++ [("chunks" : Text)] ++ fieldPath field

theorem chunkedText_files (base field : List Text) (encoded : List UInt8) :
    (store.chunkedText base field encoded).2.map Prod.fst =
      (chunkNames store encoded).map fun name => chunkDirectory base field ++ [name] := by
  simp [chunkedText, chunkNames, chunkDirectory, padded, Function.comp_def]

theorem chunkedText_disjoint_iff (base : List Text) (left right : List Text × List UInt8) :
    ((store.chunkedText base left.1 left.2).2.map Prod.fst).Disjoint
        ((store.chunkedText base right.1 right.2).2.map Prod.fst) ↔
      fieldPath left.1 ≠ fieldPath right.1 := by
  rw [chunkedText_files, chunkedText_files]
  constructor
  · intro disjoint same
    -- both write a manifest
    have manifest : ∀ encoded, ("manifest.json" : Text) ∈ chunkNames store encoded := by
      simp [chunkNames]
    refine disjoint (List.mem_map.mpr ⟨_, manifest left.2, rfl⟩)
      (List.mem_map.mpr ⟨_, manifest right.2, ?_⟩)
    rw [chunkDirectory, chunkDirectory, same]
  · intro differ path in_left in_right
    obtain ⟨name, -, rfl⟩ := List.mem_map.mp in_left
    obtain ⟨other, -, same⟩ := List.mem_map.mp in_right
    have directories := (List.append_inj_left' same rfl).symm
    exact differ (List.append_cancel_left directories)

theorem chunk_files_nodup_iff (base : List Text) (payload : Json) :
    ((store.chunkLargeStrings base [] payload).2.map Prod.fst).Nodup ↔
      ((largeStrings store [] payload).map fun large => fieldPath large.1).Nodup := by
  rw [chunkLargeStrings_files, List.map_flatMap, List.nodup_flatMap]
  change _ ↔ List.Pairwise (· ≠ ·) _
  rw [List.pairwise_map]
  constructor
  · rintro ⟨-, disjoint⟩
    exact disjoint.imp fun apart => (chunkedText_disjoint_iff store base _ _).mp apart
  · intro distinct
    refine ⟨fun large _ => ?_, distinct.imp fun differ =>
      (chunkedText_disjoint_iff store base _ _).mpr differ⟩
    rw [chunkedText_files]
    exact (chunkNames_nodup store large.2).map fun left right same => by simpa using same

end Chunks

section Programs

open Program

/-- The parts of a recorded payload, where of the tool payloads only those of the given invocations
count. -/
def RunArtifact (runId : Text) (tools : List (Text × Nat)) (parts : List Text) : Prop :=
  (∃ event : RuntimeEventType × Nat, ∃ slot : Slot,
    parts = eventPayloadParts runId event.2 event.1 slot.text) ∨
  (∃ checkpoint : RuntimePhase × Nat, parts = checkpointParts runId checkpoint.2 checkpoint.1) ∨
  (∃ tool ∈ tools, ∃ port, parts = toolParts runId tool port) ∨
  ∃ validatorId, parts = findingsParts runId validatorId

/-- The operation writes and inserts under the names of the run. -/
def Named (runId : Text) (tools : List (Text × Nat)) : Op → Prop
  | .writeJson parts _ => RunArtifact runId tools parts
  | .insertRuntimeEvent record => record.id = eventId runId (record.eventType, record.eventIndex)
  | .insertRuntimeCheckpoint record =>
      record.id = checkpointId runId (record.phase, record.checkpointIndex)
  | .insertRuntimeStep record => record.id = stepId runId (record.kind, record.stepIndex)
  | .insertToolInvocation record =>
      ∃ tool ∈ tools, record.toolName = tool.1 ∧ record.id = toolId runId tool
  | .insertValidationResult record => record.id = validationId runId record.validatorId
  | _ => True

variable {α : Type} {runId : Text} {redact : Json → Json} {tools : List (Text × Nat)}

theorem writeEventPayload_names (eventIndex : Nat) (eventType : RuntimeEventType) (slot : Slot)
    (payload : Option Json) :
    (writeEventPayload redact (eventPayloadParts runId eventIndex eventType slot.text)
      payload).Performs (Named runId tools) := by
  cases payload with
  | none => exact performs_pure
  | some payload =>
      have named :
          RunArtifact runId tools (eventPayloadParts runId eventIndex eventType slot.text) :=
        .inl ⟨(eventType, eventIndex), slot, rfl⟩
      exact performs_bind (performs_call named) fun _ => performs_pure

theorem recordEvent_names {event : EventRequest} (owner : event.runId = runId) :
    (recordEvent redact event).Performs (Named runId tools) := by
  subst owner
  refine performs_bind performs_lift fun _ => ?_
  refine performs_bind (performs_call trivial) fun index => ?_
  refine performs_bind (writeEventPayload_names index event.eventType .planned _) fun _ => ?_
  refine performs_bind (writeEventPayload_names index event.eventType .execution _) fun _ => ?_
  refine performs_bind (writeEventPayload_names index event.eventType .result _) fun _ => ?_
  refine performs_bind (performs_timestamp trivial) fun _ => performs_call ?_
  simp only [Named, eventId]

theorem checkpoint_names (request : CheckpointRequest) :
    (checkpoint redact request).Performs (Named request.runId tools) := by
  refine performs_bind (performs_call trivial) fun index => ?_
  refine performs_bind (performs_call (.inr (.inl ⟨(request.phase, index), rfl⟩))) fun _ => ?_
  refine performs_bind (performs_timestamp trivial) fun _ => ?_
  refine performs_bind (performs_call (by simp only [Named, checkpointId])) fun stored => ?_
  exact performs_bind (recordEvent_names rfl) fun _ => performs_pure

theorem startStep_names (stepIndex : Nat) (kind : RuntimeStepKind) :
    (startStep runId stepIndex kind).Performs (Named runId tools) := by
  refine performs_bind (performs_timestamp trivial) fun _ => performs_call ?_
  simp only [Named, stepId]

theorem readHookArtifact_names (uri : Option ArtifactPath) :
    (ToolGateway.readHookArtifact uri).Performs (Named runId tools) := by
  cases uri with
  | none => exact performs_pure
  | some path => exact performs_bind (performs_call trivial) fun _ => performs_pure

theorem evaluateAfterToolHook_names (gateway : ToolGateway) (record : ToolInvocation)
    (completed : RuntimeEvent) :
    (gateway.evaluateAfterToolHook record completed).Performs (Named gateway.runId tools) := by
  refine performs_bind (readHookArtifact_names _) fun _ => ?_
  refine performs_bind (readHookArtifact_names _) fun _ => ?_
  refine performs_bind (readHookArtifact_names _) fun _ => ?_
  refine performs_bind (readHookArtifact_names _) fun _ => ?_
  exact performs_bind (recordEvent_names rfl) fun _ => performs_raiseIf

/-- An invocation uses the names of its own tool and index. -/
theorem perform_names (gateway : ToolGateway) (toolName : Text) (payload : JsonObject) (index : Nat)
    (outcome : Except PyError JsonObject) :
    (gateway.perform toolName payload index outcome).Performs
      (Named gateway.runId [(toolName, index)]) := by
  have own (port : Port) : RunArtifact gateway.runId [(toolName, index)]
      (toolParts gateway.runId (toolName, index) port) :=
    .inr (.inr (.inl ⟨(toolName, index), List.mem_singleton_self _, port, rfl⟩))
  refine performs_bind (performs_call (own .input)) fun _ => ?_
  refine performs_bind (performs_timestamp trivial) fun _ => ?_
  refine performs_bind (recordEvent_names rfl) fun _ => ?_
  refine performs_bind (recordEvent_names rfl) fun _ => ?_
  refine performs_bind (performs_call (own .output)) fun _ => ?_
  refine performs_bind (performs_timestamp trivial) fun _ => ?_
  refine performs_bind (performs_call
    ⟨(toolName, index), List.mem_singleton_self _, rfl, rfl⟩) fun _ => ?_
  refine performs_bind (recordEvent_names rfl) fun completed => ?_
  exact performs_bind (evaluateAfterToolHook_names gateway _ completed) fun _ => performs_pure

theorem recordOutcomes_names (loop : MinimalRuntimeLoop) (stepId : Text)
    (outcomes : List ValidationOutcome) :
    (loop.recordOutcomes redact runId stepId outcomes).Performs (Named runId tools) := by
  induction outcomes with
  | nil => exact performs_pure
  | cons outcome rest ih =>
      unfold MinimalRuntimeLoop.recordOutcomes
      refine performs_bind (performs_call
        (.inr (.inr (.inr ⟨outcome.validatorId, rfl⟩)))) fun _ => ?_
      refine performs_bind (performs_timestamp trivial) fun _ => ?_
      refine performs_bind (performs_call (by simp only [Named, validationId])) fun _ => ?_
      refine performs_bind ?_ fun _ => ih
      exact performs_bind (recordEvent_names rfl) fun _ => performs_pure

end Programs

/-- The files and the identifiers of a run whose names are not cut are pairwise distinct exactly
when no two of its validators slug alike, and the chunk files of a payload are exactly when the
slugged field paths of its large strings are. -/
theorem artifacts_have_own_names (store : JsonArtifactStore) (parts : List Text) (payload : Json) :
    (∀ record : RunRecord, record.Uncut → (record.files.Nodup ∧ record.ids.Nodup ↔ record.Apart)) ∧
      (((store.chunkLargeStrings (safeParts parts) [] payload).2.map Prod.fst).Nodup ↔
        ((largeStrings store [] payload).map fun large => fieldPath large.1).Nodup) := by
  constructor
  · intro record uncut
    rw [files_nodup_iff uncut, ids_nodup_iff uncut, validationIds_eq uncut]
    constructor
    · rintro ⟨files, ids⟩
      exact ⟨ids, apart_files files⟩
    · intro apart
      exact ⟨findingsFiles_nodup apart, apart.ids⟩
  · exact chunk_files_nodup_iff store (safeParts parts) payload

/-- A run with two invocations of one tool and two validators. -/
def shortRun : RunRecord where
  runId := "run-task-a-attempt-1"
  events := [.runtimeStarted, .stepStarted, .stepStarted]
  checkpoints := [.context, .planner]
  steps := [.context, .planner, .executor, .validator]
  tools := ["git-read", "git-read"]
  validators := ["schema-validator", "safety-validator"]

theorem artifacts_have_own_names_shortRun : shortRun.files.Nodup ∧ shortRun.ids.Nodup :=
  ((artifacts_have_own_names .empty [] .null).1 shortRun
    { eventFiles := by
        intro event member slot
        revert event
        cases slot <;> decide
      checkpointFiles := by decide
      eventIds := by decide
      checkpointIds := by decide
      stepIds := by decide
      toolIds := by decide
      validationIds := by decide }).mpr { ids := by decide, files := by decide }

/-- The first attempt at a task whose identifier has a hundred letters. -/
def longRun : RunRecord where
  runId := slugId (List.replicate 100 'a' ++ ("-attempt-1" : Text)) "run"
  events := [.runtimeStarted, .stepStarted]
  checkpoints := [.context, .planner]
  steps := [.context, .planner, .executor, .validator]
  tools := ["git-read"]
  validators := ["schema-validator"]

/-- The output of the tool replaces its input, and all events have one identifier. -/
theorem longRun_overwrites :
    ¬∀ record : RunRecord, record.files.Nodup ∧ record.ids.Nodup := by
  intro distinct
  have files := (distinct longRun).1
  exact absurd files (by decide)

end ArtifactNames

end SkillCentric
