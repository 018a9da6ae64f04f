import SkillCentric.Properties.ArtifactRoundTrip
import SkillCentric.Runtime.MemoryCandidates

/-!
# Memory approval

Approval is a pair of status fields of a candidate, and content travels beside it.  A submitted
content is the approved one, and its artifact the extracted one, in runs that submit what was
validated and extract under new identifiers and paths only.
-/

namespace SkillCentric.MemoryApproval

open SkillCentric MemoryCandidates MemoryFeedbackPipeline

/-- The calls of the memory pipeline. -/
inductive MemoryCall where
  | extract (redact : Json → Json) (now : Datetime) (request : ExtractRequest)
  | validate (validator : MemoryCandidateValidator) (candidate : JsonObject)
      (content : Option JsonObject)
  | submit (pipeline : MemoryFeedbackPipeline) (candidate consolidatedContent : JsonObject)
      (version : Text)

/-- A validation that returned. -/
structure Validation where
  validator : MemoryCandidateValidator
  content : Option JsonObject
  approved : Bool

/-- For which candidate an extraction wrote its content and where, and what could be read there. -/
structure Extraction where
  identifier : Text
  path : ArtifactPath
  written : Except PyError Json

/-- The plane, for each candidate its last validation, and all extractions. -/
structure MemoryDesk where
  plane : MemoryPlane
  validations : Dict Text Validation
  extractions : List Extraction

/-- Nothing has been extracted. -/
def idle (artifacts : JsonArtifactStore) : MemoryDesk := ⟨⟨[], artifacts, []⟩, .empty, []⟩

def contentPath (ids : ExtractionIds) : ArtifactPath :=
  relativePath (ExtractRequest.contentParts ids)

/-- One call. -/
def perform (desk : MemoryDesk) : MemoryCall → MemoryDesk
  | .extract redact now request =>
      let plane := (extractFromStep redact now request desk.plane).2
      match request.check with
      | .error _ => { desk with plane }
      | .ok ids =>
          { desk with
            plane
            extractions := desk.extractions ++
              [⟨ids.identifier, contentPath ids, plane.artifacts.readJson (contentPath ids)⟩] }
  | .validate validator candidate content =>
      match validator.validate candidate content desk.plane with
      | (.error _, plane) => { desk with plane }
      | (.ok result, plane) =>
          { desk with
            plane
            validations := desk.validations.set (getText candidate "id")
              ⟨validator, content, result.approved⟩ }
  | .submit pipeline candidate content version =>
      { desk with plane := (pipeline.submitCandidate candidate content version desk.plane).2 }

/-- A content that is sent passed the checks of the validation that approved its candidate, and its
artifact is the one that was extracted for the candidate. -/
def Bound (desk : MemoryDesk) : MemoryCall → Prop
  | .submit _ candidate content _ =>
      validateCandidate candidate = .ok () →
        (match desk.validations.get? (getText candidate "id") with
          | none => False
          | some validation => validation.approved = true ∧ validation.content = some content ∧
              proceduralContentErrors validation.validator.lower (sentContent candidate content) =
                .ok []) ∧
        (∃ extraction ∈ desk.extractions, extraction.identifier = getText candidate "id") ∧
        ∀ extraction ∈ desk.extractions, extraction.identifier = getText candidate "id" →
          getText candidate "content_uri" = desk.plane.artifacts.uriText extraction.path ∧
            extraction.written.isOk = true ∧
            desk.plane.artifacts.readJson extraction.path = extraction.written
  | _ => True

/-- An extraction uses a new identifier and a new path, and a submission passes a candidate as it
is stored, with the content it was last validated with. -/
def Careful (desk : MemoryDesk) : MemoryCall → Prop
  | .extract _ _ request =>
      match request.check with
      | .error _ => True
      | .ok ids => ∀ record ∈ desk.plane.memoryCandidates, getText record "id" ≠ ids.identifier ∧
          getText record "content_uri" ≠ desk.plane.artifacts.uriText (contentPath ids)
  | .validate _ _ _ => True
  | .submit _ candidate content _ =>
      validateCandidate candidate = .ok () → candidate ∈ desk.plane.memoryCandidates ∧
        (desk.validations.get? (getText candidate "id")).bind (·.content) = some content

section Fields

variable {fields : JsonObject} {key other : Text} {value : Json}

theorem field?_setField_self : Json.field? key (Json.setField key value fields) = some value := by
  induction fields with
  | nil => simp [Json.setField, Json.field?]
  | cons entry rest ih =>
      obtain ⟨name, old⟩ := entry
      rw [Json.setField]
      split_ifs with same
      · rw [Json.field?, if_pos same]
      · rw [Json.field?, if_neg same, ih]

theorem field?_setField_of_ne (differs : other ≠ key) :
    Json.field? other (Json.setField key value fields) = Json.field? other fields := by
  induction fields with
  | nil => simp [Json.setField, Json.field?, Ne.symm differs]
  | cons entry rest ih =>
      obtain ⟨name, old⟩ := entry
      rw [Json.setField]
      split_ifs with same
      · subst same
        rw [Json.field?, Json.field?, if_neg (Ne.symm differs), if_neg (Ne.symm differs)]
      · rw [Json.field?, Json.field?, ih]

theorem getItem_setField_of_ne (differs : other ≠ key) :
    getItem (Json.setField key value fields) other = getItem fields other := by
  unfold getItem
  rw [field?_setField_of_ne differs]

theorem getText_setField_of_ne (differs : other ≠ key) :
    getText (Json.setField key value fields) other = getText fields other := by
  unfold getText
  rw [field?_setField_of_ne differs]

theorem getItem_setField_self : getItem (Json.setField key value fields) key = value := by
  unfold getItem
  rw [field?_setField_self]
  rfl

theorem keys_setField : (Json.setField key value fields).map Prod.fst =
    if key ∈ fields.map Prod.fst then fields.map Prod.fst else fields.map Prod.fst ++ [key] := by
  induction fields with
  | nil => rfl
  | cons entry rest ih =>
      obtain ⟨name, old⟩ := entry
      simp only [Json.setField]
      split_ifs with same listed listed
      · rfl
      · exact absurd (by simp [same]) listed
      · have later : key ∈ rest.map Prod.fst := by simpa [Ne.symm same] using listed
        simp [ih, later]
      · have absent : key ∉ rest.map Prod.fst := fun found => listed (by simp [found])
        simp [ih, absent]

theorem proceduralContentErrors_sentContent (lower : Text → Text)
    (candidate content : JsonObject) :
    proceduralContentErrors lower (sentContent candidate content) =
      proceduralContentErrors lower content := by
  have read {key : Text} (differs : key ≠ "source_artifact_uri") :
      getItem (sentContent candidate content) key = getItem content key :=
        getItem_setField_of_ne differs
  have text {key : Text} (differs : key ≠ "source_artifact_uri") :
      getText (sentContent candidate content) key = getText content key :=
    getText_setField_of_ne differs
  have blocked : ((sentContent candidate content).map Prod.fst).filter (fun key =>
      (reflectionRejectionKeys ++ taskSubjectContentKeys).contains key) =
      (content.map Prod.fst).filter fun key =>
        (reflectionRejectionKeys ++ taskSubjectContentKeys).contains key := by
    rw [sentContent, keys_setField]
    split
    · rfl
    · rw [List.filter_append]
      exact List.append_nil _
  unfold proceduralContentErrors
  simp only [blocked]
  rw [text (by decide), text (by decide), read (by decide), read (by decide), read (by decide),
    read (by decide), read (by decide), read (by decide), read (by decide)]

end Fields

section Calls

variable {ids other : ExtractionIds} {candidate : JsonObject}

theorem identifier_ne_nil {request : ExtractRequest} (checked : request.check = .ok ids) :
    ids.identifier ≠ [] := by
  obtain ⟨_, -, checked⟩ := Stateful.bind_eq_ok.mp checked
  unfold ExtractRequest.readIds at checked
  split at checked
  · rename_i identifier given
    obtain ⟨_, -, checked⟩ := Stateful.bind_eq_ok.mp checked
    obtain ⟨_, -, checked⟩ := Stateful.bind_eq_ok.mp checked
    obtain ⟨_, -, checked⟩ := Stateful.bind_eq_ok.mp checked
    cases checked
    simpa using (Option.filter_eq_some_iff.mp given).2
  · obtain ⟨_, -, checked⟩ := Stateful.bind_eq_ok.mp checked
    obtain ⟨_, -, checked⟩ := Stateful.bind_eq_ok.mp checked
    obtain ⟨_, -, checked⟩ := Stateful.bind_eq_ok.mp checked
    cases checked
    dsimp only
    exact slugId_ne_nil _ (.inr (by decide))

theorem contentParts_length (named : ids.identifier ≠ []) :
    3 ≤ (safeParts (ExtractRequest.contentParts ids)).length ∧
      (safeParts (ExtractRequest.contentParts ids)).length ≤ 4 := by
  unfold safeParts ExtractRequest.contentParts
  rw [List.length_map]
  by_cases anonymous : ids.run.pyStr = []
  · simp [anonymous, named]
  · simp [anonymous, named]

theorem contentPath_spec (named : ids.identifier ≠ []) :
    ∃ directories filename, contentPath ids = directories ++ [filename ++ (".json" : Text)] ∧
      directories.length ≤ 3 := by
  obtain ⟨least, most⟩ := contentParts_length named
  unfold contentPath relativePath jsonFile
  generalize safeParts (ExtractRequest.contentParts ids) = parts at least most
  cases last : parts.getLast? with
  | none =>
      rw [List.getLast?_eq_none_iff.mp last] at least
      cases least
  | some filename => exact ⟨parts.dropLast, filename, rfl, by rw [List.length_dropLast]; omega⟩

theorem contentPath_outside (named : ids.identifier ≠ []) (others : other.identifier ≠ []) :
    ¬safeParts (ExtractRequest.contentParts ids) ++ [("chunks" : Text)] <+: contentPath other := by
  obtain ⟨least, -⟩ := contentParts_length named
  obtain ⟨directories, filename, path, bound⟩ := contentPath_spec others
  intro inside
  have lengths := inside.length_le
  rw [path] at inside lengths
  simp only [List.length_append, List.length_singleton] at lengths
  have same := inside.eq_of_length (by simp only [List.length_append, List.length_singleton]; omega)
  have names := congrArg List.getLast? same
  rw [List.getLast?_concat, List.getLast?_concat] at names
  have ends := congrArg List.getLast? (Option.some.inj names)
  rw [List.getLast?_append_of_ne_nil _ (by decide)] at ends
  exact absurd ends (by decide)

end Calls

section Validations

variable {validator : MemoryCandidateValidator} {candidate : JsonObject}
  {content : Option JsonObject} {plane after : MemoryPlane}
  {result : MemoryCandidateValidationResult}

theorem errorIf_eq_nil {condition : Bool} {message : Text} :
    errorIf condition message = [] ↔ condition = false := by
  cases condition <;> simp [errorIf]

theorem content_of_no_errors (checked : validator.validationErrors candidate content = .ok [])
    {given : JsonObject} (beside : content = some given) :
    proceduralContentErrors validator.lower given = .ok [] := by
  subst beside
  obtain ⟨sensitivityKnown, -, checked⟩ := Stateful.bind_eq_ok.mp checked
  obtain ⟨classKnown, -, checked⟩ := Stateful.bind_eq_ok.mp checked
  obtain ⟨contentErrors, content, checked⟩ := Stateful.bind_eq_ok.mp checked
  have parts := Except.ok.inj checked
  simp only [List.append_eq_nil_iff] at parts
  obtain ⟨⟨⟨⟨-, promotable⟩, -⟩, -⟩, rfl⟩ := parts
  have lesson : getItem candidate "candidate_class" = .str promotableCandidateClass := by
    cases classKnown with
    | false => cases promotable
    | true =>
        rw [if_pos rfl, errorIf_eq_nil] at promotable
        exact of_not_not (of_decide_eq_false promotable)
  simp only [MemoryCandidateValidator.contentErrors, if_pos lesson] at content
  obtain ⟨errors, procedural, content⟩ := Stateful.bind_eq_ok.mp content
  have none := (List.append_eq_nil_iff.mp (Except.ok.inj content)).2
  rw [procedural, none]

theorem updateFirst_eq {candidateId : Text} {change : JsonObject → JsonObject}
    {records later : List JsonObject} {updated : JsonObject}
    (found : MemoryPlane.updateFirst candidateId change records = some (updated, later)) :
    ∃ before record rest, records = before ++ record :: rest ∧
      getItem record "id" = .str candidateId ∧ updated = change record ∧
      later = before ++ change record :: rest := by
  induction records generalizing later with
  | nil => cases found
  | cons head rest ih =>
      rw [MemoryPlane.updateFirst] at found
      split_ifs at found with named
      · cases found
        exact ⟨[], head, rest, rfl, named, rfl, rfl⟩
      · obtain ⟨⟨changed, after⟩, located, same⟩ := Option.map_eq_some_iff.mp found
        cases same
        obtain ⟨before, record, tail, rfl, identified, rfl, rfl⟩ := ih located
        exact ⟨head :: before, record, tail, rfl, identified, rfl, rfl⟩

def judged (result : MemoryCandidateValidationResult) (record : JsonObject) : JsonObject :=
  (MemoryCandidateValidator.verdictFields result).foldl
    (fun record field => Json.setField field.1 field.2 record) record

variable {record : JsonObject}

theorem getText_judged {key : Text}
    (other : key ∉ ([("validator_status" : Text), "validation_reason", "policy_status",
      "policy_reason"] : List Text)) : getText (judged result record) key = getText record key := by
  simp only [List.mem_cons, List.not_mem_nil, or_false, not_or] at other
  obtain ⟨status, reason, policy, policyReason⟩ := other
  simp only [judged, MemoryCandidateValidator.verdictFields, List.foldl]
  rw [getText_setField_of_ne policyReason, getText_setField_of_ne policy,
    getText_setField_of_ne reason, getText_setField_of_ne status]

theorem getItem_judged_id :
    getItem (judged result record) "id" = getItem record "id" := by
  simp only [judged, MemoryCandidateValidator.verdictFields, List.foldl]
  rw [getItem_setField_of_ne (by decide), getItem_setField_of_ne (by decide),
    getItem_setField_of_ne (by decide), getItem_setField_of_ne (by decide)]

theorem getItem_judged_validator :
    getItem (judged result record) "validator_status" = .str result.validatorStatus := by
  simp only [judged, MemoryCandidateValidator.verdictFields, List.foldl]
  rw [getItem_setField_of_ne (by decide), getItem_setField_of_ne (by decide),
    getItem_setField_of_ne (by decide), getItem_setField_self]

theorem getItem_judged_policy :
    getItem (judged result record) "policy_status" = .str result.policyStatus := by
  simp only [judged, MemoryCandidateValidator.verdictFields, List.foldl]
  rw [getItem_setField_of_ne (by decide), getItem_setField_self]

theorem validate_ok (returned : validator.validate candidate content plane = (.ok result, after)) :
    ∃ before record rest, plane.memoryCandidates = before ++ record :: rest ∧
      getItem record "id" = .str (getText candidate "id") ∧
      after = { plane with memoryCandidates := before ++ judged result record :: rest } ∧
      (result.approved = true → validator.validationErrors candidate content = .ok []) := by
  unfold MemoryCandidateValidator.validate at returned
  split at returned
  · cases returned
  · rename_i validationErrors policyErrors id checked
    obtain ⟨found, validated, checked⟩ := Stateful.bind_eq_ok.mp checked
    obtain ⟨policies, -, checked⟩ := Stateful.bind_eq_ok.mp checked
    obtain ⟨named, read, checked⟩ := Stateful.bind_eq_ok.mp checked
    cases checked
    have id_text : id.pyStr = getText candidate "id" := by
      unfold Json.require at read
      split at read
      · rename_i value located
        cases read
        unfold getText
        rw [located]
        rfl
      · cases read
    unfold MemoryPlane.updateMemoryCandidate at returned
    split at returned
    · cases returned
    · rename_i updated changed wrote
      split at wrote
      · rename_i record records located
        cases wrote
        cases returned
        obtain ⟨before, record, rest, same, identified, rfl, rfl⟩ := updateFirst_eq located
        refine ⟨before, record, rest, same, id_text ▸ identified, rfl, fun approved => ?_⟩
        rw [validated]
        have accepted := (Bool.and_eq_true_iff.mp approved).1
        cases validationErrors with
        | nil => rfl
        | cons error errors =>
            exact absurd (of_decide_eq_true accepted) (by decide : ("rejected" : Text) ≠ "approved")
      · cases wrote

theorem validate_error {error : MemoryError}
    (raised : validator.validate candidate content plane = (.error error, after)) :
    after = plane := by
  unfold MemoryCandidateValidator.validate at raised
  split at raised
  · cases raised
    rfl
  · unfold MemoryPlane.updateMemoryCandidate at raised
    split at raised
    · rename_i missing
      split at missing
      · cases missing
      · cases missing
        cases raised
        rfl
    · cases raised

end Validations

/-- The record has its identifier, and its content is the one that was extracted for it. -/
structure Extracted (desk : MemoryDesk) (record : JsonObject) : Prop where
  named : getItem record "id" = .str (getText record "id")
  content : ∃ ids payload, ids.identifier ≠ [] ∧
    (∀ extraction, extraction ∈ desk.extractions ∧ extraction.identifier = getText record "id" ↔
      extraction = ⟨getText record "id", contentPath ids, .ok payload⟩) ∧
    getText record "content_uri" = desk.plane.artifacts.uriText (contentPath ids) ∧
    desk.plane.artifacts.readJson (contentPath ids) = .ok payload

/-- A record is approved only by an approved validation, whose content has no errors. -/
def Approved (desk : MemoryDesk) (record : JsonObject) : Prop :=
  getItem record "validator_status" = .str "approved" →
    getItem record "policy_status" = .str "approved" →
      ∃ validation, desk.validations.get? (getText record "id") = some validation ∧
        validation.approved = true ∧ ∀ content, validation.content = some content →
          proceduralContentErrors validation.validator.lower content = .ok []

/-- What careful calls keep. -/
structure Inv (desk : MemoryDesk) : Prop where
  extracted : ∀ record ∈ desk.plane.memoryCandidates, Extracted desk record
  approved : ∀ record ∈ desk.plane.memoryCandidates, Approved desk record
  distinct : (desk.plane.memoryCandidates.map (getText · "id")).Nodup
  recorded : ∀ extraction ∈ desk.extractions,
    ∃ record ∈ desk.plane.memoryCandidates, getText record "id" = extraction.identifier

section Keeping

variable {desk : MemoryDesk}

theorem inv_idle (artifacts : JsonArtifactStore) : Inv (idle artifacts) where
  extracted _ listed := by cases listed
  approved _ listed := by cases listed
  distinct := List.nodup_nil
  recorded _ listed := by cases listed

theorem perform_extract {redact : Json → Json} {now : Datetime} {request : ExtractRequest}
    {ids : ExtractionIds} (checked : request.check = .ok ids) :
    ∃ payload, perform desk (.extract redact now request) =
      let artifacts := (desk.plane.artifacts.writeJson (ExtractRequest.contentParts ids) payload).2
      { plane :=
          { memoryCandidates := desk.plane.memoryCandidates ++
              [request.record ids (desk.plane.artifacts.uriText (contentPath ids))
                (isoTimestamp now)]
            artifacts
            sent := desk.plane.sent }
        validations := desk.validations
        extractions := desk.extractions ++
          [⟨ids.identifier, contentPath ids, artifacts.readJson (contentPath ids)⟩] } := by
  simp only [perform, extractFromStep, checked]
  exact ⟨_, rfl⟩

theorem Inv.extract (inv : Inv desk) {redact : Json → Json} {now : Datetime}
    {request : ExtractRequest} (careful : Careful desk (.extract redact now request)) :
    Inv (perform desk (.extract redact now request)) := by
  cases checked : request.check with
  | error error =>
      simp only [perform, extractFromStep, checked]
      exact inv
  | ok ids =>
      simp only [Careful, checked] at careful
      have named := identifier_ne_nil checked
      obtain ⟨payload, performed⟩ : ∃ payload, perform desk (.extract redact now request) = _ :=
        perform_extract checked
      have written :=
        desk.plane.artifacts.readJson_writeJson (ExtractRequest.contentParts ids) payload
      rw [performed]
      refine ⟨fun record listed => ?_, fun record listed => ?_, ?_, fun extraction listed => ?_⟩
      · rcases List.mem_append.mp listed with old | new
        · obtain ⟨identified, others, content, alive, located, address, stored⟩ :=
            inv.extracted record old
          obtain ⟨renamed, moved⟩ := careful record old
          refine ⟨identified, others, content, alive, ?_, address, ?_⟩
          · intro extraction
            rw [← located extraction, List.mem_append]
            refine and_congr_left fun same => ⟨fun found => found.elim id fun new => ?_, .inl⟩
            rw [List.mem_singleton.mp new] at same
            exact absurd same.symm renamed
          · have path_ne : contentPath others ≠ contentPath ids := fun same =>
              moved (address.trans (congrArg _ same))
            exact (desk.plane.artifacts.readJson_writeJson_of_ne _ payload path_ne
              (contentPath_outside named alive)).trans stored
        · rw [List.mem_singleton.mp new]
          refine ⟨rfl, ids, _, named, fun extraction => ?_, rfl, written⟩
          rw [← written, List.mem_append, List.mem_singleton]
          constructor
          · rintro ⟨old | new, same⟩
            · obtain ⟨record, stored, identified⟩ := inv.recorded extraction old
              exact absurd (identified.trans same) (careful record stored).1
            · exact new
          · rintro rfl
            exact ⟨.inr rfl, rfl⟩
      · rcases List.mem_append.mp listed with old | new
        · exact inv.approved record old
        · rw [List.mem_singleton.mp new]
          intro status
          exact absurd (Json.str.inj status) (by decide)
      · simp only [List.map_append, List.map_singleton]
        refine inv.distinct.append (List.nodup_singleton _) fun name listed new => ?_
        obtain ⟨record, old, rfl⟩ := List.mem_map.mp listed
        exact (careful record old).1 (List.mem_singleton.mp new)
      · rcases List.mem_append.mp listed with old | new
        · obtain ⟨record, stored, identified⟩ := inv.recorded extraction old
          exact ⟨record, List.mem_append_left _ stored, identified⟩
        · rw [List.mem_singleton.mp new]
          exact ⟨_, List.mem_append_right _ (List.mem_singleton.mpr rfl), rfl⟩

theorem Inv.validate (inv : Inv desk) (validator : MemoryCandidateValidator)
    (candidate : JsonObject) (content : Option JsonObject) :
    Inv (perform desk (.validate validator candidate content)) := by
  simp only [perform]
  split
  · rename_i raised
    rw [validate_error raised]
    exact inv
  · rename_i result plane returned
    obtain ⟨before, record, rest, records, identified, rfl, checked⟩ := validate_ok returned
    have stored : record ∈ desk.plane.memoryCandidates := by
      rw [records]
      exact List.mem_append_right _ List.mem_cons_self
    have id_eq : getText record "id" = getText candidate "id" :=
      Json.str.inj ((inv.extracted record stored).named.symm.trans identified)
    have id_judged : getText (judged result record) "id" = getText record "id" :=
      getText_judged (by decide)
    have same_names : (before ++ judged result record :: rest).map (getText · "id") =
        desk.plane.memoryCandidates.map (getText · "id") := by
      rw [records]
      simp only [List.map_append, List.map_cons, id_judged]
    have others {other : JsonObject} (listed : other ∈ before ++ judged result record :: rest) :
        other = judged result record ∨ (other ∈ desk.plane.memoryCandidates ∧
          getText other "id" ≠ getText candidate "id") := by
      have distinct := inv.distinct
      rw [records, List.map_append, List.map_cons] at distinct
      rcases List.mem_append.mp listed with first | later
      · refine .inr ⟨records ▸ List.mem_append_left _ first, fun same => ?_⟩
        exact (List.nodup_append.mp distinct).2.2 _ (List.mem_map_of_mem first) _
          List.mem_cons_self (same.trans id_eq.symm)
      · rcases List.mem_cons.mp later with changed | last
        · exact .inl changed
        · refine .inr ⟨records ▸ List.mem_append_right _ (List.mem_cons_of_mem _ last),
            fun same => ?_⟩
          have alone := (List.nodup_cons.mp (List.nodup_append.mp distinct).2.1).1
          exact alone (id_eq.trans same.symm ▸ List.mem_map_of_mem last)
    refine ⟨fun other listed => ?_, fun other listed => ?_, same_names ▸ inv.distinct,
      fun extraction listed => ?_⟩
    · rcases others listed with rfl | ⟨old, -⟩
      · obtain ⟨named, ids, payload, alive, located, address, read⟩ := inv.extracted record stored
        refine ⟨by rw [getItem_judged_id, id_judged, named], ids, payload, alive,
          by rw [id_judged]; exact located, ?_, read⟩
        rw [getText_judged (by decide)]
        exact address
      · obtain ⟨named, ids, payload, alive, located, address, read⟩ := inv.extracted other old
        exact ⟨named, ids, payload, alive, located, address, read⟩
    · rcases others listed with rfl | ⟨old, differs⟩
      · intro status policy
        rw [getItem_judged_validator] at status
        rw [getItem_judged_policy] at policy
        have approved : result.approved = true := by
          unfold MemoryCandidateValidationResult.approved
          rw [Json.str.inj status, Json.str.inj policy]
          rfl
        refine ⟨⟨validator, content, result.approved⟩, ?_, approved, fun given beside =>
          content_of_no_errors (checked approved) beside⟩
        rw [id_judged, id_eq]
        exact Dict.get?_set_self _ _ _
      · intro status policy
        obtain ⟨validation, found, rest⟩ := inv.approved other old status policy
        exact ⟨validation, (Dict.get?_set_ne _ _ differs).trans found, rest⟩
    · obtain ⟨other, old, identified⟩ := inv.recorded extraction listed
      exact List.mem_map.mp (same_names ▸ List.mem_map.mpr ⟨other, old, identified⟩)

theorem Inv.submit (inv : Inv desk) (pipeline : MemoryFeedbackPipeline)
    (candidate content : JsonObject) (version : Text) :
    Inv (perform desk (.submit pipeline candidate content version)) := by
  have kept : (pipeline.submitCandidate candidate content version desk.plane).2.memoryCandidates =
      desk.plane.memoryCandidates ∧
      (pipeline.submitCandidate candidate content version desk.plane).2.artifacts =
        desk.plane.artifacts := by
    unfold submitCandidate
    split <;> exact ⟨rfl, rfl⟩
  refine ⟨fun record listed => ?_, fun record listed => ?_, ?_, fun extraction listed => ?_⟩
  · obtain ⟨named, ids, payload, alive, located, address, read⟩ :=
      inv.extracted record (kept.1 ▸ listed)
    exact ⟨named, ids, payload, alive, located, by rw [perform, kept.2]; exact address,
      by rw [perform, kept.2]; exact read⟩
  · exact inv.approved record (kept.1 ▸ listed)
  · rw [perform, kept.1]
    exact inv.distinct
  · rw [perform, kept.1]
    exact inv.recorded extraction listed

theorem Inv.perform (inv : Inv desk) {call : MemoryCall} (careful : Careful desk call) :
    Inv (perform desk call) := by
  cases call with
  | extract redact now request => exact inv.extract careful
  | validate validator candidate content => exact inv.validate validator candidate content
  | submit pipeline candidate content version => exact inv.submit pipeline candidate content version

theorem statuses_of_validateCandidate {candidate : JsonObject}
    (accepted : validateCandidate candidate = .ok ()) :
    getItem candidate "validator_status" = .str "approved" ∧
      getItem candidate "policy_status" = .str "approved" := by
  unfold validateCandidate at accepted
  obtain ⟨-, accepted⟩ := Stateful.unless_eq_ok.mp accepted
  obtain ⟨status, accepted⟩ := Stateful.unless_eq_ok.mp accepted
  obtain ⟨policy, -⟩ := Stateful.unless_eq_ok.mp accepted
  exact ⟨status, policy⟩

theorem Inv.bound (inv : Inv desk) {call : MemoryCall} (careful : Careful desk call) :
    Bound desk call := by
  cases call with
  | extract _ _ _ | validate _ _ _ => trivial
  | submit pipeline candidate content version =>
      intro accepted
      obtain ⟨stored, validated⟩ := careful accepted
      obtain ⟨status, policy⟩ := statuses_of_validateCandidate accepted
      obtain ⟨validation, found, approved, checked⟩ := inv.approved candidate stored status policy
      obtain ⟨-, ids, payload, -, located, address, read⟩ := inv.extracted candidate stored
      rw [found] at validated
      rw [found]
      refine ⟨⟨approved, validated, (proceduralContentErrors_sentContent _ _ _).trans
        (checked content validated)⟩, ⟨_, (located _).mpr rfl⟩, fun extraction listed same => ?_⟩
      rw [(located extraction).mp ⟨listed, same⟩]
      exact ⟨address, rfl, read⟩

end Keeping

/-- In a run that extracts under new identifiers and paths and submits stored candidates with the
content they were last validated with, whatever is sent is bound to its approval. -/
theorem approval_binds_content (artifacts : JsonArtifactStore) {calls : List MemoryCall}
    (careful : Steps perform Careful (idle artifacts) calls) :
    Steps perform Bound (idle artifacts) calls :=
  careful.of_invariant Inv (inv_idle artifacts) (fun _ _ inv careful => inv.perform careful)
    fun _ _ inv careful => inv.bound careful

section Concrete

instance (desk : MemoryDesk) (call : MemoryCall) : Decidable (Careful desk call) := by
  cases call with
  | extract redact now request =>
      simp only [Careful]
      split <;> infer_instance
  | validate validator candidate content => exact .isTrue trivial
  | submit pipeline candidate content version => exact inferInstanceAs (Decidable (_ → _))

instance (desk : MemoryDesk) (call : MemoryCall) : Decidable (Bound desk call) := by
  cases call with
  | extract redact now request => exact .isTrue trivial
  | validate validator candidate content => exact .isTrue trivial
  | submit pipeline candidate content version =>
      refine @instDecidableForall _ _ inferInstance (@instDecidableAnd _ _ ?_ ?_)
      · split <;> infer_instance
      · infer_instance

def finishedRun : JsonObject := [("id", .str "run-1"), ("profile_id", .str "profile-1")]

def finishedStep : JsonObject :=
  [("id", .str "step-1"), ("run_id", .str "run-1"), ("status", .str "succeeded")]

/-- A procedural lesson that passes every check. -/
def lesson (summary : Text) : JsonObject :=
  [("summary", .str summary), ("evidence_uris", .arr [.str "hetzner://runtime/artifacts/e.json"]),
    ("authoritative", .bool false), ("influence_class", .str "planner_hint"),
    ("allowed_effects", .arr [.str "planner_hint"]),
    ("forbidden_effects", .arr (proceduralRequiredForbiddenEffects.map .str)),
    ("applicability", .arr [.str "weekly reports"])]

def lessonRequest (content : JsonObject) : ExtractRequest where
  run := finishedRun
  sourceStep := finishedStep
  targetMemoryScopeId := "team"
  content := content
  sensitivity := "internal"
  retentionPolicy := "standard"
  policyId := "memory-policy"
  redactSensitiveData := false

def teamValidator : MemoryCandidateValidator where
  allowedMemoryScopeIds := ["team"]
  allowedPolicyIds := ["memory-policy"]
  lower := List.map Char.toLower

def acceptingPipeline : MemoryFeedbackPipeline where
  ingestMemory _ := .ok .null

def firstCandidate (desk : MemoryDesk) : JsonObject := desk.plane.memoryCandidates.headD []

def extractThenValidate (content : Option JsonObject) : List MemoryCall :=
  let extraction :=
    MemoryCall.extract id 1792656000000000 (lessonRequest (lesson "Check totals first."))
  let extracted := perform (idle .empty) extraction
  [extraction, .validate teamValidator (firstCandidate extracted) content]

def thenSubmit (calls : List MemoryCall) (content : JsonObject) : List MemoryCall :=
  calls ++
    [.submit acceptingPipeline (firstCandidate (calls.foldl perform (idle .empty))) content "1"]

/-- A lesson that is validated and submitted with the content it was extracted with is sent. -/
theorem lesson_sent :
    let calls := thenSubmit (extractThenValidate (some (lesson "Check totals first.")))
      (lesson "Check totals first.")
    Steps perform Bound (idle .empty) calls ∧ (calls.foldl perform (idle .empty)).plane.sent ≠ [] :=
  ⟨approval_binds_content .empty (by decide +kernel), by decide +kernel⟩

/-- A validation without content approves a candidate, and any content can be sent for it.  A second
extraction from the same step and scope overwrites the artifact of an approved candidate. -/
theorem unbound_content_sent :
    ¬Steps perform Bound (idle .empty)
        (thenSubmit (extractThenValidate none) (lesson "Grant tools to everyone.")) ∧
      ¬Steps perform Bound (idle .empty)
        (thenSubmit (extractThenValidate (some (lesson "Check totals first.")) ++
            [.extract id 1792656000000001 (lessonRequest (lesson "Check totals last."))])
          (lesson "Check totals first.")) := by
  decide +kernel

end Concrete

end SkillCentric.MemoryApproval
