import SkillCentric.Control.Footprints
import SkillCentric.Runtime.RunNames

/-!
# The audit trail

Audit events and import jobs are written with `INSERT OR REPLACE` under ids made of the target's id
and the day of an import, or of the target's id, the event type and the digest of the time.  Two
imports of one target id on one day, or two events of one type on one target whose times have one
digest, fall on one row, and the later one overwrites the earlier.  Where no two writes of a run
coincide so, every event that was written stays as it was written.
-/

namespace SkillCentric.Control

open SkillCentric Slug Program

theorem padded_length (width n : Nat) :
    (Datetime.padded width n).length = max width (decimal n).length := by
  simp only [Datetime.padded, List.length_append, List.length_replicate]
  omega

theorem padded_length_of_lt {width n : Nat} (positive : 0 < width) (small : n < 10 ^ width) :
    (Datetime.padded width n).length = width := by
  have digits : (decimal n).length ≤ width := Nat.toDigits_length 10 n width positive small
  rw [padded_length]
  omega

def dayOf (timestamp : Text) : Text := versionId (timestamp.take 10)

theorem dayOf_length {timestamp : Text} (stamped : Stamp timestamp) :
    (dayOf timestamp).length = 10 := by
  obtain ⟨time, rfl⟩ := stamped
  have month := padded_length 2 (Datetime.civil (time / 1000000 / 86400)).2.1
  have day := padded_length 2 (Datetime.civil (time / 1000000 / 86400)).2.2
  have short := padded_length 4 (Datetime.civil (time / 1000000 / 86400)).1
  have long := padded_length 6 (Datetime.civil (time / 1000000 / 86400)).1
  have enough : 10 ≤ (toISOString time).length := by
    simp only [toISOString]
    split <;> simp only [List.length_append, List.length_cons, List.length_nil] <;> omega
  simp only [dayOf, versionId, List.length_map, List.length_take]
  omega

theorem exists_mem_dayOf {timestamp : Text} (stamped : Stamp timestamp) :
    ∃ c ∈ dayOf timestamp, isWordChar c = false := by
  obtain ⟨time, rfl⟩ := stamped
  simp only [toISOString, dayOf, versionId]
  split
  · rename_i year_lt
    have year := padded_length_of_lt (by decide) (show _ < 10 ^ 4 from year_lt)
    refine ⟨'-', ?_, by decide⟩
    rw [List.mem_map]
    refine ⟨'-', ?_, by decide⟩
    simp only [List.append_assoc]
    rw [List.take_append, year]
    simp
  · refine ⟨'+', ?_, by decide⟩
    simp

theorem importId_inj {lead left right leftTime rightTime : Text} (left_stamped : Stamp leftTime)
    (right_stamped : Stamp rightTime)
    (same : importId lead left leftTime = importId lead right rightTime) :
    left = right ∧ dayOf leftTime = dayOf rightTime := by
  simp only [importId, List.append_assoc, List.append_cancel_left_eq] at same
  have day_length : (dayOf leftTime).length = (dayOf rightTime).length := by
    rw [dayOf_length left_stamped, dayOf_length right_stamped]
  have parts := List.append_inj' same (by simpa [dayOf] using day_length)
  exact ⟨parts.1, (List.cons.inj parts.2).2⟩

variable {env : Env}

theorem auditId_inj {left right leftType rightType leftTime rightTime : Text}
    (left_plain : '-' ∉ leftType) (right_plain : '-' ∉ rightType)
    (same : "audit-".toList ++ left ++ '-' :: leftType ++ '-' :: env.sha256Hex leftTime =
      "audit-".toList ++ right ++ '-' :: rightType ++ '-' :: env.sha256Hex rightTime) :
    left = right ∧ leftType = rightType ∧ env.sha256Hex leftTime = env.sha256Hex rightTime := by
  have parts := List.append_inj' same (by simp [env.sha256Hex_length])
  have digests := (List.cons.inj parts.2).2
  have names : left ++ '-' :: leftType = right ++ '-' :: rightType := by
    simpa only [List.append_assoc, List.append_cancel_left_eq] using parts.1
  have mirrored := congrArg List.reverse names
  simp only [List.reverse_append, List.reverse_cons, List.append_assoc, List.singleton_append]
    at mirrored
  obtain ⟨types, targets⟩ :=
    first_hyphen_split (by simpa using left_plain) (by simpa using right_plain)
    mirrored
  exact ⟨List.reverse_injective targets, List.reverse_injective types, digests⟩

theorem importId_ne_auditId {target other eventType importTime eventTime : Text}
    (stamped : Stamp importTime) :
    importId "audit-" target importTime ≠
      "audit-".toList ++ other ++ '-' :: eventType ++ '-' :: env.sha256Hex eventTime := by
  intro same
  obtain ⟨c, member, no_word⟩ := exists_mem_dayOf stamped
  have length : (versionId (importTime.take 10)).length = 10 := dayOf_length stamped
  have reversed := congrArg List.reverse same
  have ends := congrArg (List.take 10) reversed
  simp only [importId, List.reverse_append, List.reverse_cons, List.append_assoc] at ends
  rw [List.take_append_of_le_length (by simp [length]),
    List.take_of_length_le (by simp [length]),
    List.take_append_of_le_length (by simp [env.sha256Hex_length])] at ends
  have in_digest : c ∈ env.sha256Hex eventTime := by
    have in_day : c ∈ (versionId (importTime.take 10)).reverse := List.mem_reverse.mpr member
    rw [ends] at in_day
    exact List.mem_reverse.mp (List.mem_of_mem_take in_day)
  rw [env.sha256Hex_digits eventTime c in_digest] at no_word
  cases no_word

def Op.auditEvent? : Op → Option AuditEventRow
  | .replaceAuditEvent event => some event
  | .replaceImport _ event => some event
  | _ => none

def Op.importJob? : Op → Option IngestionJobRow
  | .replaceImport job _ => some job
  | _ => none

/-- Two writes that fall on one row: imports of one target id on one day, or events of one type on
one target whose times have the same digest. -/
def coincide (env : Env) : Op → Op → Bool
  | .replaceImport _ left, .replaceImport _ right =>
      left.targetId = right.targetId && dayOf left.createdAt = dayOf right.createdAt
  | .replaceAuditEvent left, .replaceAuditEvent right =>
      left.targetId = right.targetId && left.eventType = right.eventType &&
        env.sha256Hex left.createdAt = env.sha256Hex right.createdAt
  | _, _ => false

theorem coincide_of_imports {leftJob rightJob : IngestionJobRow} {left right : AuditEventRow}
    (targets : left.targetId = right.targetId)
    (days : dayOf left.createdAt = dayOf right.createdAt) :
    coincide env (.replaceImport leftJob left) (.replaceImport rightJob right) = true := by
  simp only [coincide, Bool.and_eq_true, decide_eq_true_eq]
  exact ⟨targets, days⟩

theorem coincide_of_events {left right : AuditEventRow} (targets : left.targetId = right.targetId)
    (types : left.eventType = right.eventType)
    (digests : env.sha256Hex left.createdAt = env.sha256Hex right.createdAt) :
    coincide env (.replaceAuditEvent left) (.replaceAuditEvent right) = true := by
  simp only [coincide, Bool.and_eq_true, decide_eq_true_eq]
  exact ⟨⟨targets, types⟩, digests⟩

/-- An audit row carries the identifier of what it reports. -/
def Shaped (env : Env) : Op → Prop
  | .replaceImport job event =>
      ∃ jobType sourceUri kind targetId timestamp archiveAfter, Stamp timestamp ∧
        job = importJobRow jobType sourceUri kind targetId timestamp ∧
        event = importAuditRow jobType kind targetId timestamp archiveAfter
  | .replaceAuditEvent event =>
      ∃ eventType targetKind targetId timestamp archiveAfter, '-' ∉ eventType ∧
        event = auditRow env eventType targetKind targetId timestamp archiveAfter
  | _ => True

theorem auditRow_id (env : Env) (eventType targetKind targetId timestamp archiveAfter : Text) :
    (auditRow env eventType targetKind targetId timestamp archiveAfter).id =
      "audit-".toList ++ targetId ++ '-' :: eventType ++ '-' :: env.sha256Hex timestamp := rfl

theorem importAuditRow_id (jobType : JobType) (kind : EmbeddingTargetKind)
    (targetId timestamp archiveAfter : Text) :
    (importAuditRow jobType kind targetId timestamp archiveAfter).id =
      importId "audit-" targetId timestamp := rfl

theorem importJobRow_id (jobType : JobType) (sourceUri : Text) (kind : EmbeddingTargetKind)
    (targetId timestamp : Text) :
    (importJobRow jobType sourceUri kind targetId timestamp).id =
      importId "job-" targetId timestamp := rfl

theorem ReportOp.shaped {kind : EmbeddingTargetKind} {targetId : Text} {op : Op}
    (report : ReportOp env kind targetId op) : Shaped env op := by
  cases report with
  | imported jobType sourceUri timestamp archiveAfter stamped =>
      exact ⟨jobType, sourceUri, kind, targetId, timestamp, archiveAfter, stamped, rfl, rfl⟩
  | audit eventType timestamp archiveAfter plain =>
      exact ⟨eventType, _, targetId, timestamp, archiveAfter, plain, rfl⟩
  | _ => trivial

theorem MayPerform.shaped {request : Request} {op : Op} (may : MayPerform env request op) :
    Shaped env op := by
  cases may with
  | knowledgeScope body => trivial
  | knowledge write => cases write <;> trivial
  | knowledgeReport report => exact report.shaped
  | memoryScope body => trivial
  | memory write => cases write <;> trivial
  | memoryReport report => exact report.shaped
  | admin admin =>
      cases admin with
      | audit eventType targetKind targetId timestamp archiveAfter plain =>
          exact ⟨eventType, targetKind, targetId, timestamp, archiveAfter, plain, rfl⟩
      | _ => trivial
  | delivery delivery =>
      cases delivery with
      | audit eventType timestamp archiveAfter plain =>
          exact ⟨eventType, _, _, timestamp, archiveAfter, plain, rfl⟩
      | _ => trivial

theorem auditEvent_id_ne {left right : Op} {leftEvent rightEvent : AuditEventRow}
    (left_shaped : Shaped env left) (right_shaped : Shaped env right)
    (left_event : left.auditEvent? = some leftEvent)
    (right_event : right.auditEvent? = some rightEvent)
    (apart : coincide env left right = false) : leftEvent.id ≠ rightEvent.id := by
  intro same
  cases left with
  | replaceImport leftJob leftRow =>
      cases left_event
      obtain ⟨_, _, _, leftTarget, leftTime, _, left_stamped, -, rfl⟩ := left_shaped
      cases right with
      | replaceImport rightJob rightRow =>
          cases right_event
          obtain ⟨_, _, _, rightTarget, rightTime, _, right_stamped, -, rfl⟩ := right_shaped
          rw [importAuditRow_id, importAuditRow_id] at same
          obtain ⟨targets, days⟩ := importId_inj left_stamped right_stamped same
          exact Bool.false_ne_true (apart.symm.trans (coincide_of_imports targets days))
      | replaceAuditEvent rightRow =>
          cases right_event
          obtain ⟨_, _, rightTarget, rightTime, _, -, rfl⟩ := right_shaped
          rw [importAuditRow_id, auditRow_id] at same
          exact importId_ne_auditId left_stamped same
      | _ => cases right_event
  | replaceAuditEvent leftRow =>
      cases left_event
      obtain ⟨leftType, _, leftTarget, leftTime, _, left_plain, rfl⟩ := left_shaped
      cases right with
      | replaceImport rightJob rightRow =>
          cases right_event
          obtain ⟨_, _, _, rightTarget, rightTime, _, right_stamped, -, rfl⟩ := right_shaped
          rw [importAuditRow_id, auditRow_id] at same
          exact importId_ne_auditId right_stamped same.symm
      | replaceAuditEvent rightRow =>
          cases right_event
          obtain ⟨rightType, _, rightTarget, rightTime, _, right_plain, rfl⟩ := right_shaped
          rw [auditRow_id, auditRow_id] at same
          obtain ⟨targets, types, digests⟩ := auditId_inj left_plain right_plain same
          exact Bool.false_ne_true (apart.symm.trans (coincide_of_events targets types digests))
      | _ => cases right_event
  | _ => cases left_event

theorem importJob_id_ne {left right : Op} {leftJob rightJob : IngestionJobRow}
    (left_shaped : Shaped env left) (right_shaped : Shaped env right)
    (left_job : left.importJob? = some leftJob) (right_job : right.importJob? = some rightJob)
    (apart : coincide env left right = false) : leftJob.id ≠ rightJob.id := by
  intro same
  cases left with
  | replaceImport leftRow leftEvent =>
      cases right with
      | replaceImport rightRow rightEvent =>
          cases left_job
          cases right_job
          obtain ⟨_, _, _, leftTarget, leftTime, _, left_stamped, rfl, rfl⟩ := left_shaped
          obtain ⟨_, _, _, rightTarget, rightTime, _, right_stamped, rfl, rfl⟩ := right_shaped
          rw [importJobRow_id, importJobRow_id] at same
          obtain ⟨targets, days⟩ := importId_inj left_stamped right_stamped same
          exact Bool.false_ne_true (apart.symm.trans (coincide_of_imports targets days))
      | _ => cases right_job
  | _ => cases left_job

theorem mem_auditEvents {op : Op} {plane after : ControlPlane} {answer : op.Answer}
    (went : exec op plane = (.ok answer, after)) (row : AuditEventRow) :
    row ∈ after.database.auditEvents ↔
      (row ∈ plane.database.auditEvents ∧
        ∀ event, op.auditEvent? = some event → row.id ≠ event.id) ∨
        op.auditEvent? = some row := by
  obtain ⟨-, went⟩ := exec_ok went
  cases op with
  | replaceAuditEvent event =>
      cases went
      simp only [Database.replaceAuditEvent, Table.mem_replace, Op.auditEvent?]
      simp [Keyed.key, eq_comm]
  | replaceImport job event =>
      cases went
      simp only [Database.replaceAuditEvent, Database.replaceJob, Table.mem_replace, Op.auditEvent?]
      simp [Keyed.key, eq_comm]
  | replaceDocument source document =>
      obtain ⟨database, done, rfl⟩ := attemptOn_ok went
      obtain ⟨-, rfl⟩ := Database.replaceDocument_ok done
      simp [Op.auditEvent?]
  | insertChunk chunk =>
      obtain ⟨database, done, rfl⟩ := attemptOn_ok went
      obtain ⟨document, chunks, -, -, rfl⟩ := Database.insertChunk_ok done
      simp [Op.auditEvent?]
  | replaceMemoryRecord memory =>
      obtain ⟨database, done, rfl⟩ := attemptOn_ok went
      rw [Database.replaceMemoryRecord_ok done]
      simp [Op.auditEvent?]
  | insertRole role capabilities dataSources =>
      obtain ⟨database, done, rfl⟩ := attemptOn_ok went
      obtain ⟨roles, grants, sources, -, -, -, rfl⟩ := Database.insertRole_ok done
      simp [Op.auditEvent?]
  | upsertMembership membership =>
      obtain ⟨database, done, rfl⟩ := attemptOn_ok went
      obtain ⟨memberships, -, rfl⟩ := Database.upsertMembership_ok done
      simp [Op.auditEvent?]
  | insertDataSource dataSource =>
      obtain ⟨database, done, rfl⟩ := attemptOn_ok went
      obtain ⟨sources, -, rfl⟩ := Database.insertDataSource_ok done
      simp [Op.auditEvent?]
  | _ =>
      cases went
      simp [Op.auditEvent?, Database.updateJob, Database.replaceJob]

/-- The next write of the trail coincides with none that was carried out before. -/
def WritesApart (env : Env) (system : System) : Event → Prop
  | .step index =>
      ∀ op ∈ system.nextOp index, ∀ entry ∈ system.journal, coincide env entry.2 op = false
  | _ => True

instance (env : Env) (system : System) (event : Event) :
    Decidable (WritesApart env system event) := by
  unfold WritesApart
  rcases event with ⟨⟩ <;> infer_instance

/-- The trail of the accepted requests: their audit events are there as they were written, and no
two of them have an audit event or an import job in common. -/
structure AppendOnly (system : System) : Prop where
  kept : ∀ index op event, system.accepted index = true → (index, op) ∈ system.journal →
    op.auditEvent? = some event → event ∈ system.plane.database.auditEvents
  events_apart : ∀ left right leftOp rightOp leftEvent rightEvent, left ≠ right →
    system.accepted left = true → system.accepted right = true →
    (left, leftOp) ∈ system.journal → (right, rightOp) ∈ system.journal →
    leftOp.auditEvent? = some leftEvent → rightOp.auditEvent? = some rightEvent →
    leftEvent.id ≠ rightEvent.id
  jobs_apart : ∀ left right leftOp rightOp leftJob rightJob, left ≠ right →
    system.accepted left = true → system.accepted right = true →
    (left, leftOp) ∈ system.journal → (right, rightOp) ∈ system.journal →
    leftOp.importJob? = some leftJob → rightOp.importJob? = some rightJob → leftJob.id ≠ rightJob.id

theorem coincide_comm (env : Env) (left right : Op) :
    coincide env left right = coincide env right left := by
  cases left <;> cases right <;> simp only [coincide, eq_comm]

/-- What holds in every state of a run whose writes do not coincide. -/
structure TrailInvariant (env : Env) (system : System) : Prop where
  footed : Footed env system
  kept : ∀ entry ∈ system.journal, ∀ event, entry.2.auditEvent? = some event →
    event ∈ system.plane.database.auditEvents
  apart : system.journal.Pairwise fun left right => coincide env left.2 right.2 = false

theorem trailInvariant_initial (env : Env) (plane : ControlPlane) :
    TrailInvariant env (System.initial plane) where
  footed := footed_initial env plane
  kept := by simp [System.initial, System.journal]
  apart := List.Pairwise.nil

theorem TrailInvariant.step {system : System} (inv : TrailInvariant env system) {event : Event}
    (care : WritesApart env system event) : TrailInvariant env (system.step env event) := by
  have footed := inv.footed.step event
  by_cases turn : ∃ index, event = .step index
  · obtain ⟨index, rfl⟩ := turn
    rcases inv.footed.numbered.world_step index with
      same | ⟨thread, op, answer, after, found, next, ran, -, result⟩
    · have kept := inv.kept
      have apart := inv.apart
      refine ⟨footed, ?_, ?_⟩
      · simpa only [System.step, System.journal, System.plane, same] using kept
      · simpa only [System.step, System.journal, same] using apart
    · have fresh : ∀ entry ∈ system.journal, coincide env entry.2 op = false :=
        care op (by simp [System.nextOp, found, next])
      have shaped : Shaped env op := (inv.footed.next found next).shaped
      refine ⟨footed, ?_, ?_⟩
      · simp only [System.step, System.journal, System.plane, result]
        intro entry member row written
        refine (mem_auditEvents ran row).mpr ?_
        rcases List.mem_append.mp member with old | new
        · refine .inl ⟨inv.kept entry old row written, fun other overwritten => ?_⟩
          obtain ⟨request, -, may⟩ := inv.footed.done entry old
          exact auditEvent_id_ne may.shaped shaped written overwritten (fresh entry old)
        · obtain rfl := List.mem_singleton.mp new
          exact .inr written
      · simp only [System.step, System.journal, result]
        refine List.pairwise_append.mpr ⟨inv.apart, List.pairwise_singleton _ _, ?_⟩
        intro entry old other new
        obtain rfl := List.mem_singleton.mp new
        exact fresh entry old
  · obtain ⟨journal_eq, clock, fault, plane_eq⟩ :=
      world_of_other env system fun index same => turn ⟨index, same⟩
    refine ⟨footed, ?_, ?_⟩
    · rw [journal_eq, plane_eq]
      exact inv.kept
    · rw [journal_eq]
      exact inv.apart

theorem TrailInvariant.appendOnly {system : System} (inv : TrailInvariant env system) :
    AppendOnly system := by
  have shaped {entry : Nat × Op} (member : entry ∈ system.journal) : Shaped env entry.2 := by
    obtain ⟨request, -, may⟩ := inv.footed.done entry member
    exact may.shaped
  have apart {left right : Nat} {leftOp rightOp : Op} (differ : left ≠ right)
      (left_mem : (left, leftOp) ∈ system.journal) (right_mem : (right, rightOp) ∈ system.journal) :
      coincide env leftOp rightOp = false := by
    have symmetric : Std.Symm fun first second : Nat × Op =>
        coincide env first.2 second.2 = false :=
      ⟨fun first second holds => (coincide_comm env second.2 first.2).trans holds⟩
    exact inv.apart.forall left_mem right_mem fun same => differ (congrArg Prod.fst same)
  constructor
  · intro index op event _ member written
    exact inv.kept (index, op) member event written
  · intro left right leftOp rightOp leftEvent rightEvent differ _ _ left_mem right_mem left_event
      right_event
    exact auditEvent_id_ne (shaped left_mem) (shaped right_mem) left_event right_event
      (apart differ left_mem right_mem)
  · intro left right leftOp rightOp leftJob rightJob differ _ _ left_mem right_mem
      left_job right_job
    exact importJob_id_ne (shaped left_mem) (shaped right_mem) left_job right_job
      (apart differ left_mem right_mem)

/-- In a run in which no target id is imported twice on one day and no type of event is written
twice for one target at times of one digest, the trail is append-only. -/
theorem auditTrail_appendOnly (env : Env) (plane : ControlPlane) (events : List Event)
    (apart : Steps (System.step env) (WritesApart env) (.initial plane) events) :
    AppendOnly (System.run env (.initial plane) events) :=
  (apart.invariant (TrailInvariant env) (trailInvariant_initial env plane)
    fun _ _ inv care => inv.step care).appendOnly

namespace Sample

/-- One memory record ingested at nine and again, in a new version, at ten. -/
def importedTwice : List Event :=
  Event.receive (memory (id "note-1") (version "1.0.0") "first") :: List.replicate 11 (.step 0) ++
    Event.surroundings ten none :: .receive (memory (id "note-1") (version "1.1.0") "second") ::
      List.replicate 11 (.step 1)

def firstImport : AuditEventRow :=
  importAuditRow .memoryImport .memoryRecord "note-1" "2026-07-01T09:00:00.000Z"
    "2026-09-29T09:00:00.000Z"

end Sample

/-- The second ingest of the day overwrites the audit event of the first; both were accepted. -/
theorem auditTrail_appendOnly_fails_importedTwice :
    ¬ AppendOnly (System.run Sample.env (.initial Sample.scopes) Sample.importedTwice) := by
  intro trail
  have accepted : (System.run Sample.env (.initial Sample.scopes) Sample.importedTwice).accepted 0 =
      true := by decide
  have written : (0, Op.replaceImport
      (importJobRow .memoryImport
        "r2://scas-memory-dev/memory/mod-notes/note-1/v1.0.0/content.json" .memoryRecord "note-1"
        "2026-07-01T09:00:00.000Z") Sample.firstImport) ∈
      (System.run Sample.env (.initial Sample.scopes) Sample.importedTwice).journal := by
    decide +kernel
  have lost : Sample.firstImport ∉ (System.run Sample.env (.initial Sample.scopes)
      Sample.importedTwice).plane.database.auditEvents.rows := by decide +kernel
  exact lost (trail.kept 0 _ _ accepted written rfl)

/-- Ingests of two records on one day. -/
theorem auditTrail_appendOnly_two_records :
    AppendOnly (System.run Sample.env (.initial Sample.scopes)
      (.receive (Sample.memory (Sample.id "note-1") (Sample.version "1.0.0") "first") ::
        List.replicate 11 (.step 0) ++
          .receive (Sample.memory (Sample.id "note-2") (Sample.version "1.0.0") "second") ::
            List.replicate 11 (.step 1))) :=
  auditTrail_appendOnly Sample.env Sample.scopes _ (by decide)

end SkillCentric.Control
