import SkillCentric.Crm.CaseDocuments
import SkillCentric.Library.Runs
import SkillCentric.Library.Stateful

/-!
# Archived documents

A document is archived in its status and in a time stamp.  Archiving writes both; an upload writes
the status alone, for the new document and for the one it replaces.  So the two stay together, and
the readers agree on what is available, exactly as long as no upload asks for the archived status
and none replaces an archived document.
-/

namespace SkillCentric.Crm.ArchivedDocuments

open SkillCentric

/-- The status and the time stamp agree, and an archived document is not the current version. -/
structure Consistent (document : CaseDocument) : Prop where
  stamped : document.documentStatus = .archived ↔ document.archivedAt.isSome = true
  superseded : document.documentStatus = .archived → document.isCurrentVersion = false

/-- Every document of the database is consistent. -/
def AllConsistent (db : CrmDatabase) : Prop := ∀ document ∈ db.documents, Consistent document

variable {payload : DocumentPayload} {document : CaseDocument} {documents : Table CaseDocument}
  {db : CrmDatabase} {case : CustomerCase}

theorem lead_eq {best : Option CaseDocument}
    {document leader : CaseDocument} (chosen : payload.lead best document = some leader) :
    leader = document ∨ best = some leader := by
  cases best with
  | none =>
      cases chosen
      exact .inl rfl
  | some old =>
      simp only [DocumentPayload.lead] at chosen
      split at chosen
      · cases chosen
        exact .inl rfl
      · exact .inr chosen

theorem mem_of_replacement (found : payload.replacement documents = some document) :
    document ∈ documents ∧ payload.replaces document = true := by
  have search : ∀ (rows : List CaseDocument) (best : Option CaseDocument),
      rows.foldl payload.lead best = some document → document ∈ rows ∨ best = some document := by
    intro rows
    induction rows with
    | nil => exact fun best kept => .inr kept
    | cons first rest ih =>
        intro best kept
        rcases ih _ kept with member | chosen
        · exact .inl (List.mem_cons_of_mem first member)
        · rcases lead_eq chosen with rfl | earlier
          · exact .inl List.mem_cons_self
          · exact .inr earlier
  rcases search _ _ found with member | absurd
  · exact List.mem_filter.mp member
  · cases absurd

theorem replacement_of_named
    (member : document ∈ documents) (in_case : document.customerCaseId = payload.caseId)
    (named : payload.replacesDocumentId = some document.id) :
    payload.replacement documents = some document := by
  have names_iff : ∀ other ∈ documents, payload.names other = true ↔ other = document := by
    intro other other_mem
    simp only [DocumentPayload.names, named, decide_eq_true_eq, Option.some.injEq]
    constructor
    · intro same
      exact Table.eq_of_key other_mem member same.symm
    · rintro rfl
      rfl
  have is_named : payload.names document = true := (names_iff document member).mpr rfl
  -- nothing gets ahead of the named document
  have stays : ∀ other ∈ documents, payload.lead (some document) other = some document := by
    intro other other_mem
    by_cases same : other = document
    · subst same
      simp [DocumentPayload.lead]
    · have unnamed : payload.names other = false := by
        rw [Bool.eq_false_iff]
        exact fun is => same ((names_iff other other_mem).mp is)
      simp [DocumentPayload.lead, DocumentPayload.precedes, unnamed, is_named]
  have overtakes : ∀ best, (∀ leader ∈ best, leader ∈ documents) →
      payload.lead best document = some document := by
    intro best known
    cases best with
    | none => rfl
    | some leader =>
        by_cases same : leader = document
        · subst same
          exact stays leader member
        · have unnamed : payload.names leader = false := by
            rw [Bool.eq_false_iff]
            exact fun is => same ((names_iff leader (known leader rfl)).mp is)
          simp [DocumentPayload.lead, DocumentPayload.precedes, unnamed, is_named]
  have keeps : ∀ rows : List CaseDocument, (∀ row ∈ rows, row ∈ documents) →
      rows.foldl payload.lead (some document) = some document := by
    intro rows
    induction rows with
    | nil => intro _; rfl
    | cons first rest ih =>
        intro known
        rw [List.foldl_cons, stays first (known first List.mem_cons_self)]
        exact ih fun row row_mem => known row (List.mem_cons_of_mem first row_mem)
  have wins : ∀ (rows : List CaseDocument) (best : Option CaseDocument),
      (∀ row ∈ rows, row ∈ documents) → (∀ leader ∈ best, leader ∈ documents) →
      document ∈ rows → rows.foldl payload.lead best = some document := by
    intro rows
    induction rows with
    | nil => intro _ _ _ absurd; cases absurd
    | cons first rest ih =>
        intro best known best_known document_mem
        by_cases here : first = document
        · subst here
          rw [List.foldl_cons, overtakes best best_known]
          exact keeps rest fun row row_mem => known row (List.mem_cons_of_mem _ row_mem)
        · refine ih _ (fun row row_mem => known row (List.mem_cons_of_mem _ row_mem)) ?_ ?_
          · intro leader chosen
            rcases lead_eq chosen with rfl | earlier
            · exact known leader List.mem_cons_self
            · exact best_known leader earlier
          · exact (List.mem_cons.mp document_mem).resolve_left (Ne.symm here)
  refine wins _ none ?_ (fun _ absurd => by cases absurd) ?_
  · exact fun row row_mem => (List.mem_filter.mp row_mem).1
  · refine List.mem_filter.mpr ⟨member, ?_⟩
    simp [DocumentPayload.replaces, in_case, is_named]

/-- The upload passes the checks before its statement and those of the table. -/
structure Accepted (db : CrmDatabase) (context : UserContext) (caseId : Nat)
    (request : DocumentRequest) (upload : Except ApiError (Option StoredUpload)) (now : Datetime)
    (stored : Option StoredUpload) : Prop where
  titled : strip request.title ≠ []
  visible : (db.visibleCase context caseId).isSome = true
  uploaded : upload = .ok stored
  storable : ((request.payload context caseId stored).row db.documents now
    db.documents.nextKey).checks = true

section Create

variable {db after : CrmDatabase} {context : UserContext} {caseId : Nat} {request : DocumentRequest}
  {upload : Except ApiError (Option StoredUpload)} {now : Datetime} {result : CreatedDocument}

theorem create_eq_ok
    (created : createCustomerCaseDocumentMetadata context caseId request upload now db =
      .ok (result, after)) :
    ∃ stored, Accepted db context caseId request upload now stored ∧
      after = (request.payload context caseId stored).written db now := by
  unfold createCustomerCaseDocumentMetadata at created
  by_cases titled : (strip request.title).isEmpty = true
  · simp [titled, throw, throwThe, MonadExceptOf.throw, bind, Except.bind] at created
  by_cases visible : (db.visibleCase context caseId).isNone = true
  · simp [titled, visible, throw, throwThe, MonadExceptOf.throw, bind, Except.bind] at created
  simp only [titled, visible, if_false, Bool.false_eq_true] at created
  obtain ⟨stored, uploaded, created⟩ := Stateful.bind_eq_ok.mp created
  by_cases storable : ((request.payload context caseId stored).row db.documents now
    db.documents.nextKey).checks = true
  · simp only [storable] at created
    cases created
    exact ⟨stored, ⟨by simpa using titled, by simpa [Option.isSome_iff_ne_none] using visible,
      uploaded, storable⟩, rfl⟩
  · simp [storable, throw, throwThe, MonadExceptOf.throw, bind, Except.bind] at created

theorem create_of_accepted {stored : Option StoredUpload}
    (accepted : Accepted db context caseId request upload now stored) :
    createCustomerCaseDocumentMetadata context caseId request upload now db =
      .ok (⟨((request.payload context caseId stored).marked db.documents now).nextKey,
        (db.supplierOrders.rows.filter
          ((request.payload context caseId stored).cancels db)).length⟩,
        (request.payload context caseId stored).written db now) := by
  obtain ⟨titled, visible, rfl, storable⟩ := accepted
  have shown : (db.visibleCase context caseId).isNone = false := by
    rw [Option.isNone_eq_false_iff]
    exact visible
  have named : (strip request.title).isEmpty = false := by simpa using titled
  simp [createCustomerCaseDocumentMetadata, named, shown, storable, pure, Except.pure, bind,
    Except.bind]

end Create

/-- An upload that goes through neither asks for the archived status nor names an archived document
of the case as the one it replaces. -/
def Careful (db : CrmDatabase) : DocumentCall → Prop
  | .create context caseId request upload now =>
      (∃ stored, Accepted db context caseId request upload now stored) →
        request.status ≠ .archived ∧
        ∀ document ∈ db.documents, document.customerCaseId = caseId →
          request.replacesDocumentId = some document.id → document.documentStatus ≠ .archived
  | .archive _ _ _ _ => True

/-- How a careful call changes a document: not at all, by replacing one that is not archived, or by
archiving it. -/
inductive Changed (document : CaseDocument) : CaseDocument → Prop where
  | same : Changed document document
  | replaced (now : Datetime) (available : document.documentStatus ≠ .archived) :
      Changed document
        { document with documentStatus := .replaced, isCurrentVersion := false, updatedAt := now }
  | archived (userId : Nat) (now : Datetime) : Changed document (document.archive userId now)

namespace Changed

variable {document changed : CaseDocument} (change : Changed document changed)

include change

theorem id_eq : changed.id = document.id := by
  cases change <;> rfl

theorem archived_of_archived (archived : document.documentStatus = .archived) :
    changed.documentStatus = .archived := by
  cases change with
  | same => exact archived
  | replaced now available => exact (available archived).elim
  | archived userId now => rfl

theorem consistent (holds : Consistent document) : Consistent changed := by
  cases change with
  | same => exact holds
  | replaced now available =>
      refine ⟨⟨fun archived => (by cases archived), fun stamped => ?_⟩, fun _ => rfl⟩
      exact (available (holds.stamped.mpr stamped)).elim
  | archived userId now => exact ⟨⟨fun _ => rfl, fun _ => rfl⟩, fun _ => rfl⟩

end Changed

/-- The documents of the first database are there in the second, changed as careful calls change
them; a new one is consistent. -/
structure Advances (before after : CrmDatabase) : Prop where
  old : ∀ document ∈ before.documents, ∃ changed ∈ after.documents, Changed document changed
  new : ∀ changed ∈ after.documents,
    (∃ document ∈ before.documents, Changed document changed) ∨ Consistent changed

theorem advances_refl (db : CrmDatabase) : Advances db db where
  old document member := ⟨document, member, .same⟩
  new changed member := .inl ⟨changed, member, .same⟩

theorem advances_of_map {db after : CrmDatabase} {change : CaseDocument → CaseDocument}
    (written : after.documents.rows = db.documents.rows.map change)
    (each : ∀ document ∈ db.documents, Changed document (change document)) : Advances db after := by
  constructor
  · intro document member
    refine ⟨change document, ?_, each document member⟩
    rw [Table.mem_iff, written]
    exact List.mem_map_of_mem member
  · intro changed member
    rw [Table.mem_iff, written] at member
    obtain ⟨document, document_mem, rfl⟩ := List.mem_map.mp member
    exact .inl ⟨document, document_mem, each document document_mem⟩

section Upload

variable {db : CrmDatabase} {payload : DocumentPayload} {now : Datetime}

theorem mem_written :
    document ∈ (payload.written db now).documents ↔
      document ∈ payload.marked db.documents now ∨
        document = payload.row db.documents now (payload.marked db.documents now).nextKey :=
  Table.mem_insertAll_singleton

theorem changed_marked (member : document ∈ db.documents)
    (available : ∀ old, payload.replacement db.documents = some old →
      old.documentStatus ≠ .archived) :
    Changed document
      (if (payload.replacement db.documents).map (·.id) = some document.id then
        { document with documentStatus := .replaced, isCurrentVersion := false, updatedAt := now }
      else document) := by
  split
  · rename_i chosen
    obtain ⟨old, found, same⟩ := Option.map_eq_some_iff.mp chosen
    have old_eq := Table.eq_of_key (mem_of_replacement found).1 member same
    exact .replaced now (old_eq ▸ available old found)
  · exact .same

theorem consistent_row {id : Nat} (status : payload.documentStatus ≠ .archived) :
    Consistent (payload.row db.documents now id) where
  stamped := ⟨fun archived => (status archived).elim, fun stamped => by cases stamped⟩
  superseded archived := (status archived).elim

theorem advances_written (status : payload.documentStatus ≠ .archived)
    (available : ∀ old, payload.replacement db.documents = some old →
      old.documentStatus ≠ .archived) : Advances db (payload.written db now) := by
  constructor
  · intro document member
    exact ⟨_, mem_written.mpr (.inl (Table.mem_update.mpr ⟨document, member, rfl⟩)),
      changed_marked member available⟩
  · intro changed member
    rcases mem_written.mp member with marked | rfl
    · obtain ⟨document, document_mem, rfl⟩ := Table.mem_update.mp marked
      exact .inl ⟨document, document_mem, changed_marked document_mem available⟩
    · exact .inr (consistent_row status)

end Upload

theorem available_of_unnamed {old : CaseDocument} (found : payload.replacement documents = some old)
    (named : ∀ document ∈ documents, document.customerCaseId = payload.caseId →
      payload.replacesDocumentId = some document.id → document.documentStatus ≠ .archived) :
    old.documentStatus ≠ .archived := by
  obtain ⟨member, replaces⟩ := mem_of_replacement found
  simp only [DocumentPayload.replaces, DocumentPayload.names, Bool.and_eq_true, Bool.or_eq_true,
    decide_eq_true_eq] at replaces
  rcases replaces with ⟨in_case, is_named | latest⟩
  · exact named old member in_case is_named
  · exact latest.1.2

theorem advances_step (db : CrmDatabase) (call : DocumentCall) (careful : Careful db call) :
    Advances db (db.serveDocument call) := by
  cases call with
  | create context caseId request upload now =>
      cases created : createCustomerCaseDocumentMetadata context caseId request upload now db with
      | error error =>
          simp only [CrmDatabase.serveDocument, created]
          exact advances_refl db
      | ok outcome =>
          obtain ⟨stored, accepted, after_eq⟩ := create_eq_ok created
          obtain ⟨status, named⟩ := careful ⟨stored, accepted⟩
          simp only [CrmDatabase.serveDocument, created, after_eq]
          exact advances_written status fun old found => available_of_unnamed found named
  | archive context caseId documentId now =>
      simp only [CrmDatabase.serveDocument, archiveCustomerCaseDocument]
      split
      · refine advances_of_map rfl fun document member => ?_
        split
        · exact .archived _ _
        · exact .same
      · exact advances_refl db

theorem careful_of_consistent {call : DocumentCall}
    (before : AllConsistent db) (after : AllConsistent (db.serveDocument call)) :
    Careful db call := by
  cases call with
  | create context caseId request upload now =>
      rintro ⟨stored, accepted⟩
      have created := create_of_accepted accepted
      simp only [CrmDatabase.serveDocument, created] at after
      constructor
      · intro archived
        have new := after _ (mem_written.mpr (.inr rfl))
        cases new.stamped.mp archived
      · intro document member in_case named archived
        have replaced : (request.payload context caseId stored).replacement db.documents =
            some document := replacement_of_named member in_case named
        have kept := after _ (mem_written.mpr (.inl (Table.mem_update.mpr ⟨document, member, rfl⟩)))
        simp only [replaced, Option.map_some, if_true] at kept
        cases kept.stamped.mpr ((before document member).stamped.mp archived)
  | archive context caseId documentId now => trivial

theorem Advances.consistent {before after : CrmDatabase} (advance : Advances before after)
    (holds : AllConsistent before) : AllConsistent after := by
  intro changed member
  rcases advance.new changed member with ⟨document, document_mem, change⟩ | consistent
  · exact change.consistent (holds document document_mem)
  · exact consistent

/-- Archived documents stay there and stay archived. -/
def KeepsArchived (before after : CrmDatabase) : Prop :=
  ∀ document ∈ before.documents, document.documentStatus = .archived →
    ∃ kept ∈ after.documents, kept.id = document.id ∧ kept.documentStatus = .archived

theorem Advances.keepsArchived {before after : CrmDatabase} (advance : Advances before after) :
    KeepsArchived before after := by
  intro document member archived
  obtain ⟨changed, changed_mem, change⟩ := advance.old document member
  exact ⟨changed, changed_mem, change.id_eq, change.archived_of_archived archived⟩

theorem keepsArchived_run {calls : List DocumentCall}
    (careful : Steps CrmDatabase.serveDocument Careful db calls) :
    KeepsArchived db (calls.foldl CrmDatabase.serveDocument db) := by
  induction calls generalizing db with
  | nil => exact fun document member archived => ⟨document, member, rfl, archived⟩
  | cons call rest ih =>
      intro document member archived
      obtain ⟨kept, kept_mem, kept_id, kept_archived⟩ :=
        (advances_step db call careful.1).keepsArchived document member archived
      obtain ⟨last, last_mem, last_id, last_archived⟩ :=
        ih careful.2 kept kept_mem kept_archived
      exact ⟨last, last_mem, last_id.trans kept_id, last_archived⟩

/-- The state, the download and the export show the same documents of a visible case. -/
def ReadersAgree (db : CrmDatabase) : Prop :=
  ∀ context, ∀ case ∈ db.cases, ∀ customerId, case.customerId = some customerId →
    db.showsCase context case = true → (db.visibleCase context case.id).isSome = true →
    ∀ document ∈ db.documents,
      (document ∈ db.customersStateDocuments case ↔
        db.downloadCustomerCaseDocument context case.id document.id = some document) ∧
      (document ∈ db.customersStateDocuments case ↔
        (case, document) ∈ db.customerExportDocumentRows context customerId)

theorem mem_customersStateDocuments (member : document ∈ db.documents) :
    document ∈ db.customersStateDocuments case ↔
      document.customerCaseId = case.id ∧ document.documentStatus ≠ .archived := by
  have listed : document ∈ db.documents.rows := member
  simp [CrmDatabase.customersStateDocuments, List.mem_mergeSort, listed]

theorem download_eq_some {context : UserContext} (case_mem : case ∈ db.cases)
    (visible : (db.visibleCase context case.id).isSome = true) (member : document ∈ db.documents) :
    db.downloadCustomerCaseDocument context case.id document.id = some document ↔
      document.customerCaseId = case.id ∧ document.documentStatus ≠ .archived := by
  obtain ⟨shown, found⟩ := Option.isSome_iff_exists.mp visible
  have located : db.cases.find? case.id = some case := Table.find?_eq_some.mpr ⟨case_mem, rfl⟩
  have shown_eq : shown = case := by
    unfold CrmDatabase.visibleCase at found
    rw [located, Option.filter_eq_some_iff] at found
    exact (Option.some.inj found.1).symm
  have stored : db.documents.find? document.id = some document :=
    Table.find?_eq_some.mpr ⟨member, rfl⟩
  subst shown_eq
  simp [CrmDatabase.downloadCustomerCaseDocument, found, stored, Option.filter_eq_some_iff]

theorem mem_export {context : UserContext} {customerId : Nat} (case_mem : case ∈ db.cases)
    (owned : case.customerId = some customerId) (shown : db.showsCase context case = true)
    (member : document ∈ db.documents) :
    (case, document) ∈ db.customerExportDocumentRows context customerId ↔
      document.customerCaseId = case.id ∧ document.archivedAt = none := by
  have listed : document ∈ db.documents.rows := member
  have case_listed : case ∈ db.cases.rows := case_mem
  simp only [CrmDatabase.showsCase, owned, Option.bind_some, Bool.and_eq_true] at shown
  obtain ⟨customer, visible⟩ := Option.isSome_iff_exists.mp shown.2
  have customer_id : customer.id = customerId := by
    unfold CrmDatabase.visibleCustomer at visible
    rw [Option.filter_eq_some_iff] at visible
    exact (Table.find?_eq_some.mp visible.1).2
  simp only [CrmDatabase.customerExportDocumentRows, visible, List.mem_flatMap, List.mem_map,
    List.mem_filter, Prod.mk.injEq, decide_eq_true_eq, Bool.and_eq_true, Option.isNone_iff_eq_none]
  constructor
  · rintro ⟨_, -, found, ⟨-, in_case, unstamped⟩, rfl, rfl⟩
    exact ⟨in_case, unstamped⟩
  · rintro ⟨in_case, unstamped⟩
    exact ⟨case, ⟨case_listed, by rw [owned, customer_id]⟩, document, ⟨listed, in_case, unstamped⟩,
      rfl, rfl⟩

theorem readersAgree_of_consistent (consistent : AllConsistent db) :
    ReadersAgree db := by
  intro context case case_mem customerId owned shown visible document member
  have stamped := (consistent document member).stamped
  rw [mem_customersStateDocuments member, download_eq_some case_mem visible member,
    mem_export case_mem owned shown member]
  refine ⟨Iff.rfl, and_congr_right fun _ => ?_⟩
  rw [ne_eq, stamped, Bool.not_eq_true, Option.isSome_eq_false_iff, Option.isNone_iff_eq_none]

/-- Along the run the documents are consistent, archived ones stay archived and the readers
agree. -/
structure StaysArchived (start : CrmDatabase) (calls : List DocumentCall) : Prop where
  consistent : ∀ before, before <+: calls →
    AllConsistent (before.foldl CrmDatabase.serveDocument start)
  archived : ∀ before later, before ++ later <+: calls →
    ∀ document ∈ (before.foldl CrmDatabase.serveDocument start).documents,
      document.documentStatus = .archived →
        ∀ kept ∈ ((before ++ later).foldl CrmDatabase.serveDocument start).documents,
          kept.id = document.id → kept.documentStatus = .archived
  readers : ∀ before, before <+: calls → ReadersAgree (before.foldl CrmDatabase.serveDocument start)

theorem staysArchived_of_careful {start : CrmDatabase} {calls : List DocumentCall}
    (initial : AllConsistent start)
    (careful : Steps CrmDatabase.serveDocument Careful start calls) :
    StaysArchived start calls := by
  have consistent : ∀ before, before <+: calls →
      AllConsistent (before.foldl CrmDatabase.serveDocument start) := by
    rintro before ⟨later, rfl⟩
    exact careful.initial.invariant AllConsistent initial fun db call holds careful =>
      (advances_step db call careful).consistent holds
  refine ⟨consistent, ?_,
    fun before begins => readersAgree_of_consistent (consistent before begins)⟩
  rintro before later ⟨rest, rfl⟩ document member archived kept kept_mem same_id
  rw [List.append_assoc] at careful
  have kept_archived := keepsArchived_run careful.suffix.initial document member archived
  rw [← List.foldl_append] at kept_archived
  obtain ⟨found, found_mem, found_id, found_archived⟩ := kept_archived
  rw [Table.eq_of_key kept_mem found_mem (same_id.trans found_id.symm)]
  exact found_archived

def oneCase : CrmDatabase :=
  { CrmDatabase.empty with
    customers := ⟨[⟨1, some 1, true⟩], by simp⟩
    cases := ⟨[⟨1, some 1, some 1, none, none, true, 0⟩], by simp⟩ }

def someUser : UserContext := ⟨1, false, [1]⟩

/-- A form without a file that asks for no status. -/
def planForm (replaces : Option Nat) : DocumentRequest :=
  ⟨"Plan", "planning", "plan", "", "", "1", replaces, ""⟩

def replaceArchived : List DocumentCall :=
  [.create someUser 1 (planForm none) (.ok none) 10, .archive someUser 1 1 20,
    .create someUser 1 (planForm (some 1)) (.ok none) 30]

end SkillCentric.Crm.ArchivedDocuments
