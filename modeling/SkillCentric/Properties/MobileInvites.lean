import SkillCentric.Crm.MobileIdentities
import SkillCentric.Library.Stateful

/-!
# Mobile invites

Who a mobile login lets in.  Authorisation always goes through an active row that carries the
subject, and a row never changes the subject it carries.  An invite lets its subject in exactly as
long as no row carries the subject yet and no second invite waits for the same e-mail: otherwise
the claim would put the subject on two rows, the unique index refuses the statement and the login
fails.
-/

namespace SkillCentric.Crm

open SkillCentric Slug

namespace MobileDatabase

variable {locale : Locale} {db after : MobileDatabase locale}

theorem store?_eq_some {identities : Table MobileAppIdentity} :
    db.store? identities = some after ↔
      after.users = db.users ∧ after.identities = identities := by
  obtain ⟨users, rows, sound⟩ := after
  unfold store?
  split
  · rename_i holds
    constructor
    · intro same
      cases same
      exact ⟨rfl, rfl⟩
    · rintro ⟨rfl, rfl⟩
      rfl
  · rename_i fails
    refine ⟨fun same => (by cases same), ?_⟩
    rintro ⟨rfl, rfl⟩
    exact (fails sound).elim

theorem store?_isSome {identities : Table MobileAppIdentity} :
    (db.store? identities).isSome ↔ Sound locale db.users identities := by
  unfold store?
  split <;> simp_all

theorem eq_of_subject (db : MobileDatabase locale) {row other : MobileAppIdentity}
    (row_mem : row ∈ db.identities) (other_mem : other ∈ db.identities) {subject : Text}
    (row_carries : row.appleSubject = some subject)
    (other_carries : other.appleSubject = some subject) : row = other :=
  (db.identities.nodup_filterMap_iff _).mp db.sound.subjects row row_mem other other_mem subject
    row_carries other_carries

end MobileDatabase

theorem mobileAppleSession_eq_ok {locale : Locale} {request : AppleSessionRequest} {now : Datetime}
    {db after : MobileDatabase locale} {session : AppleSession} :
    mobileAppleSession request now db = .ok (session, after) ↔
      ∃ login, request.login locale = .ok login ∧ session = login.answer now db ∧
        db.store? (login.written now db.identities) = some after := by
  unfold mobileAppleSession
  rw [Stateful.bind_eq_ok]
  refine exists_congr fun login => and_congr_right fun _ => ?_
  cases db.store? (login.written now db.identities) with
  | none => simp
  | some stored => simp [eq_comm]

namespace Login

variable {locale : Locale} {login : Login} {now : Datetime} {row : MobileAppIdentity}

theorem carries_iff :
    login.carries row = true ↔ row.appleSubject = some login.subject := by
  simp [carries]

theorem isActiveSubject_iff :
    login.isActiveSubject row = true ↔
      row.appleSubject = some login.subject ∧ row.status = .active := by
  simp [isActiveSubject, carries]

theorem isInvite_iff :
    login.isInvite row = true ↔
      row.status = .pending ∧ row.appleSubject = none ∧
        row.expectedAppleEmail = some login.email ∧ login.verified = true := by
  simp [isInvite, and_assoc]

theorem updated_of_active {fresh : Bool}
    (active : login.isActiveSubject row = true) : login.updated now fresh row = seen now row := by
  simp [updated, active]

theorem updated_of_invite (invite : login.isInvite row = true) :
    login.updated now true row = login.claim now row := by
  have idle : login.isActiveSubject row = false := by
    rw [Bool.eq_false_iff]
    intro active
    rw [isActiveSubject_iff, (isInvite_iff.mp invite).2.1] at active
    cases active.1
  simp [updated, idle, invite]

theorem updated_subject {fresh : Bool} {subject : Text}
    (carried : row.appleSubject = some subject) :
    (login.updated now fresh row).appleSubject = some subject := by
  have claimed : login.isInvite row = false := by
    rw [Bool.eq_false_iff, ne_eq, isInvite_iff, carried]
    simp
  unfold updated
  split
  · exact carried
  · simpa [claimed] using carried

theorem mem_written {table : Table MobileAppIdentity} (member : row ∈ table) :
    login.updated now (login.activeSubject table.rows).isEmpty row ∈ login.written now table :=
  Table.mem_insertAll.mpr (.inl (Table.mem_update.mpr ⟨row, member, rfl⟩))

end Login

namespace MobileInvites

open MobileDatabase

variable {locale : Locale}

/-- An active identity of an active user has the subject. -/
def Admits (db : MobileDatabase locale) (subject : Text) : Prop :=
  ∃ row ∈ db.identities, row.appleSubject = some subject ∧ row.status = .active ∧
    ∃ user ∈ db.users, row.userId = some user.id ∧ user.isActive = true

/-- The login is answered with an authorised user. -/
def authorises (db : MobileDatabase locale) (request : AppleSessionRequest)
    (now : Datetime) : Bool :=
  match mobileAppleSession request now db with
  | .ok (session, _) => session.authorized
  | .error _ => false

variable {request : AppleSessionRequest} {now : Datetime}

theorem authorises_iff {db : MobileDatabase locale} :
    authorises db request now = true ↔
      ∃ session after, mobileAppleSession request now db = .ok (session, after) ∧
        session.authorized = true := by
  unfold authorises
  cases mobileAppleSession request now db with
  | error error => simp
  | ok outcome => simp [Prod.ext_iff]

theorem selectedUser_eq_some {users : Table User} {selected : Option MobileAppIdentity}
    {user : User} (found : Login.selectedUser users selected = some user) :
    ∃ identity, selected = some identity ∧ identity.status = .active ∧
      identity.userId = some user.id ∧ user ∈ users ∧ user.isActive = true := by
  cases selected with
  | none => cases found
  | some identity =>
      cases owner : identity.userId with
      | none => simp [Login.selectedUser, owner] at found
      | some userId =>
          cases located : users.find? userId with
          | none => simp [Login.selectedUser, owner, located] at found
          | some candidate =>
              obtain ⟨member, key⟩ := Table.find?_eq_some.mp located
              simp only [Login.selectedUser, owner, located, Option.bind_eq_bind,
                Option.bind_some, Option.ite_none_right_eq_some, Option.some.injEq] at found
              obtain ⟨⟨active, works⟩, rfl⟩ := found
              exact ⟨identity, rfl, active, by rw [owner, ← key]; rfl, member, works⟩

theorem written_of_selected {login : Login} {table : Table MobileAppIdentity}
    {identity : MobileAppIdentity} (selected : login.selectedIdentity now table = some identity)
    (active : identity.status = .active) :
    ∃ row ∈ login.written now table, row.appleSubject = some login.subject ∧
      row.status = .active ∧ row.userId = identity.userId := by
  have candidate := List.mem_of_head? selected
  simp only [List.mem_append, List.mem_map, or_assoc] at candidate
  rcases candidate with ⟨row, found, rfl⟩ | ⟨row, found, rfl⟩ | fresh | found
  · obtain ⟨member, is_active⟩ := List.mem_filter.mp found
    refine ⟨_, Login.mem_written member, ?_⟩
    rw [Login.updated_of_active is_active]
    exact ⟨(Login.isActiveSubject_iff.mp is_active).1, active, rfl⟩
  · unfold Login.claimedInvite at found
    split at found
    · rename_i none_active
      obtain ⟨member, is_invite⟩ := List.mem_filter.mp found
      refine ⟨_, Login.mem_written member, ?_⟩
      rw [none_active, Login.updated_of_invite is_invite]
      exact ⟨rfl, rfl, rfl⟩
    · cases found
  · split at fresh
    · rw [List.mem_singleton.mp fresh] at active
      cases active
    · cases fresh
  · obtain ⟨member, carries⟩ := List.mem_filter.mp found
    have is_active : login.isActiveSubject identity = true :=
      Login.isActiveSubject_iff.mpr ⟨Login.carries_iff.mp carries, active⟩
    refine ⟨_, Login.mem_written member, ?_⟩
    rw [Login.updated_of_active is_active]
    exact ⟨Login.carries_iff.mp carries, active, rfl⟩

theorem login_subject {login : Login} (accepted : request.login locale = .ok login) :
    login.subject = strip request.appleSubject ∧ login.subject ≠ [] := by
  unfold AppleSessionRequest.login at accepted
  simp only at accepted
  split at accepted
  · cases accepted
  · rename_i named
    split at accepted
    · cases accepted
    · cases accepted
      exact ⟨rfl, fun empty => named (by simpa using empty)⟩

theorem admits_of_authorised {db after : MobileDatabase locale} {session : AppleSession}
    (answered : mobileAppleSession request now db = .ok (session, after))
    (authorised : session.authorized = true) : Admits after (strip request.appleSubject) := by
  obtain ⟨login, accepted, rfl, stored⟩ := mobileAppleSession_eq_ok.mp answered
  obtain ⟨same_users, same_rows⟩ := store?_eq_some.mp stored
  obtain ⟨user, found⟩ := Option.isSome_iff_exists.mp authorised
  obtain ⟨identity, selected, active, owner, user_mem, works⟩ := selectedUser_eq_some found
  obtain ⟨row, row_mem, carries, row_active, same_owner⟩ := written_of_selected selected active
  refine ⟨row, same_rows ▸ row_mem, ?_, row_active, user, same_users ▸ user_mem, ?_, works⟩
  · rw [carries, (login_subject accepted).1]
  · rw [same_owner, owner]

/-- The rows of the first database are there in the second, and those that carry a subject still
carry it. -/
def KeepsSubjects (before after : MobileDatabase locale) : Prop :=
  ∀ row ∈ before.identities, ∃ kept ∈ after.identities, kept.id = row.id ∧
    ∀ subject, row.appleSubject = some subject → kept.appleSubject = some subject

variable (db : MobileDatabase locale)

theorem keepsSubjects_refl : KeepsSubjects db db :=
  fun row member => ⟨row, member, rfl, fun _ carried => carried⟩

theorem KeepsSubjects.trans {first second third : MobileDatabase locale}
    (start : KeepsSubjects first second) (later : KeepsSubjects second third) :
    KeepsSubjects first third := by
  intro row member
  obtain ⟨kept, kept_mem, kept_id, kept_subject⟩ := start row member
  obtain ⟨last, last_mem, last_id, last_subject⟩ := later kept kept_mem
  exact ⟨last, last_mem, last_id.trans kept_id, fun subject carried =>
    last_subject subject (kept_subject subject carried)⟩

theorem keepsSubjects_of_login {db after : MobileDatabase locale} {session : AppleSession}
    (answered : mobileAppleSession request now db = .ok (session, after)) :
    KeepsSubjects db after := by
  obtain ⟨login, -, -, stored⟩ := mobileAppleSession_eq_ok.mp answered
  obtain ⟨-, same_rows⟩ := store?_eq_some.mp stored
  intro row member
  exact ⟨_, same_rows ▸ Login.mem_written member, login.id_updated now _ row,
    fun subject carried => Login.updated_subject carried⟩

theorem keepsSubjects_of_store {db : MobileDatabase locale} {identities : Table MobileAppIdentity}
    (keeps : ∀ row ∈ db.identities, ∃ kept ∈ identities, kept.id = row.id ∧
      ∀ subject, row.appleSubject = some subject → kept.appleSubject = some subject) :
    KeepsSubjects db ((db.store? identities).getD db) := by
  cases stored : db.store? identities with
  | none => exact keepsSubjects_refl db
  | some after =>
      intro row member
      rw [Option.getD_some, (store?_eq_some.mp stored).2]
      exact keeps row member

theorem keepsSubjects_step (event : MobileEvent) :
    KeepsSubjects db (db.step event) := by
  cases event with
  | login request now =>
      cases answered : mobileAppleSession request now db with
      | error error =>
          simp only [step, answered]
          exact keepsSubjects_refl db
      | ok outcome =>
          simp only [step, answered]
          exact keepsSubjects_of_login answered
  | invite userId email =>
      refine keepsSubjects_of_store fun row member => ?_
      exact ⟨row, Table.mem_insertAll.mpr (.inl member), rfl, fun _ carried => carried⟩
  | revoke id now =>
      refine keepsSubjects_of_store fun row member => ?_
      refine ⟨_, Table.mem_update.mpr ⟨row, member, rfl⟩, id_revoked id now row, ?_⟩
      intro subject carried
      unfold revoked
      split <;> exact carried

theorem keepsSubjects_run (events : List MobileEvent) :
    KeepsSubjects db (events.foldl step db) := by
  induction events generalizing db with
  | nil => exact keepsSubjects_refl db
  | cons event rest ih => exact (keepsSubjects_step db event).trans (ih _)

theorem btrim_ne_nil_of_strip {text : Text} (named : strip text ≠ []) :
    btrim (strip text) ≠ [] := by
  intro blank
  have spaces : ∀ c ∈ strip text, (c == ' ') = true := by
    unfold btrim stripChars at blank
    rw [List.rdropWhile_eq_nil_iff] at blank
    intro c member
    by_contra other
    have kept : (strip text).dropWhile (· == ' ') ≠ [] := by
      rw [ne_eq, List.dropWhile_eq_nil_iff]
      exact fun all => other (all c member)
    have first := blank _ (List.head_mem kept)
    exact absurd first (by simpa using List.head_dropWhile_not (· == ' ') kept)
  have kept : text.dropWhile isSpace ≠ [] := by
    intro empty
    exact named (by simp [strip, stripChars, empty])
  have last := List.rdropWhile_last_not isSpace (text.dropWhile isSpace) named
  have space := spaces _ (List.getLast_mem named)
  rw [beq_iff_eq] at space
  exact last (by unfold strip stripChars at space; rw [space]; decide)

section Invite

variable {db : MobileDatabase locale} {login : Login} {invite : MobileAppIdentity}
  (now : Datetime) (invite_mem : invite ∈ db.identities) (is_invite : login.isInvite invite = true)
  (unsettled : ∀ row ∈ db.identities, login.carries row = true →
    row.status ≠ .active ∧ row.status ≠ .revoked)

include unsettled in
theorem activeSubject_eq_nil : login.activeSubject db.identities.rows = [] := by
  refine List.filter_eq_nil_iff.mpr fun row member is_active => ?_
  obtain ⟨carries, active⟩ := Login.isActiveSubject_iff.mp is_active
  exact (unsettled row member (Login.carries_iff.mpr carries)).1 active

include unsettled in
theorem claimedInvite_eq :
    login.claimedInvite db.identities.rows = db.identities.rows.filter login.isInvite := by
  simp [Login.claimedInvite, activeSubject_eq_nil unsettled]

include unsettled invite_mem is_invite in
private theorem requests_eq_false : login.requests db.identities.rows = false := by
  have claimed : (login.claimedInvite db.identities.rows).isEmpty = false := by
    rw [claimedInvite_eq unsettled, List.isEmpty_eq_false_iff_exists_mem]
    exact ⟨invite, List.mem_filter.mpr ⟨invite_mem, is_invite⟩⟩
  simp [Login.requests, claimed]

include unsettled invite_mem is_invite in
theorem written_rows :
    (login.written now db.identities).rows = db.identities.rows.map (login.updated now true) := by
  have idle : (login.activeSubject db.identities.rows).isEmpty = true := by
    rw [activeSubject_eq_nil unsettled]
    rfl
  simp only [Login.written, idle, requests_eq_false invite_mem is_invite unsettled,
    Bool.false_eq_true, if_false]
  exact List.append_nil _

include unsettled invite_mem is_invite in
theorem alone_of_sound (sound : Sound locale db.users (login.written now db.identities)) :
    (∀ row ∈ db.identities, login.carries row = false) ∧
      ∀ other ∈ db.identities, login.isInvite other = true → other = invite := by
  have rows := written_rows now invite_mem is_invite unsettled
  have updated_mem : ∀ row ∈ db.identities,
      login.updated now true row ∈ login.written now db.identities := by
    intro row member
    rw [Table.mem_iff, rows]
    exact List.mem_map_of_mem member
  have unique := (Table.nodup_filterMap_iff _ _).mp sound.subjects
  have claimed := updated_mem invite invite_mem
  rw [Login.updated_of_invite is_invite] at claimed
  -- every row that ends up with the subject is the claimed invite
  have same_id : ∀ row ∈ db.identities,
      (login.updated now true row).appleSubject = some login.subject → row = invite := by
    intro row member carries
    have same := unique _ (updated_mem row member) _ claimed login.subject carries rfl
    refine Table.eq_of_key member invite_mem ?_
    have ids := congrArg MobileAppIdentity.id same
    rw [login.id_updated] at ids
    exact ids
  constructor
  · intro row member
    rw [Bool.eq_false_iff]
    intro carries
    have carried := Login.carries_iff.mp carries
    have row_eq := same_id row member (Login.updated_subject carried)
    rw [row_eq, (Login.isInvite_iff.mp is_invite).2.1] at carried
    cases carried
  · intro other member other_invite
    refine same_id other member ?_
    rw [Login.updated_of_invite other_invite]
    rfl

include unsettled invite_mem is_invite in
theorem sound_of_alone {user : User} (owner : invite.userId = some user.id)
    (named : btrim login.subject ≠ [])
    (free : ∀ row ∈ db.identities, login.carries row = false)
    (alone : ∀ other ∈ db.identities, login.isInvite other = true → other = invite) :
    Sound locale db.users (login.written now db.identities) := by
  have rows := written_rows now invite_mem is_invite unsettled
  have same_or_claimed : ∀ row ∈ db.identities,
      login.updated now true row = row ∨
        row = invite ∧ login.updated now true row = login.claim now invite := by
    intro row member
    by_cases row_invite : login.isInvite row = true
    · right
      have row_eq := alone row member row_invite
      subst row_eq
      exact ⟨rfl, Login.updated_of_invite row_invite⟩
    · left
      have idle : login.isActiveSubject row = false := by
        simp [Login.isActiveSubject, free row member]
      simp [Login.updated, idle, row_invite]
  refine ⟨?_, ?_, ?_⟩
  · intro row member
    rw [rows] at member
    obtain ⟨old, old_mem, rfl⟩ := List.mem_map.mp member
    rcases same_or_claimed old old_mem with same | ⟨-, claimed⟩
    · rw [same]
      exact db.sound.checked old old_mem
    · rw [claimed]
      have checked := db.sound.checked invite invite_mem
      simp only [MobileAppIdentity.checks, Bool.and_eq_true] at checked ⊢
      refine ⟨⟨⟨?_, checked.1.1.2⟩, checked.1.2⟩, ?_⟩
      · simpa [Login.claim] using named
      · simp [Login.claim, owner]
  · refine (Table.nodup_filterMap_iff _ _).mpr ?_
    intro row row_mem other other_mem subject row_carries other_carries
    rw [Table.mem_iff, rows] at row_mem other_mem
    obtain ⟨old, old_mem, rfl⟩ := List.mem_map.mp row_mem
    obtain ⟨older, older_mem, rfl⟩ := List.mem_map.mp other_mem
    rcases same_or_claimed old old_mem with same | ⟨rfl, claimed⟩ <;>
      rcases same_or_claimed older older_mem with same' | ⟨rfl, claimed'⟩
    · rw [same] at row_carries ⊢
      rw [same'] at other_carries ⊢
      exact db.eq_of_subject old_mem older_mem row_carries other_carries
    · rw [claimed'] at other_carries
      rw [same] at row_carries
      cases other_carries
      exact absurd (Login.carries_iff.mpr row_carries) (by simp [free old old_mem])
    · rw [claimed] at row_carries
      rw [same'] at other_carries
      cases row_carries
      exact absurd (Login.carries_iff.mpr other_carries) (by simp [free older older_mem])
    · rfl
  · intro row member userId owned
    rw [rows] at member
    obtain ⟨old, old_mem, rfl⟩ := List.mem_map.mp member
    rcases same_or_claimed old old_mem with same | ⟨-, claimed⟩
    · rw [same] at owned
      exact db.sound.owners old old_mem userId owned
    · rw [claimed] at owned
      exact db.sound.owners invite invite_mem userId owned

include unsettled invite_mem is_invite in
theorem answer_authorized {user : User} (user_mem : user ∈ db.users)
    (owner : invite.userId = some user.id) (works : user.isActive = true)
    (alone : ∀ other ∈ db.identities, login.isInvite other = true → other = invite) :
    (login.answer now db).authorized = true := by
  have selected : login.selectedIdentity now db.identities = some (login.claim now invite) := by
    unfold Login.selectedIdentity
    rw [activeSubject_eq_nil unsettled, claimedInvite_eq unsettled]
    cases claimed : db.identities.rows.filter login.isInvite with
    | nil =>
        have found := List.mem_filter.mpr ⟨invite_mem, is_invite⟩
        rw [claimed] at found
        cases found
    | cons first rest =>
        have found : first ∈ db.identities.rows.filter login.isInvite := by simp [claimed]
        obtain ⟨first_mem, first_invite⟩ := List.mem_filter.mp found
        rw [alone first first_mem first_invite]
        rfl
  have located : db.users.find? user.id = some user := Table.find?_eq_some.mpr ⟨user_mem, rfl⟩
  simp [Login.answer, selected, Login.selectedUser, Login.claim, owner, located, works]

end Invite

/-- What holds of the identities in a state of the database. -/
structure Lawful (db : MobileDatabase locale) : Prop where
  admitted : ∀ request now session after, mobileAppleSession request now db = .ok (session, after) →
    session.authorized = true → Admits after (strip request.appleSubject)
  carried_once : ∀ row ∈ db.identities, ∀ other ∈ db.identities, ∀ subject,
    row.appleSubject = some subject → other.appleSubject = some subject → row = other
  claimed_once : ∀ later : List MobileEvent, ∀ row ∈ db.identities, ∀ subject,
    row.appleSubject = some subject →
      ∀ kept ∈ (later.foldl step db).identities, kept.id = row.id →
        kept.appleSubject = some subject

theorem lawful : Lawful db where
  admitted _ _ _ _ answered authorised := admits_of_authorised answered authorised
  carried_once row row_mem other other_mem subject row_carries other_carries :=
    db.eq_of_subject row_mem other_mem row_carries other_carries
  claimed_once later row row_mem subject carried kept kept_mem same_id := by
    obtain ⟨found, found_mem, found_id, found_subject⟩ := keepsSubjects_run db later row row_mem
    rw [Table.eq_of_key kept_mem found_mem (same_id.trans found_id.symm)]
    exact found_subject subject carried

/-- A pending unclaimed invite of an active user waits for the login's verified e-mail, and the
subject has no active or revoked identity. -/
structure Invited (db : MobileDatabase locale) (login : Login)
    (invite : MobileAppIdentity) : Prop where
  member : invite ∈ db.identities
  is_invite : login.isInvite invite = true
  user : ∃ user ∈ db.users, invite.userId = some user.id ∧ user.isActive = true
  unsettled : ∀ row ∈ db.identities, login.carries row = true →
    row.status ≠ .active ∧ row.status ≠ .revoked

/-- In every state that logins, invites and revocations reach, the identities are lawful, and an
invite lets its subject in if and only if no row carries the subject and no other unclaimed invite
waits for the e-mail. -/
theorem mobile_invites (start : MobileDatabase locale) (events : List MobileEvent) :
    Lawful (events.foldl step start) ∧
      ∀ request now login invite, request.login locale = .ok login →
        Invited (events.foldl step start) login invite →
        (authorises (events.foldl step start) request now = true ↔
          (∀ row ∈ (events.foldl step start).identities, login.carries row = false) ∧
          ∀ other ∈ (events.foldl step start).identities,
            login.isInvite other = true → other = invite) := by
  generalize events.foldl step start = db
  refine ⟨lawful db, ?_⟩
  intro request now login invite accepted invited
  obtain ⟨invite_mem, is_invite, ⟨user, user_mem, owner, works⟩, unsettled⟩ := invited
  rw [authorises_iff]
  constructor
  · rintro ⟨session, after, answered, -⟩
    obtain ⟨login', accepted', -, stored⟩ := mobileAppleSession_eq_ok.mp answered
    rw [accepted] at accepted'
    cases accepted'
    have sound := store?_isSome.mp (by rw [stored]; rfl)
    exact alone_of_sound now invite_mem is_invite unsettled sound
  · rintro ⟨free, alone⟩
    have named : btrim login.subject ≠ [] := by
      obtain ⟨subject_eq, nonempty⟩ := login_subject accepted
      rw [subject_eq] at nonempty ⊢
      exact btrim_ne_nil_of_strip nonempty
    have sound := sound_of_alone now invite_mem is_invite unsettled owner named free alone
    obtain ⟨after, stored⟩ := Option.isSome_iff_exists.mp (store?_isSome.mpr sound)
    exact ⟨_, after, mobileAppleSession_eq_ok.mpr ⟨login, accepted, rfl, stored⟩,
      answer_authorized now invite_mem is_invite unsettled user_mem owner works alone⟩

/-- One active user and no identity. -/
def oneUser : MobileDatabase .ascii where
  users := ⟨[⟨1, "Ada", "Muster", "a@dkh.de", true, []⟩], by simp⟩
  identities := .empty
  sound := by decide

/-- A login with a verified e-mail. -/
def appleLogin : AppleSessionRequest := ⟨"001", "a@b.de", "True"⟩

/-- The login, answered with a request, and then the invite for its e-mail. -/
def loginThenInvite : List MobileEvent := [.login appleLogin 10, .invite 1 "a@b.de"]

/-- The invite waits for the login's e-mail and its user is active, yet the login fails: the row of
the earlier login carries the subject. -/
theorem login_before_invite_locks_out :
    appleLogin.login .ascii = .ok ⟨"001", "a@b.de", true⟩ ∧
      (∃ invite ∈ (loginThenInvite.foldl step oneUser).identities.rows,
        (⟨"001", "a@b.de", true⟩ : Login).isInvite invite = true ∧
        ∃ user ∈ (loginThenInvite.foldl step oneUser).users.rows,
          invite.userId = some user.id ∧ user.isActive = true) ∧
      (∀ row ∈ (loginThenInvite.foldl step oneUser).identities.rows,
        (⟨"001", "a@b.de", true⟩ : Login).carries row = true →
          row.status ≠ .active ∧ row.status ≠ .revoked) ∧
      authorises (loginThenInvite.foldl step oneUser) appleLogin 20 = false := by
  refine ⟨rfl, ?_, ?_, ?_⟩ <;> decide

/-- An invite written before the first login lets the subject in. -/
theorem invite_before_login_authorises :
    authorises ([MobileEvent.invite 1 "a@b.de"].foldl step oneUser) appleLogin 20 =
      true := by
  refine ((mobile_invites oneUser [.invite 1 "a@b.de"]).2 appleLogin 20 ⟨"001", "a@b.de", true⟩
    (newInvite 1 "a@b.de" 1) rfl ⟨?_, ?_, ?_, ?_⟩).mpr ?_
  · exact (by decide : newInvite 1 "a@b.de" 1 ∈
      ([MobileEvent.invite 1 "a@b.de"].foldl step oneUser).identities.rows)
  · decide
  · exact (by decide : ∃ user ∈
      ([MobileEvent.invite 1 "a@b.de"].foldl step oneUser).users.rows,
        (newInvite 1 "a@b.de" 1).userId = some user.id ∧ user.isActive = true)
  · exact (by decide : ∀ row ∈
      ([MobileEvent.invite 1 "a@b.de"].foldl step oneUser).identities.rows,
        (⟨"001", "a@b.de", true⟩ : Login).carries row = true →
          row.status ≠ .active ∧ row.status ≠ .revoked)
  · exact (by decide : (∀ row ∈
      ([MobileEvent.invite 1 "a@b.de"].foldl step oneUser).identities.rows,
        (⟨"001", "a@b.de", true⟩ : Login).carries row = false) ∧
      ∀ other ∈ ([MobileEvent.invite 1 "a@b.de"].foldl step oneUser).identities.rows,
        (⟨"001", "a@b.de", true⟩ : Login).isInvite other = true →
          other = newInvite 1 "a@b.de" 1)

end MobileInvites

end SkillCentric.Crm
