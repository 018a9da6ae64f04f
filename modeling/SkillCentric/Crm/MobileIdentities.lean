import SkillCentric.Library.Serial
import SkillCentric.Runtime.TaskAnalyzer
import SkillCentric.Runtime.Timestamp

/-!
# Mobile app identities

`mobile_apple_session` resolves a verified Apple subject to a user of the CRM.  One statement tries
an active identity, a pending invite and a new request in turn; every part of it reads the tables
as they were when the statement began.  The constraints of the table are fields of the database, so
a statement that would break one leaves no database behind.
-/

namespace SkillCentric.Crm

open SkillCentric Slug

/-- Case mapping and character classes of the host language and of the database's collation. -/
structure Locale where
  /-- `str.lower`. -/
  lower : Text → Text
  /-- `str.upper`. -/
  upper : Text → Text
  /-- PostgreSQL's `lower`. -/
  sqlLower : Text → Text
  /-- The class `[[:alnum:]]`. -/
  isAlnum : Char → Bool

/-- The locale on ASCII text. -/
def Locale.ascii : Locale where
  lower := List.map Char.toLower
  upper := List.map Char.toUpper
  sqlLower := List.map Char.toLower
  isAlnum := Char.isAlphanum

/-- `btrim(text)`. -/
def btrim (text : Text) : Text := stripChars (· == ' ') text

/-- `NULLIF(text, '')`. -/
def nullIfEmpty (text : Text) : Option Text := if text.isEmpty then none else some text

/-- `position('@' IN text) > 1`. -/
def hasInnerAt : Text → Bool
  | [] => false
  | first :: rest => first != '@' && rest.contains '@'

/-- `normalize_bool` of a value already turned into text. -/
def normalizeBool (locale : Locale) (value : Text) : Bool :=
  decide (locale.lower value ∈ (["1", "true", "on", "yes"] : List Text))

/-- `ApiError`; a failed statement carries the server's own message. -/
inductive ApiError where
  | badRequest (message : Text)
  | notFound (message : Text)
  | database
  deriving DecidableEq

/-- A row of `app.users`, with the codes of its roles in order. -/
structure User where
  id : Nat
  firstName : Text
  lastName : Text
  email : Text
  isActive : Bool
  roles : List Text
  deriving DecidableEq

instance : Keyed User Nat := ⟨User.id⟩

inductive IdentityStatus where
  | pending
  | requested
  | active
  | revoked
  deriving DecidableEq, Repr

/-- A row of `app.mobile_app_identities`. -/
structure MobileAppIdentity where
  id : Nat
  userId : Option Nat
  appleSubject : Option Text
  expectedAppleEmail : Option Text
  status : IdentityStatus
  firstSeenAt : Option Datetime
  lastLoginAt : Option Datetime
  linkedAt : Option Datetime
  revokedAt : Option Datetime
  deriving DecidableEq

instance : Keyed MobileAppIdentity Nat := ⟨MobileAppIdentity.id⟩

/-- The `CHECK` constraints of the table. -/
def MobileAppIdentity.checks (locale : Locale) (row : MobileAppIdentity) : Bool :=
  row.appleSubject.all (fun subject => !(btrim subject).isEmpty) &&
  row.expectedAppleEmail.all (fun email => email == locale.sqlLower email) &&
  row.expectedAppleEmail.all hasInnerAt &&
  (row.status != .active || row.userId.isSome)

/-- What the constraints say of the identities: the checks of each row, one row for each subject,
and references to existing users. -/
structure Sound (locale : Locale) (users : Table User) (identities : Table MobileAppIdentity) :
    Prop where
  checked : ∀ row ∈ identities.rows, row.checks locale = true
  subjects : (identities.rows.filterMap (·.appleSubject)).Nodup
  owners : ∀ row ∈ identities.rows, ∀ userId ∈ row.userId, ∃ user ∈ users.rows, user.id = userId

instance (locale : Locale) (users : Table User) (identities : Table MobileAppIdentity) :
    Decidable (Sound locale users identities) :=
  decidable_of_iff
    ((∀ row ∈ identities.rows, row.checks locale = true) ∧
      (identities.rows.filterMap (·.appleSubject)).Nodup ∧
      ∀ row ∈ identities.rows, ∀ userId ∈ row.userId, ∃ user ∈ users.rows, user.id = userId)
    ⟨fun ⟨checked, subjects, owners⟩ => ⟨checked, subjects, owners⟩,
      fun sound => ⟨sound.checked, sound.subjects, sound.owners⟩⟩

/-- The tables a mobile login reads. -/
structure MobileDatabase (locale : Locale) where
  users : Table User
  identities : Table MobileAppIdentity
  sound : Sound locale users identities

namespace MobileDatabase

variable {locale : Locale}

/-- Write the identities, unless a constraint refuses them. -/
def store? (db : MobileDatabase locale) (identities : Table MobileAppIdentity) :
    Option (MobileDatabase locale) :=
  if sound : Sound locale db.users identities then some ⟨db.users, identities, sound⟩ else none

end MobileDatabase

/-- The fields of a login request, each as `str` gives it. -/
structure AppleSessionRequest where
  appleSubject : Text
  appleEmail : Text
  emailVerified : Text

/-- The statement's `payload`. -/
structure Login where
  subject : Text
  email : Text
  verified : Bool

/-- The checks before the statement. -/
def AppleSessionRequest.login (locale : Locale) (request : AppleSessionRequest) :
    Except ApiError Login :=
  let subject := strip request.appleSubject
  let email := locale.lower (strip request.appleEmail)
  let verified := normalizeBool locale request.emailVerified
  if subject.isEmpty then .error (.badRequest "apple_subject_required")
  else if !email.isEmpty && !email.contains '@' then .error (.badRequest "apple_email_invalid")
  else .ok ⟨subject, if verified then email else [], verified⟩

/-- The `user` object of the answer. -/
structure SessionUser where
  id : Nat
  displayName : Text
  email : Text
  roles : List Text
  deriving DecidableEq

/-- The answer to a login. -/
structure AppleSession where
  authorized : Bool
  status : IdentityStatus
  user : Option SessionUser
  deriving DecidableEq

namespace Login

variable {locale : Locale}

/-- The row carries the login's subject. -/
def carries (login : Login) (row : MobileAppIdentity) : Bool :=
  decide (row.appleSubject = some login.subject)

/-- The condition of `active_subject`. -/
def isActiveSubject (login : Login) (row : MobileAppIdentity) : Bool :=
  login.carries row && decide (row.status = .active)

/-- The row is an unclaimed invite for the login's e-mail: the condition of `claimed_invite` on the
row itself. -/
def isInvite (login : Login) (row : MobileAppIdentity) : Bool :=
  decide (row.status = .pending) && row.appleSubject.isNone &&
    decide (row.expectedAppleEmail = some login.email) && login.verified

/-- The rows of `active_subject`, as the statement finds them. -/
def activeSubject (login : Login) (rows : List MobileAppIdentity) : List MobileAppIdentity :=
  rows.filter login.isActiveSubject

/-- The rows of `claimed_invite`, as the statement finds them. -/
def claimedInvite (login : Login) (rows : List MobileAppIdentity) : List MobileAppIdentity :=
  if (login.activeSubject rows).isEmpty then rows.filter login.isInvite else []

/-- `requested_identity` inserts a row. -/
def requests (login : Login) (rows : List MobileAppIdentity) : Bool :=
  (login.activeSubject rows).isEmpty && (login.claimedInvite rows).isEmpty &&
    !rows.any login.carries

/-- `SET` of `active_subject`. -/
def seen (now : Datetime) (row : MobileAppIdentity) : MobileAppIdentity :=
  { row with lastLoginAt := some now }

/-- `SET` of `claimed_invite`. -/
def claim (login : Login) (now : Datetime) (row : MobileAppIdentity) : MobileAppIdentity :=
  { row with
    appleSubject := some login.subject
    status := .active
    firstSeenAt := row.firstSeenAt.or (some now)
    lastLoginAt := some now
    linkedAt := row.linkedAt.or (some now) }

/-- The row of `requested_identity`. -/
def request (login : Login) (now : Datetime) (id : Nat) : MobileAppIdentity where
  id := id
  userId := none
  appleSubject := some login.subject
  expectedAppleEmail := nullIfEmpty login.email
  status := .requested
  firstSeenAt := some now
  lastLoginAt := some now
  linkedAt := none
  revokedAt := none

/-- What the two updates make of a row; `fresh` tells that `active_subject` is empty. -/
def updated (login : Login) (now : Datetime) (fresh : Bool) (row : MobileAppIdentity) :
    MobileAppIdentity :=
  if login.isActiveSubject row then seen now row
  else if fresh && login.isInvite row then login.claim now row
  else row

theorem id_updated (login : Login) (now : Datetime) (fresh : Bool) (row : MobileAppIdentity) :
    (login.updated now fresh row).id = row.id := by
  unfold updated
  split
  · rfl
  · split <;> rfl

/-- The identities after the statement. -/
def written (login : Login) (now : Datetime) (table : Table MobileAppIdentity) :
    Table MobileAppIdentity :=
  (table.update (login.updated now (login.activeSubject table.rows).isEmpty)
      (login.id_updated now _)).insertAll
    (if login.requests table.rows then [()] else []) (fun id _ => login.request now id)
    fun _ _ => rfl

/-- `selected_identity`: the candidates in order of priority, the rows of the last kind being those
the statement began with. -/
def selectedIdentity (login : Login) (now : Datetime) (table : Table MobileAppIdentity) :
    Option MobileAppIdentity :=
  ((login.activeSubject table.rows).map (seen now) ++
    (login.claimedInvite table.rows).map (login.claim now) ++
    (if login.requests table.rows then [login.request now table.nextKey] else []) ++
    table.rows.filter login.carries).head?

/-- `selected_user`. -/
def selectedUser (users : Table User) (selected : Option MobileAppIdentity) : Option User := do
  let identity ← selected
  let userId ← identity.userId
  let user ← users.find? userId
  if identity.status = .active ∧ user.isActive = true then some user else none

/-- `concat_ws(' ', first_name, last_name)` and the other fields of the answer's user. -/
def sessionUser (user : User) : SessionUser where
  id := user.id
  displayName := user.firstName ++ (" " : Text) ++ user.lastName
  email := user.email
  roles := user.roles

/-- The row the statement selects. -/
def answer (login : Login) (now : Datetime) (db : MobileDatabase locale) : AppleSession :=
  let selected := login.selectedIdentity now db.identities
  let user := selectedUser db.users selected
  { authorized := user.isSome
    status := (selected.map (·.status)).getD .requested
    user := user.map sessionUser }

end Login

/-- `mobile_apple_session`. -/
def mobileAppleSession {locale : Locale} (request : AppleSessionRequest) (now : Datetime)
    (db : MobileDatabase locale) : Except ApiError (AppleSession × MobileDatabase locale) := do
  let login ← request.login locale
  match db.store? (login.written now db.identities) with
  | some after => .ok (login.answer now db, after)
  | none => .error .database

/-- What happens to the identities: logins, invites written by an operator, revocations. -/
inductive MobileEvent where
  | login (request : AppleSessionRequest) (now : Datetime)
  | invite (userId : Nat) (expectedAppleEmail : Text)
  | revoke (id : Nat) (now : Datetime)

namespace MobileDatabase

variable {locale : Locale}

/-- The row of a new invite. -/
def newInvite (userId : Nat) (expectedAppleEmail : Text) (id : Nat) : MobileAppIdentity where
  id := id
  userId := some userId
  appleSubject := none
  expectedAppleEmail := some expectedAppleEmail
  status := .pending
  firstSeenAt := none
  lastLoginAt := none
  linkedAt := none
  revokedAt := none

/-- A revoked row keeps its subject. -/
def revoked (id : Nat) (now : Datetime) (row : MobileAppIdentity) : MobileAppIdentity :=
  if row.id = id then { row with status := .revoked, revokedAt := some now } else row

theorem id_revoked (id : Nat) (now : Datetime) (row : MobileAppIdentity) :
    (revoked id now row).id = row.id := by
  unfold revoked
  split <;> rfl

/-- One event; a statement that fails changes nothing. -/
def step (db : MobileDatabase locale) : MobileEvent → MobileDatabase locale
  | .login request now =>
      match mobileAppleSession request now db with
      | .ok (_, after) => after
      | .error _ => db
  | .invite userId email =>
      (db.store? (db.identities.insertAll [()] (fun id _ => newInvite userId email id)
        fun _ _ => rfl)).getD db
  | .revoke id now =>
      (db.store? (db.identities.update (revoked id now) (id_revoked id now))).getD db

end MobileDatabase

end SkillCentric.Crm
