import SkillCentric.Crm.Tables
import SkillCentric.Library.SnapshotWrites

/-!
# Saving users and tasks

`upsert_user` and `update_task` each send one `WITH` query.  Its sub-statements delete the rows that
belong to the saved user or task and insert those that the form asks for, over one snapshot
and in an order of the server's own, which is an argument here.  Attachments are stored
after the task is saved.  No text holds a zero character, which `::jsonb` refuses.
-/

namespace SkillCentric.Crm

open SkillCentric Slug

/-- The fields of a form, each as `str` gives it. -/
abbrev Form := List (Text × Text)

/-- `str(data.get(key, default))`. -/
def Form.get (data : Form) (key default : Text) : Text := (data.lookup key).getD default

/-- `str(data.get(key, "")).strip()`. -/
def Form.stripped (data : Form) (key : Text) : Text := strip (data.get key [])

/-- `str(data.get(key, default)).strip() or default`. -/
def Form.orDefault (data : Form) (key default : Text) : Text :=
  let value := strip (data.get key default)
  if value.isEmpty then default else value

/-- `normalize_bool(data.get(key, default))`. -/
def Form.flag (locale : Locale) (data : Form) (key default : Text) : Bool :=
  normalizeBool locale (data.get key default)

/-- What `str` makes of an absent value. -/
def noneText : Text := "None"

/-- A row of `app.users`. -/
structure UserAccount where
  id : Nat
  firstName : Text
  lastName : Text
  email : Text
  phone : Option Text
  jobTitle : Option Text
  department : Option Text
  isActive : Bool
  isAdmin : Bool
  timezone : Text
  deriving DecidableEq

instance : Keyed UserAccount Nat := ⟨UserAccount.id⟩

/-- The `CHECK` constraints of `app.users`. -/
def UserAccount.checks (locale : Locale) (row : UserAccount) : Bool :=
  !(btrim row.email).isEmpty && hasInnerAt row.email && row.email == locale.sqlLower row.email &&
    !(btrim row.timezone).isEmpty && !(btrim row.firstName).isEmpty && !(btrim row.lastName).isEmpty

/-- A row of `app.roles`. -/
structure Role where
  id : Nat
  code : Text
  deriving DecidableEq

instance : Keyed Role Nat := ⟨Role.id⟩

/-- A row of `app.user_roles`. -/
structure UserRole where
  userId : Nat
  roleId : Nat
  assignedByUserId : Option Nat
  deriving DecidableEq

instance : Keyed UserRole (Nat × Nat) := ⟨fun row => (row.userId, row.roleId)⟩

/-- A row of `app.user_security_settings`. -/
structure SecuritySettings where
  userId : Nat
  externalIdentityProvider : Text
  passwordLoginEnabled : Bool
  mfaRequired : Bool
  deriving DecidableEq

instance : Keyed SecuritySettings Nat := ⟨SecuritySettings.userId⟩

/-- A row of `app.user_preferences`. -/
structure UserPreferences where
  userId : Nat
  timezone : Text
  deriving DecidableEq

instance : Keyed UserPreferences Nat := ⟨UserPreferences.userId⟩

/-- The tables a saved user is written to. -/
structure AccountTables where
  users : Table UserAccount
  roles : Table Role
  userRoles : Table UserRole
  securitySettings : Table SecuritySettings
  preferences : Table UserPreferences

/-- The query's payload. -/
structure UserPayload where
  id : Option Nat
  firstName : Text
  lastName : Text
  email : Text
  phone : Option Text
  jobTitle : Option Text
  department : Option Text
  isActive : Bool
  timezone : Text
  mfaRequired : Bool
  roles : List Text

/-- `selected_roles`. -/
def selectedRoles (locale : Locale) (data : Form) : List Text :=
  (["admin", "employee", "sales"] : List Text).filter fun code =>
    data.flag locale (("role_" : Text) ++ code) noneText

/-- The payload of `upsert_user`, or the error before the query. -/
def userPayload (locale : Locale) (data : Form) (userId : Option Nat) :
    Except ApiError UserPayload :=
  let firstName := data.stripped "first_name"
  let lastName := data.stripped "last_name"
  let email := locale.lower (data.stripped "email")
  if firstName.isEmpty || lastName.isEmpty || email.isEmpty then
    .error (.badRequest "first_name_last_name_email_required")
  else
    .ok {
      id := userId
      firstName, lastName, email
      phone := nullIfEmpty (data.stripped "phone")
      jobTitle := nullIfEmpty (data.stripped "job_title")
      department := nullIfEmpty (data.stripped "department")
      isActive := data.flag locale "is_active" noneText
      timezone := data.orDefault "timezone" "Europe/Berlin"
      mfaRequired := data.flag locale "mfa_required" "true"
      roles := selectedRoles locale data }

namespace UserPayload

variable (payload : UserPayload) (db : AccountTables)

/-- The row of the user as it is saved. -/
def account (id : Nat) : UserAccount where
  id := id
  firstName := payload.firstName
  lastName := payload.lastName
  email := payload.email
  phone := payload.phone
  jobTitle := payload.jobTitle
  department := payload.department
  isActive := payload.isActive
  isAdmin := decide (("admin" : Text) ∈ payload.roles)
  timezone := payload.timezone

/-- `target_user`: the id that `changed_user` or `updated_user` returns. -/
def targetUser : Option Nat :=
  match payload.id with
  | none => some db.users.nextKey
  | some id => (db.users.find? id).map UserAccount.id

/-- The roles of the form that exist, by their ids. -/
def roleIds : List Nat :=
  (db.roles.rows.filter fun role => decide (role.code ∈ payload.roles)).map Role.id

/-- The rows that `inserted_roles` offers. -/
def roleRows (userId : Nat) : List UserRole :=
  (payload.roleIds db).map fun roleId => ⟨userId, roleId, none⟩

end UserPayload

/-- The writing sub-statements of `upsert_user`. -/
inductive UserWrite where
  | changedUser
  | updatedUser
  | security
  | preferences
  | removedRoles
  | insertedRoles
  deriving DecidableEq, Repr

/-- All of them. -/
def UserWrite.all : List UserWrite :=
  [changedUser, updatedUser, security, preferences, removedRoles, insertedRoles]

/-- The tables while the query runs. -/
structure AccountDraft where
  users : Draft UserAccount
  userRoles : Draft UserRole
  securitySettings : Draft SecuritySettings
  preferences : Draft UserPreferences

namespace AccountDraft

/-- The tables as the query finds them. -/
def start (db : AccountTables) : AccountDraft where
  users := Draft.start db.users
  userRoles := Draft.start db.userRoles
  securitySettings := Draft.start db.securitySettings
  preferences := Draft.start db.preferences

/-- One sub-statement, which reads the snapshot `db`. -/
def write (payload : UserPayload) (db : AccountTables) (draft : AccountDraft) :
    UserWrite → AccountDraft
  | .changedUser =>
      match payload.id with
      | none => { draft with users := draft.users.insertRow (payload.account db.users.nextKey) }
      | some _ => draft
  | .updatedUser =>
      match payload.id with
      | none => draft
      | some id =>
          { draft with
            users := draft.users.update
              (fun row => if row.id = id then payload.account row.id else row)
              fun row => by split <;> rfl }
  | .security =>
      match payload.targetUser db with
      | none => draft
      | some userId =>
          { draft with
            securitySettings := draft.securitySettings.upsert
              ⟨userId, "cloudflare_access", false, payload.mfaRequired⟩
              (fun row => ⟨row.userId, "cloudflare_access", false, payload.mfaRequired⟩)
              fun _ => rfl }
  | .preferences =>
      match payload.targetUser db with
      | none => draft
      | some userId =>
          { draft with
            preferences := draft.preferences.upsert ⟨userId, payload.timezone⟩
              (fun row => ⟨row.userId, payload.timezone⟩) fun _ => rfl }
  | .removedRoles =>
      { draft with
        userRoles := draft.userRoles.write
          (.delete fun row => decide (payload.targetUser db = some row.userId)) }
  | .insertedRoles =>
      { draft with
        userRoles := draft.userRoles.write
          (.insert ((payload.targetUser db).toList.flatMap (payload.roleRows db))) }

/-- The tables as the query leaves them. -/
def tables (draft : AccountDraft) (db : AccountTables) : AccountTables where
  users := draft.users.table
  roles := db.roles
  userRoles := draft.userRoles.table
  securitySettings := draft.securitySettings.table
  preferences := draft.preferences.table

end AccountDraft

/-- `upsert_user` with the order of the sub-statements: the tables afterwards and the `user_id` of
the answer. -/
def upsertUser (locale : Locale) (order : List UserWrite) (data : Form) (userId : Option Nat)
    (db : AccountTables) : Except ApiError (AccountTables × Option Nat) := do
  let payload ← userPayload locale data userId
  let target := payload.targetUser db
  if target.all fun id => (payload.account id).checks locale then
    return ((order.foldl (AccountDraft.write payload db) (AccountDraft.start db)).tables db, target)
  else throw .database

/-- A row of `app.task_statuses`. -/
structure TaskStatus where
  id : Nat
  code : Text
  deriving DecidableEq

instance : Keyed TaskStatus Nat := ⟨TaskStatus.id⟩

/-- A row of `app.tasks`. -/
structure WorkTask where
  id : Nat
  title : Text
  description : Option Text
  statusId : Nat
  priority : Text
  dueAt : Option Datetime
  reminderAt : Option Datetime
  reminderEmailEnabled : Bool
  reminderOverviewEnabled : Bool
  relatedCaseId : Option Nat
  createdByUserId : Option Nat
  deletedAt : Option Datetime
  deriving DecidableEq

instance : Keyed WorkTask Nat := ⟨WorkTask.id⟩

/-- The `CHECK` constraints of `app.tasks`. -/
def WorkTask.checks (row : WorkTask) : Bool :=
  !(btrim row.title).isEmpty &&
    decide (row.priority ∈ (["low", "normal", "high", "urgent"] : List Text)) &&
    (row.reminderAt.isSome || !row.reminderEmailEnabled)

/-- A row of `app.task_assignments`. -/
structure TaskAssignment where
  taskId : Nat
  userId : Nat
  assignedByUserId : Option Nat
  deriving DecidableEq

instance : Keyed TaskAssignment (Nat × Nat) := ⟨fun row => (row.taskId, row.userId)⟩

inductive ReminderChannel where
  | overview
  | email
  deriving DecidableEq, Repr

/-- A row of `app.task_reminders`. -/
structure TaskReminder where
  taskId : Nat
  userId : Nat
  remindAt : Datetime
  channel : ReminderChannel
  sentAt : Option Datetime
  deriving DecidableEq

/-- The unique key of the reminders. -/
instance : Keyed TaskReminder (Nat × Nat × ReminderChannel) :=
  ⟨fun row => (row.taskId, row.userId, row.channel)⟩

/-- A row of `app.communication_events`, as a saved task writes it. -/
structure CommunicationEvent where
  id : Nat
  eventType : Text
  customerCaseId : Option Nat
  taskId : Option Nat
  actorUserId : Option Nat
  title : Text
  body : Option Text
  deriving DecidableEq

instance : Keyed CommunicationEvent Nat := ⟨CommunicationEvent.id⟩

/-- The tables a saved task is written to, and those it refers to. -/
structure TaskTables where
  users : Table UserAccount
  cases : Table CustomerCase
  statuses : Table TaskStatus
  tasks : Table WorkTask
  assignments : Table TaskAssignment
  reminders : Table TaskReminder
  events : Table CommunicationEvent

/-- The query's payload. -/
structure TaskPayload where
  taskId : Nat
  title : Text
  description : Option Text
  statusCode : Text
  priority : Text
  dueAt : Text
  reminderAt : Text
  reminderEmailEnabled : Bool
  reminderOverviewEnabled : Bool
  relatedCaseId : Option Nat
  assignedUserId : Nat
  context : UserContext

/-- The payload of `update_task`, or the error before the query; `assignedUserId` and
`relatedCaseId` are what the form names. -/
def taskPayload (locale : Locale) (data : Form) (taskId assignedUserId relatedCaseId : Option Nat)
    (context : UserContext) : Except ApiError TaskPayload :=
  match taskId with
  | none => .error (.badRequest "task_id_required")
  | some taskId =>
      let title := data.stripped "title"
      if title.isEmpty then .error (.badRequest "task_title_required")
      else
        .ok {
          taskId, title, relatedCaseId, context
          description := nullIfEmpty (data.stripped "description")
          statusCode := data.orDefault "status_code" "new"
          priority := data.orDefault "priority" "normal"
          dueAt := data.stripped "due_at"
          reminderAt := data.stripped "reminder_at"
          reminderEmailEnabled := data.flag locale "reminder_email_enabled" noneText
          reminderOverviewEnabled := data.flag locale "reminder_overview_enabled" "true"
          assignedUserId := assignedUserId.getD context.primaryUserId }

namespace TaskPayload

variable (payload : TaskPayload) (db : TaskTables)

/-- `visible_task`. -/
def visibleTask : Option WorkTask :=
  (db.tasks.find? payload.taskId).filter fun task =>
    task.deletedAt.isNone &&
      (payload.context.isAdmin || payload.context.inScope task.createdByUserId ||
        db.assignments.rows.any fun row =>
          decide (row.taskId = task.id) && payload.context.scopeUserIds.contains row.userId)

/-- `NULLIF(text, '')::timestamptz`. -/
def castTime (timestamptz : Text → Option Datetime) (text : Text) :
    Except ApiError (Option Datetime) :=
  match nullIfEmpty text with
  | none => .ok none
  | some text =>
      match timestamptz text with
      | none => .error .database
      | some time => .ok (some time)

/-- The channels that the form enables. -/
def enabled : ReminderChannel → Bool
  | .overview => payload.reminderOverviewEnabled
  | .email => payload.reminderEmailEnabled

/-- The row of the task as it is saved. -/
def savedTask (task : WorkTask) (status : TaskStatus) (dueAt reminderAt : Option Datetime) :
    WorkTask :=
  { task with
    title := payload.title
    description := payload.description
    statusId := status.id
    priority := payload.priority
    dueAt := dueAt
    reminderAt := reminderAt
    reminderEmailEnabled := payload.reminderEmailEnabled
    reminderOverviewEnabled := payload.reminderOverviewEnabled
    relatedCaseId := payload.relatedCaseId }

/-- The row that `overview_reminder` or `email_reminder` offers: its time is
`COALESCE(reminder_at, due_at)`. -/
def reminderRows (saved : WorkTask) (channel : ReminderChannel) : List TaskReminder :=
  if payload.enabled channel then
    (saved.reminderAt.or saved.dueAt).toList.map fun time =>
      ⟨saved.id, payload.assignedUserId, time, channel, none⟩
  else []

/-- The rows that the statement refers to exist. -/
def references : Bool :=
  (db.users.find? payload.assignedUserId).isSome &&
    (db.users.find? payload.context.primaryUserId).isSome &&
    payload.relatedCaseId.all fun id => (db.cases.find? id).isSome

end TaskPayload

/-- The writing sub-statements of `update_task`. -/
inductive TaskWrite where
  | updatedTask
  | deletedAssignments
  | assignment
  | deletedReminders
  | overviewReminder
  | emailReminder
  | event
  deriving DecidableEq, Repr

/-- All of them. -/
def TaskWrite.all : List TaskWrite :=
  [updatedTask, deletedAssignments, assignment, deletedReminders, overviewReminder, emailReminder,
    event]

/-- The tables while the query runs. -/
structure TaskDraft where
  tasks : Draft WorkTask
  assignments : Draft TaskAssignment
  reminders : Draft TaskReminder
  events : Draft CommunicationEvent

namespace TaskDraft

/-- The tables as the query finds them. -/
def start (db : TaskTables) : TaskDraft where
  tasks := Draft.start db.tasks
  assignments := Draft.start db.assignments
  reminders := Draft.start db.reminders
  events := Draft.start db.events

/-- One sub-statement, which reads the snapshot `db`; `saved` is what `updated_task` returns. -/
def write (payload : TaskPayload) (db : TaskTables) (saved : WorkTask) (draft : TaskDraft) :
    TaskWrite → TaskDraft
  | .updatedTask =>
      { draft with
        tasks := draft.tasks.update
          (fun row => if row.id = saved.id then saved else row)
          fun row => by
            split
            next same => exact same.symm
            next => rfl }
  | .deletedAssignments =>
      { draft with
        assignments := draft.assignments.write
          (.delete fun row =>
            decide (row.taskId = saved.id) && decide (row.userId ≠ payload.assignedUserId)) }
  | .assignment =>
      { draft with
        assignments := draft.assignments.upsert
          ⟨saved.id, payload.assignedUserId, some payload.context.primaryUserId⟩
          (fun row => { row with assignedByUserId := some payload.context.primaryUserId })
          fun _ => rfl }
  | .deletedReminders =>
      { draft with
        reminders := draft.reminders.write (.delete fun row => decide (row.taskId = saved.id)) }
  | .overviewReminder =>
      { draft with
        reminders := draft.reminders.write (.insert (payload.reminderRows saved .overview)) }
  | .emailReminder =>
      { draft with
        reminders := draft.reminders.write (.insert (payload.reminderRows saved .email)) }
  | .event =>
      { draft with
        events := draft.events.insertRow {
          id := db.events.nextKey
          eventType := "task_updated"
          customerCaseId := saved.relatedCaseId
          taskId := some saved.id
          actorUserId := some payload.context.primaryUserId
          title := payload.title
          body := payload.description } }

/-- The tables as the query leaves them. -/
def tables (draft : TaskDraft) (db : TaskTables) : TaskTables :=
  { db with
    tasks := draft.tasks.table
    assignments := draft.assignments.table
    reminders := draft.reminders.table
    events := draft.events.table }

end TaskDraft

/-- `update_task` with the order of the sub-statements: the tables afterwards and the `task_id` of
the answer. -/
def updateTask (locale : Locale) (timestamptz : Text → Option Datetime) (order : List TaskWrite)
    (data : Form) (taskId assignedUserId relatedCaseId : Option Nat) (context : UserContext)
    (db : TaskTables) : Except ApiError (TaskTables × Nat) := do
  let payload ← taskPayload locale data taskId assignedUserId relatedCaseId context
  match payload.visibleTask db with
  | none => throw (.notFound "task_not_found")
  | some task =>
      let dueAt ← TaskPayload.castTime timestamptz payload.dueAt
      let reminderAt ← TaskPayload.castTime timestamptz payload.reminderAt
      match db.statuses.rows.find? fun status => decide (status.code = payload.statusCode) with
      | none => throw .database
      | some status =>
          let saved := payload.savedTask task status dueAt reminderAt
          if saved.checks && payload.references db then
            return ((order.foldl (TaskDraft.write payload db saved) (TaskDraft.start db)).tables db,
              saved.id)
          else throw .database

end SkillCentric.Crm
