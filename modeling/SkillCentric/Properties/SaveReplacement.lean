import SkillCentric.Crm.WorkspaceSaves
import SkillCentric.Library.Stateful

/-!
# Saves that replace rows

The old rows of a user's roles and of a task's reminders are deleted by one sub-statement and the
new ones inserted by others.  Every order of them replaces the rows exactly when no old row has the
key of a new one: otherwise the new row is skipped and the old one deleted.
-/

namespace SkillCentric

open Crm

namespace SaveReplacement

variable {locale : Crm.Locale} {data : Form} {timestamptz : Text → Option Datetime}
variable {taskId assignedUserId relatedCaseId : Option Nat} {context : UserContext}

/-- In every order the saved user has the selected roles that exist, and no others. -/
def RolesReplaced (locale : Crm.Locale) (data : Form) (userId : Nat) (db : AccountTables) : Prop :=
  ∀ order : List UserWrite, order.Perm UserWrite.all → ∀ after answer,
    upsertUser locale order data (some userId) db = .ok (after, answer) → ∀ roleId,
      (∃ row ∈ after.userRoles, row.userId = userId ∧ row.roleId = roleId) ↔
        ∃ role ∈ db.roles, role.id = roleId ∧ role.code ∈ selectedRoles locale data

/-- The user does not have a selected role yet. -/
def RolesNew (locale : Crm.Locale) (data : Form) (userId : Nat) (db : AccountTables) : Prop :=
  ∀ row ∈ db.userRoles, row.userId = userId → ∀ role ∈ db.roles, role.id = row.roleId →
    role.code ∉ selectedRoles locale data

def roleWrite (payload : UserPayload) (db : AccountTables) : UserWrite → Option (Write UserRole)
  | .removedRoles => some (.delete fun row => decide (payload.targetUser db = some row.userId))
  | .insertedRoles => some (.insert ((payload.targetUser db).toList.flatMap (payload.roleRows db)))
  | _ => none

theorem userRoles_write (payload : UserPayload) (db : AccountTables) (draft : AccountDraft)
    (write : UserWrite) : (draft.write payload db write).userRoles =
      draft.userRoles.run (roleWrite payload db write).toList := by
  cases write with
  | changedUser | updatedUser =>
      simp only [AccountDraft.write]
      cases payload.id <;> rfl
  | security | preferences =>
      simp only [AccountDraft.write]
      cases payload.targetUser db <;> rfl
  | removedRoles => rfl
  | insertedRoles => rfl

theorem roleWrites_perm (payload : UserPayload) (db : AccountTables) {order : List UserWrite}
    (perm : order.Perm UserWrite.all) : (order.filterMap (roleWrite payload db)).Perm
      (Draft.replacing (fun row => decide (payload.targetUser db = some row.userId))
        [(payload.targetUser db).toList.flatMap (payload.roleRows db)]) :=
  perm.filterMap (roleWrite payload db)

theorem upsertUser_ok {order : List UserWrite} {userId : Option Nat} {db after : AccountTables}
    {answer : Option Nat} : upsertUser locale order data userId db = .ok (after, answer) ↔
      ∃ payload, userPayload locale data userId = .ok payload ∧
        (payload.targetUser db).all (fun id => (payload.account id).checks locale) = true ∧
        (order.foldl (AccountDraft.write payload db) (AccountDraft.start db)).tables db = after ∧
        payload.targetUser db = answer := by
  unfold upsertUser
  rw [Stateful.bind_eq_ok]
  refine exists_congr fun payload => and_congr_right fun _ => ?_
  dsimp only
  split_ifs with checked
  · simp [checked, pure, Except.pure]
  · simp [checked]

variable {payload : UserPayload} {db : AccountTables}

theorem userPayload_roles {userId : Option Nat}
    (read : userPayload locale data userId = .ok payload) :
    payload.id = userId ∧ payload.roles = selectedRoles locale data := by
  unfold userPayload at read
  dsimp only at read
  split_ifs at read
  cases read
  exact ⟨rfl, rfl⟩

theorem targetUser_eq {userId : Nat}
    (named : payload.id = some userId) {user : UserAccount} (exists_user : user ∈ db.users)
    (same : user.id = userId) : payload.targetUser db = some userId := by
  have found : db.users.find? userId = some user := Table.find?_eq_some.mpr ⟨exists_user, same⟩
  rw [UserPayload.targetUser, named]
  dsimp only
  rw [found, Option.map_some, same]

theorem mem_roleRows {userId : Nat} {row : UserRole} :
    row ∈ payload.roleRows db userId ↔
      ∃ role ∈ db.roles, role.code ∈ payload.roles ∧ row = ⟨userId, role.id, none⟩ := by
  simp [UserPayload.roleRows, UserPayload.roleIds, Table.mem_iff, and_assoc, eq_comm]

theorem roleRows_distinct (payload : UserPayload) (db : AccountTables) (userId : Nat) :
    ((payload.roleRows db userId).map Keyed.key).Nodup := by
  have ids : (payload.roleIds db).Nodup :=
    (List.filter_sublist.map Role.id).nodup db.roles.nodup
  rw [UserPayload.roleRows, List.map_map]
  exact ids.map fun _ _ same => congrArg Prod.snd same

theorem rolesReplaced_iff {userId : Nat} (existing : ∃ user ∈ db.users, user.id = userId)
    (saved : ∃ result, upsertUser locale UserWrite.all data (some userId) db = .ok result) :
    RolesReplaced locale data userId db ↔ RolesNew locale data userId db := by
  obtain ⟨user, user_mem, same⟩ := existing
  obtain ⟨⟨first, firstAnswer⟩, returned⟩ := saved
  obtain ⟨payload, read, checked, -, -⟩ := upsertUser_ok.mp returned
  obtain ⟨named, roles⟩ := userPayload_roles read
  have target := targetUser_eq named user_mem same
  have run (order : List UserWrite) :
      ((order.foldl (AccountDraft.write payload db) (AccountDraft.start db)).tables db).userRoles =
        ((Draft.start db.userRoles).run (order.filterMap (roleWrite payload db))).table :=
    congrArg Draft.table (Draft.run_view (userRoles_write payload db) order _)
  constructor
  · intro replaced row row_mem owned role role_mem sameRole selected
    let order : List UserWrite :=
      [.changedUser, .updatedUser, .security, .preferences, .insertedRoles, .removedRoles]
    have after := replaced order (by decide) _ _
      (upsertUser_ok.mpr ⟨payload, read, checked, rfl, rfl⟩) role.id
    obtain ⟨left, left_mem, left_owned, left_role⟩ := after.mpr ⟨role, role_mem, rfl, selected⟩
    rw [run] at left_mem
    refine Draft.key_lost row_mem ?_ [(payload.targetUser db).toList.flatMap (payload.roleRows db)]
      left left_mem ?_
    · rw [target, owned, decide_eq_true rfl]
    · rw [Prod.ext_iff]
      exact ⟨left_owned.trans owned.symm, left_role.trans sameRole⟩
  · intro new order perm after answer result roleId
    obtain ⟨_, again, -, rfl, -⟩ := upsertUser_ok.mp result
    cases read.symm.trans again
    have offered : (payload.targetUser db).toList.flatMap (payload.roleRows db) =
        payload.roleRows db userId := by
      rw [target, Option.toList_some, List.flatMap_singleton]
    have members (row : UserRole) := @Draft.mem_replaced UserRole _ _ _ db.userRoles _ _ _
      (roleWrites_perm payload db perm) (by
        rw [offered, List.flatten_singleton]
        exact roleRows_distinct payload db userId) (by
        rw [offered, List.flatten_singleton]
        intro fresh fresh_mem old old_mem sameKey
        obtain ⟨role, role_mem, selected, rfl⟩ := mem_roleRows.mp fresh_mem
        obtain ⟨owner, kind⟩ := Prod.ext_iff.mp sameKey
        exact new old old_mem owner role role_mem kind.symm (roles ▸ selected)) row
    rw [offered, List.flatten_singleton] at members
    rw [run]
    constructor
    · rintro ⟨row, row_mem, owned, sameRole⟩
      rcases (members row).mp row_mem with ⟨-, kept⟩ | added
      · rw [target, owned, decide_eq_true rfl] at kept
        cases kept
      · obtain ⟨role, role_mem, selected, rfl⟩ := mem_roleRows.mp added
        exact ⟨role, role_mem, sameRole, roles ▸ selected⟩
    · rintro ⟨role, role_mem, sameRole, selected⟩
      refine ⟨⟨userId, role.id, none⟩, (members _).mpr (.inr ?_), rfl, sameRole⟩
      exact mem_roleRows.mpr ⟨role, role_mem, roles ▸ selected, rfl⟩

def enabledChannel (locale : Crm.Locale) (data : Form) : ReminderChannel → Bool
  | .overview => data.flag locale "reminder_overview_enabled" "true"
  | .email => data.flag locale "reminder_email_enabled" noneText

def requestedTime (timestamptz : Text → Option Datetime) (data : Form) : Option Datetime :=
  ((nullIfEmpty (data.stripped "reminder_at")).or (nullIfEmpty (data.stripped "due_at"))).bind
    timestamptz

/-- In every order the saved task has one reminder for the assigned user on each enabled channel, at
the requested time, and no others. -/
def RemindersReplaced (locale : Crm.Locale) (timestamptz : Text → Option Datetime) (data : Form)
    (taskId assignedUserId relatedCaseId : Option Nat) (context : UserContext) (db : TaskTables) :
    Prop :=
  ∀ order : List TaskWrite, order.Perm TaskWrite.all → ∀ after answer,
    updateTask locale timestamptz order data taskId assignedUserId relatedCaseId context db =
      .ok (after, answer) → ∀ row,
        (row ∈ after.reminders ∧ row.taskId = answer) ↔
          ∃ channel time, enabledChannel locale data channel = true ∧
            requestedTime timestamptz data = some time ∧
            row = ⟨answer, assignedUserId.getD context.primaryUserId, time, channel, none⟩

/-- No time is requested, or the assigned user has no reminder of the task on an enabled channel. -/
def RemindersNew (locale : Crm.Locale) (timestamptz : Text → Option Datetime) (data : Form)
    (taskId assignedUserId : Option Nat) (context : UserContext) (db : TaskTables) : Prop :=
  requestedTime timestamptz data = none ∨
    ∀ row ∈ db.reminders, some row.taskId = taskId →
      row.userId = assignedUserId.getD context.primaryUserId →
      enabledChannel locale data row.channel = false

def reminderWrite (payload : TaskPayload) (saved : WorkTask) :
    TaskWrite → Option (Write TaskReminder)
  | .deletedReminders => some (.delete fun row => decide (row.taskId = saved.id))
  | .overviewReminder => some (.insert (payload.reminderRows saved .overview))
  | .emailReminder => some (.insert (payload.reminderRows saved .email))
  | _ => none

theorem reminders_write (payload : TaskPayload) (db : TaskTables) (saved : WorkTask)
    (draft : TaskDraft) (write : TaskWrite) : (draft.write payload db saved write).reminders =
      draft.reminders.run (reminderWrite payload saved write).toList := by
  cases write <;> rfl

def newReminders (payload : TaskPayload) (saved : WorkTask) : List (List TaskReminder) :=
  [payload.reminderRows saved .overview, payload.reminderRows saved .email]

theorem reminderWrites_perm (payload : TaskPayload) (saved : WorkTask) {order : List TaskWrite}
    (perm : order.Perm TaskWrite.all) : (order.filterMap (reminderWrite payload saved)).Perm
      (Draft.replacing (fun row => decide (row.taskId = saved.id)) (newReminders payload saved)) :=
  perm.filterMap (reminderWrite payload saved)

theorem mem_reminderRows {payload : TaskPayload} {saved : WorkTask} {channel : ReminderChannel}
    {row : TaskReminder} : row ∈ payload.reminderRows saved channel ↔
      payload.enabled channel = true ∧ ∃ time, saved.reminderAt.or saved.dueAt = some time ∧
        row = ⟨saved.id, payload.assignedUserId, time, channel, none⟩ := by
  unfold TaskPayload.reminderRows
  split_ifs with enabled
  · simp [enabled, eq_comm]
  · simp [enabled]

theorem mem_newReminders {payload : TaskPayload} {saved : WorkTask} {row : TaskReminder} :
    row ∈ (newReminders payload saved).flatten ↔ ∃ channel time, payload.enabled channel = true ∧
      saved.reminderAt.or saved.dueAt = some time ∧
      row = ⟨saved.id, payload.assignedUserId, time, channel, none⟩ := by
  rw [newReminders, List.flatten_cons, List.flatten_singleton, List.mem_append, mem_reminderRows,
    mem_reminderRows]
  constructor
  · rintro (⟨enabled, time, given, same⟩ | ⟨enabled, time, given, same⟩)
    · exact ⟨.overview, time, enabled, given, same⟩
    · exact ⟨.email, time, enabled, given, same⟩
  · rintro ⟨channel, time, enabled, given, same⟩
    cases channel with
    | overview => exact .inl ⟨enabled, time, given, same⟩
    | email => exact .inr ⟨enabled, time, given, same⟩

theorem newReminders_distinct (payload : TaskPayload) (saved : WorkTask) :
    ((newReminders payload saved).flatten.map Keyed.key).Nodup := by
  have one (channel : ReminderChannel) :
      ((payload.reminderRows saved channel).map Keyed.key).Nodup := by
    unfold TaskPayload.reminderRows
    split_ifs
    · cases saved.reminderAt.or saved.dueAt <;> simp
    · simp
  rw [newReminders, List.flatten_cons, List.flatten_singleton, List.map_append]
  refine (one .overview).append (one .email) ?_
  intro key left right
  obtain ⟨first, first_mem, rfl⟩ := List.mem_map.mp left
  obtain ⟨second, second_mem, same⟩ := List.mem_map.mp right
  obtain ⟨-, _, -, rfl⟩ := mem_reminderRows.mp first_mem
  obtain ⟨-, _, -, rfl⟩ := mem_reminderRows.mp second_mem
  cases (Prod.ext_iff.mp (Prod.ext_iff.mp same).2).2

/-- What a saved task went through: the same in every order. -/
structure Saving (locale : Crm.Locale) (timestamptz : Text → Option Datetime) (data : Form)
    (taskId assignedUserId relatedCaseId : Option Nat) (context : UserContext) (db : TaskTables)
    (payload : TaskPayload) (saved : WorkTask) : Prop where
  named : taskId = some saved.id
  assigned : payload.assignedUserId = assignedUserId.getD context.primaryUserId
  enabled : payload.enabled = enabledChannel locale data
  time : saved.reminderAt.or saved.dueAt = requestedTime timestamptz data
  returns : ∀ order, updateTask locale timestamptz order data taskId assignedUserId relatedCaseId
    context db =
      .ok ((order.foldl (TaskDraft.write payload db saved) (TaskDraft.start db)).tables db,
        saved.id)

theorem castTime_ok {text : Text} {time : Option Datetime}
    (cast : TaskPayload.castTime timestamptz text = .ok time) :
    (nullIfEmpty text = none ∧ time = none) ∨
      ∃ value given, nullIfEmpty text = some value ∧ timestamptz value = some given ∧
        time = some given := by
  unfold TaskPayload.castTime at cast
  cases found : nullIfEmpty text with
  | none =>
      rw [found] at cast
      cases cast
      exact .inl ⟨rfl, rfl⟩
  | some value =>
      rw [found] at cast
      dsimp only at cast
      cases parsed : timestamptz value with
      | none =>
          rw [parsed] at cast
          cases cast
      | some given =>
          rw [parsed] at cast
          cases cast
          exact .inr ⟨value, given, rfl, parsed, rfl⟩

theorem or_of_casts {payload : TaskPayload} {dueAt reminderAt : Option Datetime}
    (due : TaskPayload.castTime timestamptz payload.dueAt = .ok dueAt)
    (reminder : TaskPayload.castTime timestamptz payload.reminderAt = .ok reminderAt) :
    reminderAt.or dueAt =
      ((nullIfEmpty payload.reminderAt).or (nullIfEmpty payload.dueAt)).bind timestamptz := by
  rcases castTime_ok reminder with ⟨empty, rfl⟩ | ⟨value, given, nonempty, parsed, rfl⟩
  · rw [empty, Option.none_or, Option.none_or]
    rcases castTime_ok due with ⟨empty, rfl⟩ | ⟨value, given, nonempty, parsed, rfl⟩
    · rw [empty, Option.bind_none]
    · rw [nonempty, Option.bind_some, parsed]
  · rw [nonempty, Option.some_or, Option.some_or, Option.bind_some, parsed]

theorem saving_of_ok {order : List TaskWrite} {db : TaskTables} {result : TaskTables × Nat}
    (returned :
      updateTask locale timestamptz order data taskId assignedUserId relatedCaseId context db =
      .ok result) :
    ∃ payload saved, Saving locale timestamptz data taskId assignedUserId relatedCaseId context db
      payload saved := by
  unfold updateTask at returned
  obtain ⟨payload, read, returned⟩ := Stateful.bind_eq_ok.mp returned
  cases visible : payload.visibleTask db with
  | none =>
      rw [visible] at returned
      cases returned
  | some task =>
      rw [visible] at returned
      obtain ⟨dueAt, due, returned⟩ := Stateful.bind_eq_ok.mp returned
      obtain ⟨reminderAt, reminder, returned⟩ := Stateful.bind_eq_ok.mp returned
      cases known : db.statuses.rows.find? fun status =>
        decide (status.code = payload.statusCode) with
      | none =>
          rw [known] at returned
          cases returned
      | some status =>
          rw [known] at returned
          dsimp only at returned
          split_ifs at returned with checked
          refine ⟨payload, payload.savedTask task status dueAt reminderAt, ?_⟩
          have found : task.id = payload.taskId :=
            (Table.find?_eq_some.mp (Option.filter_eq_some_iff.mp visible).1).2
          have returns (other : List TaskWrite) : updateTask locale timestamptz other data taskId
              assignedUserId relatedCaseId context db =
                .ok ((other.foldl
                  (TaskDraft.write payload db (payload.savedTask task status dueAt reminderAt))
                  (TaskDraft.start db)).tables db, task.id) := by
            unfold updateTask
            simp only [read, visible, due, reminder, known, checked, bind, Except.bind]
            rfl
          have times := or_of_casts due reminder
          unfold taskPayload at read
          cases taskId with
          | none => cases read
          | some id =>
              dsimp only at read
              split_ifs at read
              cases read
              refine ⟨congrArg some found.symm, rfl, ?_, times, returns⟩
              funext channel
              cases channel <;> rfl

theorem remindersReplaced_iff {db : TaskTables}
    (saves : ∃ result, updateTask locale timestamptz TaskWrite.all data taskId assignedUserId
      relatedCaseId context db = .ok result) :
    RemindersReplaced locale timestamptz data taskId assignedUserId relatedCaseId context db ↔
      RemindersNew locale timestamptz data taskId assignedUserId context db := by
  obtain ⟨result, returned⟩ := saves
  obtain ⟨payload, saved, saving⟩ := saving_of_ok returned
  have run (order : List TaskWrite) :
      ((order.foldl (TaskDraft.write payload db saved) (TaskDraft.start db)).tables db).reminders =
        ((Draft.start db.reminders).run (order.filterMap (reminderWrite payload saved))).table :=
    congrArg Draft.table (Draft.run_view (reminders_write payload db saved) order _)
  constructor
  · intro replaced
    by_cases requested : requestedTime timestamptz data = none
    · exact .inl requested
    obtain ⟨time, requested⟩ := Option.ne_none_iff_exists'.mp requested
    refine .inr fun row row_mem named user => ?_
    by_contra enabled
    rw [Bool.not_eq_false] at enabled
    let order : List TaskWrite :=
      [.updatedTask, .deletedAssignments, .assignment, .overviewReminder, .emailReminder,
        .deletedReminders, .event]
    have after := replaced order (by decide) _ _ (saving.returns order)
      ⟨saved.id, assignedUserId.getD context.primaryUserId, time, row.channel, none⟩
    have left := (after.mpr ⟨row.channel, time, enabled, requested, rfl⟩).1
    rw [run] at left
    have owned : row.taskId = saved.id := Option.some.inj (named.trans saving.named)
    refine Draft.key_lost row_mem (decide_eq_true owned) (newReminders payload saved) _ left ?_
    simp only [Keyed.key, owned, user]
  · intro new order perm after answer result row
    cases (saving.returns order).symm.trans result
    have members := @Draft.mem_replaced TaskReminder _ _ _ db.reminders _ _ _
      (reminderWrites_perm payload saved perm) (newReminders_distinct payload saved) (by
        intro fresh fresh_mem old old_mem sameKey
        obtain ⟨channel, time, enabled, given, rfl⟩ := mem_newReminders.mp fresh_mem
        rw [saving.time] at given
        rcases new with absent | new
        · rw [absent] at given
          cases given
        · obtain ⟨task, rest⟩ := Prod.ext_iff.mp sameKey
          obtain ⟨user, kind⟩ := Prod.ext_iff.mp rest
          have disabled := new old old_mem ((congrArg some task).trans saving.named.symm)
            (user.trans saving.assigned)
          rw [show old.channel = channel from kind, ← saving.enabled, enabled] at disabled
          cases disabled) row
    rw [run, members, mem_newReminders, saving.enabled, saving.time, saving.assigned]
    constructor
    · rintro ⟨⟨-, kept⟩ | added, owned⟩
      · rw [owned, decide_eq_true rfl] at kept
        cases kept
      · exact added
    · rintro ⟨channel, time, enabled, given, rfl⟩
      exact ⟨.inr ⟨channel, time, enabled, given, rfl⟩, rfl⟩

/-- A save replaces the rows in every order exactly when no old row has the key of a new one. -/
theorem saving_exact (locale : Crm.Locale) :
    (∀ (data : Form) (userId : Nat) (db : AccountTables),
      (∃ user ∈ db.users, user.id = userId) →
      (∃ result, upsertUser locale UserWrite.all data (some userId) db = .ok result) →
      (RolesReplaced locale data userId db ↔ RolesNew locale data userId db)) ∧
    ∀ (timestamptz : Text → Option Datetime) (data : Form) (taskId assignedUserId relatedCaseId :
      Option Nat) (context : UserContext) (db : TaskTables),
      (∃ result, updateTask locale timestamptz TaskWrite.all data taskId assignedUserId
        relatedCaseId context db = .ok result) →
      (RemindersReplaced locale timestamptz data taskId assignedUserId relatedCaseId context db ↔
        RemindersNew locale timestamptz data taskId assignedUserId context db) :=
  ⟨fun _ _ _ existing saved => rolesReplaced_iff existing saved,
    fun _ _ _ _ _ _ _ saves => remindersReplaced_iff saves⟩

def salesForm : Form :=
  [("first_name", "Ada"), ("last_name", "Berg"), ("email", "ada@kitchen.example"),
    ("role_sales", "on")]

/-- One user, the role of sales, and the roles of the user. -/
def salesTables (roles : Table UserRole) : AccountTables where
  users := ⟨[⟨1, "Ada", "Berg", "ada@kitchen.example", none, none, none, true, false,
    "Europe/Berlin"⟩], by decide⟩
  roles := ⟨[⟨4, "sales"⟩], by decide⟩
  userRoles := roles
  securitySettings := Table.empty
  preferences := Table.empty

def reminderForm : Form := [("title", "Measure"), ("reminder_at", "09:00")]

def reminderTables (reminders : Table TaskReminder) : TaskTables where
  users := (salesTables Table.empty).users
  cases := Table.empty
  statuses := ⟨[⟨1, "new"⟩], by decide⟩
  tasks :=
    ⟨[⟨7, "Measure", none, 1, "normal", none, none, false, true, none, some 1, none⟩], by decide⟩
  assignments := Table.empty
  reminders := reminders
  events := Table.empty

theorem new_rows_saved :
    RolesReplaced .ascii salesForm 1 (salesTables Table.empty) ∧
      RemindersReplaced .ascii (fun _ => some 9) reminderForm (some 7) none none ⟨1, true, [1]⟩
        (reminderTables Table.empty) := by
  constructor
  · refine ((saving_exact .ascii).1 salesForm 1 (salesTables Table.empty) ?_ ?_).mpr ?_
    · exact ⟨_, List.mem_singleton_self _, rfl⟩
    · exact ⟨_, rfl⟩
    · exact fun row absent => nomatch absent
  · refine ((saving_exact .ascii).2 _ reminderForm _ _ _ _ (reminderTables Table.empty) ?_).mpr ?_
    · exact ⟨_, rfl⟩
    · exact .inr fun row absent => nomatch absent

/-- A user who is in sales and is saved as such may be in sales no more, and a task that is saved
with its reminder may lose it. -/
theorem kept_rows_lost :
    (∃ order : List UserWrite, order.Perm UserWrite.all ∧ ∃ after,
      upsertUser .ascii order salesForm (some 1) (salesTables ⟨[⟨1, 4, none⟩], by decide⟩) =
        .ok (after, some 1) ∧ after.userRoles.rows = []) ∧
    ∃ order : List TaskWrite, order.Perm TaskWrite.all ∧ ∃ after,
      updateTask .ascii (fun _ => some 9) order reminderForm (some 7) none none ⟨1, true, [1]⟩
        (reminderTables ⟨[⟨7, 1, 9, .overview, none⟩], by decide⟩) = .ok (after, 7) ∧
        after.reminders.rows = [] := by
  constructor
  · exact ⟨[.changedUser, .updatedUser, .security, .preferences, .insertedRoles, .removedRoles],
      by decide, _, rfl, rfl⟩
  · exact ⟨[.updatedTask, .deletedAssignments, .assignment, .overviewReminder, .emailReminder,
      .deletedReminders, .event], by decide, _, rfl, rfl⟩

end SaveReplacement

end SkillCentric
