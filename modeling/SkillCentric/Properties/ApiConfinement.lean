import SkillCentric.Library.Conduct
import SkillCentric.Properties.Ownership
import SkillCentric.Runtime.Api

/-!
# The tenants of API calls

The service looks up an item, checks its tenant and its area, and then works on it, while others go
on.  What a call has read stands in its past; items keep their identity, so what was checked still
holds when the item is written.
-/

namespace SkillCentric

open Program RuntimeQueueManager RuntimeApiService

namespace ApiConfinement

/-- The call has read the item. -/
def Read (past : Past Op Plane) (queueId : Text) (item : QueueItem) : Prop :=
  ∃ plane, (Op.getRuntimeQueueItem queueId, plane) ∈ past ∧ plane.items.get? queueId = some item

/-- The item belongs to the principal. -/
def Owned (principal : RuntimeApiPrincipal) (plane : Plane) (queueId : Text) : Prop :=
  ∃ item, plane.items.get? queueId = some item ∧
    item.tenantId = principal.tenantId ∧ item.areaId = principal.areaId

/-- The call has compared the tenant and the area of the item. -/
structure Checked (principal : RuntimeApiPrincipal) (past : Past Op Plane) (queueId : Text) :
    Prop where
  tenant : ∃ item, Read past queueId item ∧ item.tenantId = principal.tenantId
  area : ∃ item, Read past queueId item ∧ item.areaId = principal.areaId

/-- The operation queues an item of the principal's tenant. -/
def Queues (principal : RuntimeApiPrincipal) (op : Op) : Prop :=
  ∃ record, op = .insertRuntimeQueueItem record ∧
    record.tenantId = TaskAnalyzer.slugify principal.tenantId

/-- A profile of the principal's tenant was written to the path. -/
def Sealed (principal : RuntimeApiPrincipal) (past : Past Op Plane) (path : ArtifactPath) : Prop :=
  ∃ profile sha256 plane,
    (Op.writeJson (RuntimeEntryPoint.profileParts profile sha256) profile.toJson, plane) ∈ past ∧
      path = relativePath (RuntimeEntryPoint.profileParts profile sha256) ∧
      profile.tenantId = TaskAnalyzer.slugify (textOr (some principal.tenantId) "global")

/-- The run was begun by the call. -/
def Begun (past : Past Op Plane) (runId : Text) : Prop :=
  ∃ record plane, (Op.insertRuntimeRun record, plane) ∈ past ∧ record.id = runId

/-- The operation begins a run under a profile of the principal's tenant, or updates a run that the
call has begun. -/
def Executes (principal : RuntimeApiPrincipal) (past : Past Op Plane) : Op → Prop
  | .insertRuntimeRun record => Sealed principal past record.profileArtifactUri
  | .updateRuntimeRun runId _ => Begun past runId
  | _ => False

/-- The operation cancels the item, releases its claims, or cancels the run that the item named when
the call read it. -/
def Cancels (past : Past Op Plane) (queueId : Text) : Op → Prop
  | .updateRuntimeQueueItem target fields => target = queueId ∧ fields.status = .cancelled
  | .releaseRuntimeQueueClaims target _ _ => target = queueId
  | .updateRuntimeRun runId fields =>
      fields.status = .cancelled ∧ ∃ item, Read past queueId item ∧ item.runId = some runId
  | _ => False

/-- The operation queues an item under the key of a manual retry of the item that the call read. -/
def Retries (past : Past Op Plane) (queueId : Text) (op : Op) : Prop :=
  ∃ record item, op = .insertRuntimeQueueItem record ∧ Read past queueId item ∧
    record.idempotencyKey = retryKey { queueId } item

/-- What a call for a principal may do to items, runs and claims, where `owns` says which items are
the principal's. -/
def Keeping (owns : RuntimeApiPrincipal → Text → Prop) :
    Role ApiCall → Past Op Plane → Op → Prop
  | .operator (.startRun _ principal request), past, op =>
      op.quiet = true ∨
        if runImmediately request then Executes principal past op else Queues principal op
  | .operator (.cancelRun principal _), past, op =>
      op.quiet = true ∨ ∃ queueId, owns principal queueId ∧ Cancels past queueId op
  | .operator (.retryRun principal _), past, op =>
      op.quiet = true ∨ ∃ queueId, owns principal queueId ∧ Retries past queueId op
  | _, _, _ => True

/-- A call works on items that belong to its principal when it does. -/
def Confined (role : Role ApiCall) (past : Past Op Plane) (op : Op) (plane : Plane) : Prop :=
  Keeping (fun principal => Owned principal plane) role past op

/-- A call works on items that it has checked. -/
def Rule (role : Role ApiCall) (past : Past Op Plane) : Op → Prop :=
  Keeping (fun principal => Checked principal past) role past

/-- The operation a thread performs next does not replace an item that has another key. -/
def Intact (system : System ApiCall) : Event ApiCall → Prop
  | .perform index => ∀ op ∈ system.nextOp index, ¬Overwrites system.state op
  | _ => True

instance (system : System ApiCall) (event : Event ApiCall) : Decidable (Intact system event) := by
  rcases event with ⟨⟩ <;> unfold Intact <;> infer_instance

/-- The operation that an event performs is confined. -/
def StaysConfined (system : System ApiCall) : Event ApiCall → Prop
  | .perform index => ∀ thread, system.threads[index]? = some thread →
      ∀ op ∈ thread.nextOp, Confined thread.info thread.past op system.state
  | _ => True

section Past

variable {principal : RuntimeApiPrincipal} {past : Past Op Plane} {queueId : Text}
  {item : QueueItem} {entry : Op × Plane}

theorem Read.append (read : Read past queueId item) : Read (past ++ [entry]) queueId item := by
  obtain ⟨plane, listed, found⟩ := read
  exact ⟨plane, List.mem_append_left _ listed, found⟩

theorem Checked.append (checked : Checked principal past queueId) :
    Checked principal (past ++ [entry]) queueId where
  tenant := checked.tenant.imp fun _ => And.imp_left Read.append
  area := checked.area.imp fun _ => And.imp_left Read.append

theorem Begun.append {runId : Text} (begun : Begun past runId) : Begun (past ++ [entry]) runId := by
  obtain ⟨record, plane, listed, named⟩ := begun
  exact ⟨record, plane, List.mem_append_left _ listed, named⟩

theorem Sealed.append {path : ArtifactPath} (sealed : Sealed principal past path) :
    Sealed principal (past ++ [entry]) path := by
  obtain ⟨profile, sha256, plane, listed, rest⟩ := sealed
  exact ⟨profile, sha256, plane, List.mem_append_left _ listed, rest⟩

theorem rule_of_quiet {role : Role ApiCall} {op : Op} (quiet : op.quiet = true) :
    Rule role past op := by
  unfold Rule Keeping
  split
  · exact .inl quiet
  · exact .inl quiet
  · exact .inl quiet
  · trivial

end Past

section Calls

variable {role : Role ApiCall} {principal : RuntimeApiPrincipal} {queueId : Text}
  {before : Past Op Plane → Prop}

/-- More operations do not undo what a past shows. -/
def Lasts (before : Past Op Plane → Prop) : Prop :=
  ∀ past entry, before past → before (past ++ [entry])

variable {α : Type} {task : JsonObject} {context : Option JsonObject} {program : Py α}

theorem conduct_performs {p : Op → Prop} (lasts : Lasts before)
    (performs : program.Performs p) (rule : ∀ past op, p op → before past → Rule role past op) :
    Conduct exec (Rule role) before program fun _ => before :=
  (conduct_of_yields performs fun past op performed shown =>
    ⟨rule past op performed shown, fun state => lasts past (op, state) shown⟩).mono
      fun _ _ shown => shown.2

theorem conduct_quiet (lasts : Lasts before)
    (performs : program.Performs fun op => op.quiet = true) :
    Conduct exec (Rule role) before program fun _ => before :=
  conduct_performs lasts performs fun _ _ quiet _ => rule_of_quiet quiet

theorem conduct_raiseIf {condition : Prop} [Decidable condition] {error : PyError} :
    Conduct exec (Rule role) before (Py.raiseIf condition error)
      fun _ past => ¬condition ∧ before past := by
  unfold Py.raiseIf
  split
  · exact fun _ _ _ raised => nomatch raised
  · rename_i passed
    exact conduct_pure fun _ holds => ⟨passed, holds⟩

theorem conduct_storedItem (lasts : Lasts before) :
    Conduct exec (Rule role) before (storedItem queueId)
      fun item past => Read past queueId item ∧ before past := by
  have reads : Conduct exec (Rule role) before (Py.call (.getRuntimeQueueItem queueId))
      fun found past => (∀ item, found = some item → Read past queueId item) ∧ before past := by
    refine conduct_op fun past holds => ⟨rule_of_quiet rfl, fun state => ⟨fun item found => ?_,
      lasts past _ holds⟩⟩
    exact ⟨state, List.mem_append_right _ (List.mem_singleton_self _), found⟩
  refine conduct_bind reads fun found => ?_
  cases found with
  | none => exact fun _ _ _ raised => nomatch raised
  | some item => exact conduct_pure fun _ holds => ⟨holds.1 item rfl, holds.2⟩

theorem lasts_checked : Lasts fun past => Checked principal past queueId :=
  fun _ _ => Checked.append

theorem lasts_read {item : QueueItem} (lasts : Lasts before) :
    Lasts fun past => Read past queueId item ∧ before past :=
  fun past entry shown => ⟨shown.1.append, lasts past entry shown.2⟩

theorem conduct_assertQueueTenant :
    Conduct exec (Rule role) (fun _ => True) (assertQueueTenant queueId principal)
      fun _ past => Checked principal past queueId := by
  have first : Lasts fun _ => True := fun _ _ _ => trivial
  refine conduct_bind (conduct_storedItem first) fun item => ?_
  refine conduct_bind conduct_raiseIf fun _ => ?_
  have second : Lasts fun past =>
      ¬item.tenantId ≠ principal.tenantId ∧ Read past queueId item ∧ True :=
    fun past entry shown => ⟨shown.1, lasts_read first past entry shown.2⟩
  refine conduct_bind (conduct_storedItem second) fun again => conduct_raiseIf.mono ?_
  rintro _ past ⟨area, read, tenant, earlier, -⟩
  exact ⟨⟨item, earlier, not_not.mp tenant⟩, ⟨again, read, not_not.mp area⟩⟩

/-- A look-up before the check, and after it the work on the checked item. -/
theorem conduct_checked {value : Text} {work : Text → Py α}
    (works : ∀ queueId, Conduct exec (Rule role) (fun past => Checked principal past queueId)
      (work queueId) fun _ _ => True) :
    Conduct exec (Rule role) (fun _ => True) (do
      let queueId ← queueItemForRunOrQueueId value
      assertQueueTenant queueId principal
      work queueId) fun _ _ => True := by
  have finds : (queueItemForRunOrQueueId value).Performs fun op => op.quiet = true := by
    unfold queueItemForRunOrQueueId
    refine performs_bind (performs_call rfl) fun found => ?_
    cases found with
    | some item => exact performs_pure
    | none =>
        refine performs_bind (performs_call rfl) fun recordset => ?_
        split
        · exact performs_pure
        · exact performs_throw
  refine conduct_bind (conduct_quiet (fun _ _ _ => trivial) finds) fun queueId => ?_
  exact conduct_bind conduct_assertQueueTenant fun _ => works queueId

theorem conduct_markCancelled
    (cancels : ∀ past op, Cancels past queueId op → Checked principal past queueId →
      Rule role past op) :
    Conduct exec (Rule role) (fun past => Checked principal past queueId)
      (markCancelled queueId none) fun _ past => Checked principal past queueId := by
  have lasts := @lasts_checked principal queueId
  have silent (op : Op) (quiet : op.quiet = true) : op.quiet = true := quiet
  have now : Py.timestamp.Performs fun op => op.quiet = true := performs_timestamp rfl
  refine conduct_bind (conduct_quiet lasts (performs_requireItem silent queueId)) fun _ => ?_
  refine conduct_bind (conduct_quiet lasts (performs_storedItem silent queueId)) fun item => ?_
  split
  · exact conduct_pure fun _ checked => checked
  refine conduct_bind (conduct_quiet lasts (performs_storedItem silent queueId)) fun item => ?_
  refine conduct_bind (conduct_quiet lasts performs_raiseIf) fun _ => ?_
  refine conduct_bind (conduct_quiet lasts now) fun completedAt => ?_
  have writes {operation : Op} (cancel : ∀ past, Cancels past queueId operation) :
      Conduct exec (Rule role) (fun past => Checked principal past queueId) (Py.call operation)
        fun _ past => Checked principal past queueId :=
    conduct_op fun past checked =>
      ⟨cancels past operation (cancel past) checked, fun state => lasts past _ checked⟩
  have marks {fields : Text → StatusFields}
      (marked : ∀ updatedAt, (fields updatedAt).status = .cancelled) :
      Conduct exec (Rule role) (fun past => Checked principal past queueId)
        (updateStatus queueId fields) fun _ past => Checked principal past queueId := by
    refine conduct_bind (conduct_quiet lasts now) fun updatedAt => ?_
    refine conduct_bind (writes fun _ => ⟨rfl, marked updatedAt⟩) fun _ => ?_
    exact conduct_bind (conduct_quiet lasts performs_lift) fun _ => conduct_pure fun _ => id
  refine conduct_bind (marks fun _ => rfl) fun _ => ?_
  refine conduct_bind (writes fun _ => rfl) fun _ => ?_
  refine conduct_bind (conduct_storedItem lasts) fun item => ?_
  have read := @lasts_read queueId _ item lasts
  rw [Option.filter_none, Option.none_or]
  unfold cancelRunOf
  split
  · exact conduct_pure fun _ shown => shown.2
  rename_i runId named
  refine conduct_bind (conduct_quiet read (performs_records
    (runStatus_traces.records : (runStatus runId).Records []) silent)) fun status => ?_
  split
  · -- the run is the one that the last reading of the item named
    have update (fields : RunFields) (cancelled : fields.status = .cancelled) :
        Conduct exec
          (Rule role) (fun past => Read past queueId item ∧ Checked principal past queueId)
          (Py.call (.updateRuntimeRun runId fields))
          fun _ past => Checked principal past queueId :=
      conduct_op fun past ⟨shown, checked⟩ =>
        ⟨cancels past _ ⟨cancelled, item, shown, named⟩ checked, fun state => lasts past _ checked⟩
    exact conduct_bind (update _ rfl) fun _ => conduct_quiet lasts performs_lift
  · exact conduct_pure fun _ shown => shown.2

theorem effectiveKey_retryKey (item : QueueItem) (taskId : Text) :
    effectiveKey (some (retryKey { queueId } item)) taskId = retryKey { queueId } item := by
  have written : retryKey { queueId } item ≠ [] := by
    simp [retryKey, textOr]
  simp [effectiveKey, textOr, Option.filter, written]

/-- The item is read once more, and its key is the one that the retry is queued under. -/
theorem conduct_retry
    (retries : ∀ past op, Retries past queueId op → Checked principal past queueId →
      Rule role past op) :
    Conduct exec (Rule role) (fun past => Checked principal past queueId) (retry { queueId })
      fun _ _ => True := by
  have lasts := @lasts_checked principal queueId
  have silent (op : Op) (quiet : op.quiet = true) : op.quiet = true := quiet
  refine conduct_bind (conduct_quiet lasts (performs_requireItem silent queueId)) fun _ => ?_
  refine conduct_bind (conduct_quiet lasts (performs_storedItem silent queueId)) fun _ => ?_
  refine conduct_bind (conduct_quiet lasts performs_raiseIf) fun _ => ?_
  refine conduct_bind (conduct_storedItem lasts) fun item => ?_
  have read := @lasts_read queueId _ item lasts
  refine conduct_bind (conduct_quiet read (performs_records
    (loadTask_records : (loadTask item).Records []) silent)) fun task => ?_
  refine conduct_bind (conduct_quiet read (performs_records
    (loadCompositionContext_records : (loadCompositionContext item).Records []) silent))
    fun context => ?_
  have enqueues : (enqueue (retryEnqueue { queueId } item task context)).Performs fun op =>
      op.quiet = true ∨ ∃ record, op = .insertRuntimeQueueItem record ∧
        record.idempotencyKey = retryKey { queueId } item := by
    refine enqueue_performs_checked (fun _ => .inl) _
      fun analyzed _ now taskPayloadUri compositionContextUri => .inr ⟨_, rfl, ?_⟩
    exact effectiveKey_retryKey item analyzed.taskId
  refine (conduct_performs read enqueues ?_).mono fun _ _ _ => trivial
  rintro past op (quiet | ⟨record, rfl, key⟩) ⟨shown, checked⟩
  · exact rule_of_quiet quiet
  · exact retries past _ ⟨record, item, rfl, shown, key⟩ checked

theorem get?_of_nested {value found : Json} {outer inner : Text}
    (read : (value.item outer (.obj [])).get? inner = some found) :
    ∃ middle, value.get? outer = some middle ∧ middle.get? inner = some found := by
  unfold Json.item at read
  cases present : value.get? outer with
  | none =>
      rw [present] at read
      cases read
  | some middle =>
      rw [present] at read
      exact ⟨middle, rfl, read⟩

theorem tenant_of_analysis {analyzed : AnalyzedTask}
    (checked : assertTaskTenant task principal = .ok ())
    (analysis : TaskAnalyzer.analyze (.obj task) = .ok analyzed) :
    analyzed.tenantId = TaskAnalyzer.slugify (textOr (some principal.tenantId) "global") := by
  simp only [assertTaskTenant] at checked
  split at checked
  · cases checked
  rename_i same
  obtain ⟨auth, nested, found⟩ :=
    get?_of_nested (Json.get?_of_item (not_not.mp (not_or.mp same).1) (by simp))
  obtain ⟨context, present, claims⟩ := get?_of_nested nested
  cases auth with
  | obj fields =>
      unfold TaskAnalyzer.analyze TaskAnalyzer.authClaims at analysis
      rw [present, Option.bind_some, claims] at analysis
      simp only [Stateful.bind_eq_ok, found] at analysis
      obtain ⟨scope, ⟨roles, -, read⟩, returned⟩ := analysis
      split at read
      · cases read
      simp only [Stateful.bind_eq_ok] at read
      obtain ⟨_, -, _, -, _, -, made⟩ := read
      cases made
      cases returned
      by_cases empty : principal.tenantId = []
      · simp [Json.orElse, Json.truthy, Json.pyStr, textOr, Option.filter, empty]
      · simp [Json.orElse, Json.truthy, Json.pyStr, textOr, Option.filter, empty]
  | _ => cases found

theorem startChecks_ok {request task : JsonObject}
    (started : startChecks principal request = .ok (task, context)) :
    assertTaskTenant task principal = .ok () := by
  unfold startChecks at started
  split at started
  case h_2 => cases started
  obtain ⟨_, owned, rest⟩ := Stateful.bind_eq_ok.mp started
  split at rest
  · cases rest
    exact owned
  · cases rest
    exact owned
  · cases rest

theorem tenant_of_enqueue {queued : EnqueueRequest} {analyzed : AnalyzedTask}
    (owned : assertTaskTenant queued.task principal = .ok ())
    (checked : enqueueChecks queued = .ok analyzed) :
    analyzed.tenantId = TaskAnalyzer.slugify principal.tenantId := by
  unfold enqueueChecks at checked
  obtain ⟨found, analysis, rest⟩ := Stateful.bind_eq_ok.mp checked
  dsimp only at rest
  by_cases global : found.tenantId = ("global" : Text)
  · rw [if_pos global] at rest
    cases rest
  rw [if_neg global] at rest
  by_cases disabled : queued.disabledTenantIds.contains found.tenantId = true
  · rw [if_pos disabled] at rest
    cases rest
  rw [if_neg disabled] at rest
  have same : found = analyzed := by
    split at rest
    · split at rest
      · obtain ⟨_, -, made⟩ := Stateful.bind_eq_ok.mp rest
        exact Except.ok.inj made
      · exact Except.ok.inj rest
    · exact Except.ok.inj rest
  subst same
  have tenant := tenant_of_analysis owned analysis
  by_cases empty : principal.tenantId = []
  · have whole : TaskAnalyzer.slugify ("global" : Text) = ("global" : Text) := by decide
    simp only [empty, textOr, Option.filter, ne_eq, not_true, decide_false] at tenant
    exact absurd (tenant.trans whole) global
  · simpa [textOr, Option.filter, empty] using tenant

theorem tenant_of_prepare {components : Components}
    {prepared : RuntimeEntryPoint.Prepared} (owned : assertTaskTenant task principal = .ok ())
    (prepares : RuntimeEntryPoint.prepare components task context {} = .ok prepared) :
    prepared.profile.tenantId =
      TaskAnalyzer.slugify (textOr (some principal.tenantId) "global") := by
  unfold RuntimeEntryPoint.prepare at prepares
  obtain ⟨_, -, prepares⟩ := Stateful.bind_eq_ok.mp prepares
  obtain ⟨analyzed, analysis, prepares⟩ := Stateful.bind_eq_ok.mp prepares
  obtain ⟨_, -, prepares⟩ := Stateful.bind_eq_ok.mp prepares
  obtain ⟨_, -, prepares⟩ := Stateful.bind_eq_ok.mp prepares
  obtain ⟨profile, composed, prepares⟩ := Stateful.bind_eq_ok.mp prepares
  cases prepares
  obtain ⟨_, -, made⟩ := Stateful.bind_eq_ok.mp composed
  cases made
  exact tenant_of_analysis owned analysis

theorem conduct_executeRun {components : Components}
    (owned : assertTaskTenant task principal = .ok ())
    (executes : ∀ past op, Executes principal past op → Rule role past op) :
    Conduct exec (Rule role) (fun _ => True) (executeRun components task context)
      fun _ _ => True := by
  have recorded {runId : Text} {op : Op} (records : op.RecordsFor runId) : op.quiet = true :=
    records.quiet
  have lasts {runId : Text} : Lasts fun past => Begun past runId := fun _ _ => Begun.append
  have starts : Conduct exec (Rule role) (fun _ => True)
      (RuntimeEntryPoint.start components task context none {})
      fun start past => Begun past start.runId := by
    refine conduct_bind (conduct_ofExcept fun _ _ prepares _ => tenant_of_prepare owned prepares)
      fun prepared => ?_
    have write (sha256 : Text) : Conduct exec (Rule role)
        (fun _ => prepared.profile.tenantId =
          TaskAnalyzer.slugify (textOr (some principal.tenantId) "global"))
        (Py.call (.writeJson (RuntimeEntryPoint.profileParts prepared.profile sha256)
          prepared.profile.toJson))
        fun path past => Sealed principal past path :=
      conduct_op fun past tenant => ⟨rule_of_quiet rfl, fun state =>
        ⟨_, _, state, List.mem_append_right _ (List.mem_singleton_self _), rfl, tenant⟩⟩
    refine conduct_bind (write _) fun path => ?_
    have begins {start : RunStart} (uri : start.profileArtifactUri = path) :
        Conduct exec (Rule role) (fun past => Sealed principal past path)
          (FlightRecorder.startRun start) fun run past => Begun past run.id := by
      refine conduct_bind (conduct_quiet (fun _ _ => Sealed.append) (performs_timestamp rfl))
        fun startedAt => ?_
      have insert {record : RuntimeRun} (under : record.profileArtifactUri = path) :
          Conduct exec (Rule role) (fun past => Sealed principal past path)
            (Py.call (.insertRuntimeRun record)) fun _ past => Begun past record.id :=
        conduct_op fun past sealed => ⟨executes past _ (by rwa [Executes, under]), fun state =>
          ⟨record, state, List.mem_append_right _ (List.mem_singleton_self _), rfl⟩⟩
      exact conduct_bind (insert uri) fun _ => conduct_pure fun _ => id
    refine conduct_bind (begins rfl) fun run => ?_
    refine conduct_bind (conduct_quiet lasts (RuntimeEntryPoint.recordStart_records.mono
      (fun _ => recorded) fun _ => id)) fun _ => ?_
    exact conduct_pure fun _ => id
  refine conduct_bind starts fun start => ?_
  have runs : (MinimalRuntimeLoop.run ⟨components, none⟩ start).Performs
      (Op.RunsFor start.runId) :=
    MinimalRuntimeLoop.run_runs.mono (fun _ => id) fun _ _ => trivial
  refine conduct_bind (conduct_performs lasts runs ?_) fun result => ?_
  · rintro past op (records | ⟨fields, rfl⟩) begun
    · exact rule_of_quiet records.quiet
    · exact executes past _ begun
  refine conduct_bind (conduct_quiet lasts (performs_call rfl)) fun stored => ?_
  cases stored with
  | none => exact fun _ _ _ raised => nomatch raised
  | some run => exact conduct_pure fun _ _ => trivial

theorem conduct_queueRun {config : RuntimeQueueConfig} {request task : JsonObject}
    (owned : assertTaskTenant task principal = .ok ())
    (queues : ∀ past op, Queues principal op → Rule role past op) :
    Conduct exec (Rule role) (fun _ => True) (queueRun config request task context)
      fun _ _ => True := by
  have queued : Conduct exec (Rule role) (fun _ => True)
      (Py.lift (startRequest config request task context)) fun queued _ => queued.task = task := by
    refine conduct_ofExcept fun queued _ made _ => ?_
    obtain ⟨_, -, made⟩ := Stateful.bind_eq_ok.mp made
    cases made
    rfl
  refine conduct_bind queued fun queued past same => ?_
  have enqueues : (enqueue queued).Performs fun op => op.quiet = true ∨ Queues principal op := by
    refine enqueue_performs_checked (fun _ => .inl) queued
      fun analyzed checked now taskPayloadUri compositionContextUri => .inr ⟨_, rfl, ?_⟩
    exact tenant_of_enqueue (same ▸ owned) checked
  have first : Lasts fun _ => True := fun _ _ _ => trivial
  refine conduct_bind (conduct_performs first enqueues ?_)
    (fun _ => conduct_pure fun _ _ => trivial) past trivial
  rintro past op (quiet | inserts) -
  · exact rule_of_quiet quiet
  · exact queues past op inserts

theorem conduct_dropped
    (conduct : Conduct exec (Rule role) (fun _ => True) program fun _ _ => True) :
    Conduct exec (Rule role) (fun _ => True) (do let _ ← program; return () : Py Unit)
      fun _ _ => True :=
  conduct_bind conduct fun _ => conduct_pure fun _ _ => trivial

theorem conduct_free {program : Py Unit} (free : ∀ past op, Rule role past op) :
    Conduct exec (Rule role) (fun _ => True) program fun _ _ => True :=
  conduct_performs (fun _ _ _ => trivial) (yields_trivial program) fun past op _ _ => free past op

/-- Every call keeps to the rule. -/
theorem program_keeps (call : ApiCall) :
    call.program.Keeps exec (Rule (.operator call)) (fun _ _ => True) [] := by
  have conduct : Conduct exec (Rule (.operator call)) (fun _ => True) call.program
      fun _ _ => True := by
    cases call with
    | startRun service principal request =>
        refine conduct_dropped (conduct_bind (conduct_ofExcept fun value _ started _ =>
          (startChecks_ok started : assertTaskTenant value.1 principal = .ok ())) fun value => ?_)
        obtain ⟨task, context⟩ := value
        intro past owned
        dsimp only
        split
        · rename_i immediate
          have rule (past op) (executes : Executes principal past op) :
              Rule (.operator (.startRun service principal request)) past op :=
            .inr (by rwa [if_pos immediate])
          exact conduct_executeRun owned rule past trivial
        · rename_i later
          have rule (past op) (queues : Queues principal op) :
              Rule (.operator (.startRun service principal request)) past op :=
            .inr (by rwa [if_neg later])
          exact conduct_queueRun owned rule past trivial
    | cancelRun principal runOrQueueId =>
        refine conduct_dropped (conduct_checked fun queueId => ?_)
        refine conduct_bind (conduct_quiet lasts_checked
          (performs_storedItem (fun _ => id) queueId)) fun _ => ?_
        refine conduct_bind (conduct_markCancelled fun past op cancels checked =>
          .inr ⟨queueId, checked, cancels⟩) fun _ => ?_
        exact (conduct_storedItem lasts_checked).mono fun _ _ _ => trivial
    | retryRun principal runOrQueueId =>
        refine conduct_dropped (conduct_checked fun queueId => ?_)
        exact conduct_retry fun past op retries checked => .inr ⟨queueId, checked, retries⟩
    | operator call => exact conduct_free fun _ _ => trivial
  exact (conduct [] trivial).mono fun _ _ _ => trivial

end Calls

/-- Every item is still there, under the identity that it had. -/
def KeepsItems (before after : Plane) : Prop :=
  ∀ queueId item, before.items.get? queueId = some item →
    ∃ item', after.items.get? queueId = some item' ∧ item'.identity = item.identity

theorem KeepsItems.trans {first second third : Plane} (left : KeepsItems first second)
    (right : KeepsItems second third) : KeepsItems first third := by
  intro queueId item found
  obtain ⟨middle, found_middle, same⟩ := left queueId item found
  obtain ⟨last, found_last, same_last⟩ := right queueId middle found_middle
  exact ⟨last, found_last, same_last.trans same⟩

theorem keepsItems_exec {plane : Plane} {op : Op} (intact : ¬Overwrites plane op) :
    KeepsItems plane (exec op plane).2 := by
  intro queueId item found
  obtain ⟨item', found', same, -⟩ := exec_identity intact found
  exact ⟨item', found', same⟩

/-- What was checked in the past holds now. -/
theorem Checked.owned {principal : RuntimeApiPrincipal} {past : Past Op Plane} {queueId : Text}
    {plane : Plane} (checked : Checked principal past queueId)
    (kept : ∀ entry ∈ past, KeepsItems entry.2 plane) : Owned principal plane queueId := by
  obtain ⟨first, ⟨_, listed, found⟩, tenant⟩ := checked.tenant
  obtain ⟨second, ⟨_, listed_again, found_again⟩, area⟩ := checked.area
  obtain ⟨stored, there, same⟩ := kept _ listed queueId first found
  obtain ⟨stored_again, there_again, same_again⟩ := kept _ listed_again queueId second found_again
  cases there.symm.trans there_again
  exact ⟨stored, there, (congrArg QueueItem.Identity.tenantId same).trans tenant,
    (congrArg QueueItem.Identity.areaId same_again).trans area⟩

theorem Keeping.mono {owns owns' : RuntimeApiPrincipal → Text → Prop} {role : Role ApiCall}
    {past : Past Op Plane} {op : Op} (keeping : Keeping owns role past op)
    (weaken : ∀ principal queueId, owns principal queueId → owns' principal queueId) :
    Keeping owns' role past op := by
  unfold Keeping at keeping ⊢
  split
  · exact keeping
  · exact keeping.imp_right fun ⟨queueId, owned, cancels⟩ => ⟨queueId, weaken _ _ owned, cancels⟩
  · exact keeping.imp_right fun ⟨queueId, owned, retries⟩ => ⟨queueId, weaken _ _ owned, retries⟩
  · trivial

section System

variable {system : System ApiCall} {event : Event ApiCall}

/-- Every thread keeps to the rule, and the items that it has met keep their identity. -/
structure Inv (system : System ApiCall) : Prop where
  conducted : system.ConductedFor exec Rule fun _ _ _ => True
  kept : ∀ (index : Nat) thread, system.threads[index]? = some thread →
    ∀ entry ∈ thread.past, KeepsItems entry.2 system.state

theorem keepsItems_step (intact : Intact system event) :
    KeepsItems system.state (system.step ApiCall.program event).state := by
  rcases system.step_state ApiCall.program event with ⟨_, after⟩ | ⟨worker, claimedAt, rfl, after⟩ |
    ⟨index, op, rfl, next, after⟩
  · rw [after]
    exact fun _ item found => ⟨item, found, rfl⟩
  · rw [after]
    exact keepsItems_exec id
  · rw [after]
    exact keepsItems_exec (intact op next)

theorem mem_past_step {index : Nat} {thread : Thread Op.Reply Plane (Role ApiCall) PyError Unit}
    (found : (system.step ApiCall.program event).threads[index]? = some thread) {entry : Op × Plane}
    (listed : entry ∈ thread.past) :
    entry.2 = system.state ∨
      ∃ old, system.threads[index]? = some old ∧ entry ∈ old.past := by
  have spawned {pool : System ApiCall} {role : Role ApiCall} {program : Py Unit}
      (same : pool.threads = system.threads)
      (found : (pool.spawn role program).threads[index]? = some thread) :
      ∃ old, system.threads[index]? = some old ∧ entry ∈ old.past := by
    rcases Pool.getElem?_spawn found with old | ⟨-, rfl⟩
    · exact ⟨thread, same ▸ old, listed⟩
    · cases listed
  cases event with
  | tick micros => exact .inr ⟨thread, found, listed⟩
  | call call => exact .inr (spawned rfl found)
  | claim worker claimedAt =>
      rw [System.step] at found
      split at found
      · unfold System.claim at found
        split at found
        · exact .inr ⟨thread, found, listed⟩
        · exact .inr (spawned rfl found)
      · exact .inr ⟨thread, found, listed⟩
  | perform index => exact Pool.mem_past_step exec found listed
  | crash index =>
      obtain ⟨old, located, -, same⟩ := Pool.crash_past found
      exact .inr ⟨old, located, same ▸ listed⟩

theorem conducted_step (conducted : system.ConductedFor exec Rule fun _ _ _ => True) :
    (system.step ApiCall.program event).ConductedFor exec Rule fun _ _ _ => True := by
  cases event with
  | tick micros => exact conducted
  | call call => exact conducted.spawn (program_keeps call)
  | claim worker claimedAt =>
      rw [System.step]
      split
      · unfold System.claim
        split
        · exact conducted
        · rename_i item _
          have free (past op) : Rule (.worker worker (item.bundle
              (claimRequest worker.config worker.workerId claimedAt))) past op := trivial
          exact Pool.ConductedFor.spawn conducted
            ((conduct_free free [] trivial).mono fun _ _ _ => trivial)
      · exact conducted
  | perform index => exact conducted.step index
  | crash index => exact conducted.crash fun _ _ => trivial

theorem Inv.step (inv : Inv system) (intact : Intact system event) :
    Inv (system.step ApiCall.program event) where
  conducted := conducted_step inv.conducted
  kept := by
    intro index thread found entry listed
    rcases mem_past_step found listed with now | ⟨old, located, earlier⟩
    · rw [now]
      exact keepsItems_step intact
    · exact (inv.kept index old located entry earlier).trans (keepsItems_step intact)

end System

/-- A member of a tenant, in the area of the same name. -/
def member (tenant : Text) : RuntimeApiPrincipal := ⟨"user-a", tenant, tenant, []⟩

/-- A tenant queues a run; another tenant tries to cancel it; then the first one cancels and retries
it. -/
def cancelledByOwner : List (Event ApiCall) :=
  Event.call (ApiCall.startRun ⟨Sample.config, fun _ => Sample.components⟩ (member "tenant-a")
      [("task", .obj (Sample.task "task-a" "tenant-a"))]) ::
    List.replicate 3 (Event.perform 0) ++
    Event.call (ApiCall.cancelRun (member "tenant-b") "queue-task-a-start") ::
    List.replicate 3 (Event.perform 1) ++
    Event.call (ApiCall.cancelRun (member "tenant-a") "queue-task-a-start") ::
    List.replicate 13 (Event.perform 2) ++
    Event.call (ApiCall.retryRun (member "tenant-a") "queue-task-a-start") ::
    List.replicate 16 (Event.perform 3)

end ApiConfinement

end SkillCentric
