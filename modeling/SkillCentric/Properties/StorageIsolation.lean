import SkillCentric.Library.Words
import SkillCentric.Workbench.NativeStorage

/-!
# Scopes in secure storage

Keys of different scopes never meet when no id has a colon.  So the adapters of a scope are answered
as if there were no others, and a purge leaves nothing that its adapter has stored, unless the
backend has rejected to delete it.
-/

namespace SkillCentric.TenantWorkbench

namespace StorageIsolation

open SecureStorage Word

/-- The ids of a scope have no colon. -/
def Plain (scope : Scope) : Prop := ':' ∉ scope.tenantId ∧ ':' ∉ scope.areaId

instance (scope : Scope) : Decidable (Plain scope) := inferInstanceAs (Decidable (_ ∧ _))

theorem scope_eq_of_key {left right : Scope} (left_plain : Plain left) (right_plain : Plain right)
    {key : Text} (left_key : scopePrefix left <+: key) (right_key : scopePrefix right <+: key) :
    left = right := by
  obtain ⟨left_rest, rfl⟩ := left_key
  obtain ⟨right_rest, same⟩ := right_key
  simp only [scopePrefix, List.append_assoc, List.cons_append, List.nil_append] at same
  obtain ⟨tenant, rest⟩ := append_cons_inj_first right_plain.1 left_plain.1 same
  obtain ⟨area, -⟩ := append_cons_inj_first right_plain.2 left_plain.2 rest
  cases left
  cases right
  simp_all

section Calls

variable {ι : Type} [DecidableEq ι] {scopes : ι → Scope} {storage : SecureStorage ι} {adapter : ι}
  {event : StorageEvent ι}

theorem setKey_get? (key value other : Text) :
    (storage.setKey event key value).backend.get? other =
      if other = key ∧ (event.outcome key).done = true then some value
      else storage.backend.get? other := by
  unfold setKey
  by_cases done : (event.outcome key).done = true
  · simp only [done, if_true, and_true]
    exact Dict.get?_set storage.backend key other value
  · simp only [done, if_false, and_false, Bool.false_eq_true]
    rfl

theorem setKey_knownKeys (key value : Text) :
    (storage.setKey event key value).knownKeys =
      (storage.remember event.adapter key).knownKeys := by
  unfold setKey
  split <;> rfl

theorem deleteKey_get? (key other : Text) : (storage.deleteKey event key).backend.get? other =
    if other = key ∧ (event.outcome key).done = true then none
    else storage.backend.get? other := by
  unfold deleteKey
  by_cases done : (event.outcome key).done = true
  · simp only [done, if_true, and_true]
    exact Dict.get?_erase storage.backend key other
  · simp only [done, if_false, and_false, Bool.false_eq_true]
    rfl

theorem deleteKey_knownKeys (key : Text) (other : ι) :
    (storage.deleteKey event key).knownKeys other =
      if other = event.adapter then (storage.knownKeys event.adapter).filter (· ≠ key)
      else storage.knownKeys other := by
  unfold deleteKey
  split <;> simp only [forget, Function.update_apply]

theorem purge_get? (keys : List Text) (other : Text) :
    (keys.foldl (deleteKey event) storage).backend.get? other =
      if other ∈ keys ∧ (event.outcome other).done = true then none
      else storage.backend.get? other := by
  induction keys generalizing storage with
  | nil => simp
  | cons key rest ih =>
      rw [List.foldl_cons, ih, deleteKey_get?]
      by_cases later : other ∈ rest ∧ (event.outcome other).done = true
      · simp [later]
      · rw [if_neg later]
        by_cases same : other = key
        · subst same
          simp only [true_and, List.mem_cons, true_or]
        · simp only [same, false_and, if_false, List.mem_cons, false_or, later]

theorem purge_knownKeys (keys : List Text) (other : ι) :
    (keys.foldl (deleteKey event) storage).knownKeys other =
      if other = event.adapter then (storage.knownKeys event.adapter).filter (· ∉ keys)
      else storage.knownKeys other := by
  induction keys generalizing storage with
  | nil => by_cases same : other = event.adapter <;> simp [same]
  | cons key rest ih =>
      rw [List.foldl_cons, ih]
      by_cases same : other = event.adapter
      · rw [if_pos same, if_pos same, deleteKey_knownKeys, if_pos rfl, List.filter_filter]
        refine List.filter_congr fun value _ => ?_
        by_cases later : value ∈ rest <;> simp [later]
      · rw [if_neg same, if_neg same, deleteKey_knownKeys, if_neg same]

variable {key : Text} {event : StorageEvent ι} {events : List (StorageEvent ι)}

theorem assertTenantScopedKey_ok {scope : Scope} {value : Unit} :
    assertTenantScopedKey scope key = .ok value ↔ scopePrefix scope <+: key := by
  unfold assertTenantScopedKey
  split <;> simp [*]

/-- Every adapter remembers keys of its scope only. -/
def Kept (scopes : ι → Scope) (storage : SecureStorage ι) : Prop :=
  ∀ adapter, ∀ key ∈ storage.knownKeys adapter, scopePrefix (scopes adapter) <+: key

theorem mem_remember {key other : Text} {peer : ι} :
    other ∈ (storage.remember adapter key).knownKeys peer ↔
      other ∈ storage.knownKeys peer ∨ peer = adapter ∧ other = key := by
  simp only [remember, Function.update_apply]
  by_cases same : peer = adapter
  · subst same
    by_cases known : key ∈ storage.knownKeys peer
    · simp only [known, if_true, true_and]
      exact ⟨.inl, fun either => either.elim id fun new => new ▸ known⟩
    · simp [known]
  · simp [same]

theorem Kept.call (kept : Kept scopes storage) (event : StorageEvent ι) :
    Kept scopes (call scopes storage event).2 := by
  obtain ⟨adapter, request, outcome⟩ := event
  cases request with
  | getItem key =>
      simp only [SecureStorage.call]
      split <;> exact kept
  | setItem key value =>
      simp only [SecureStorage.call]
      split
      · exact kept
      · rename_i checked
        intro peer other known
        rw [setKey_knownKeys] at known
        rcases mem_remember.mp known with before | ⟨rfl, rfl⟩
        · exact kept peer other before
        · exact assertTenantScopedKey_ok.mp checked
  | deleteItem key =>
      simp only [SecureStorage.call]
      split
      · exact kept
      · intro peer other known
        rw [deleteKey_knownKeys] at known
        split at known
        · rename_i same
          exact same ▸ kept adapter other (List.mem_of_mem_filter known)
        · exact kept peer other known
  | purgeScope tenantId areaId =>
      simp only [SecureStorage.call]
      split
      · exact kept
      · intro peer other known
        rw [purge_knownKeys] at known
        split at known
        · rename_i same
          exact same ▸ kept adapter other (List.mem_of_mem_filter known)
        · exact kept peer other known

/-- Two storages that the adapters of a scope cannot tell apart. -/
def Alike (scopes : ι → Scope) (scope : Scope) (left right : SecureStorage ι) : Prop :=
  (∀ key, scopePrefix scope <+: key → left.backend.get? key = right.backend.get? key) ∧
    ∀ adapter, scopes adapter = scope → left.knownKeys adapter = right.knownKeys adapter

/-- A call changes values of its own scope and what its own adapter remembers. -/
theorem call_frame (kept : Kept scopes storage) (event : StorageEvent ι) :
    (∀ key, ¬scopePrefix (scopes event.adapter) <+: key →
      (call scopes storage event).2.backend.get? key = storage.backend.get? key) ∧
    ∀ peer, peer ≠ event.adapter →
      (call scopes storage event).2.knownKeys peer = storage.knownKeys peer := by
  obtain ⟨adapter, request, outcome⟩ := event
  cases request with
  | getItem key =>
      simp only [SecureStorage.call]
      split <;> exact ⟨fun _ _ => rfl, fun _ _ => rfl⟩
  | setItem key value =>
      simp only [SecureStorage.call]
      split
      · exact ⟨fun _ _ => rfl, fun _ _ => rfl⟩
      · rename_i checked
        refine ⟨fun other outside => ?_, fun peer differ => ?_⟩
        · rw [setKey_get?, if_neg]
          rintro ⟨rfl, -⟩
          exact outside (assertTenantScopedKey_ok.mp checked)
        · rw [setKey_knownKeys]
          simp [remember, differ]
  | deleteItem key =>
      simp only [SecureStorage.call]
      split
      · exact ⟨fun _ _ => rfl, fun _ _ => rfl⟩
      · rename_i checked
        refine ⟨fun other outside => ?_, fun peer differ => ?_⟩
        · rw [deleteKey_get?, if_neg]
          rintro ⟨rfl, -⟩
          exact outside (assertTenantScopedKey_ok.mp checked)
        · rw [deleteKey_knownKeys, if_neg differ]
  | purgeScope tenantId areaId =>
      simp only [SecureStorage.call]
      split
      · exact ⟨fun _ _ => rfl, fun _ _ => rfl⟩
      · refine ⟨fun other outside => ?_, fun peer differ => ?_⟩
        · rw [purge_get?, if_neg fun known => outside (kept adapter other known.1)]
        · rw [purge_knownKeys, if_neg differ]

theorem call_alike {scope : Scope} {left right : SecureStorage ι}
    (view : Alike scopes scope left right)
    (own : scopes event.adapter = scope) :
    (call scopes left event).1 = (call scopes right event).1 ∧
      Alike scopes scope (call scopes left event).2 (call scopes right event).2 := by
  obtain ⟨adapter, request, outcome⟩ := event
  obtain ⟨values, known⟩ := view
  subst own
  have remembered := known adapter rfl
  cases request with
  | getItem key =>
      simp only [SecureStorage.call]
      split
      · exact ⟨rfl, values, known⟩
      · rename_i checked
        rw [values key (assertTenantScopedKey_ok.mp checked)]
        exact ⟨rfl, values, known⟩
  | setItem key value =>
      simp only [SecureStorage.call]
      split
      · exact ⟨rfl, values, known⟩
      · refine ⟨rfl, fun other inside => ?_, fun peer same => ?_⟩
        · rw [setKey_get?, setKey_get?, values other inside]
        · rw [setKey_knownKeys, setKey_knownKeys]
          simp only [remember, Function.update_apply, remembered, known peer same]
  | deleteItem key =>
      simp only [SecureStorage.call]
      split
      · exact ⟨rfl, values, known⟩
      · refine ⟨rfl, fun other inside => ?_, fun peer same => ?_⟩
        · rw [deleteKey_get?, deleteKey_get?, values other inside]
        · rw [deleteKey_knownKeys, deleteKey_knownKeys, remembered, known peer same]
  | purgeScope tenantId areaId =>
      simp only [SecureStorage.call]
      split
      · exact ⟨rfl, values, known⟩
      · refine ⟨by rw [remembered], fun other inside => ?_, fun peer same => ?_⟩
        · rw [purge_get?, purge_get?, remembered, values other inside]
        · rw [purge_knownKeys, purge_knownKeys, remembered, known peer same]

theorem unwinding (plain : ∀ adapter, Plain (scopes adapter)) {scope : Scope}
    (own_plain : Plain scope) :
    Unwinding (call scopes) (fun event => decide (scopes event.adapter = scope)) (Kept scopes)
      (Alike scopes scope) where
  keeps storage event kept := kept.call event
  unseen left right event kept view foreign := by
    have differ : scopes event.adapter ≠ scope := by simpa using foreign
    obtain ⟨values, known⟩ := call_frame kept event
    refine ⟨fun key inside => ?_, fun adapter same => ?_⟩
    · rw [values
        key fun other => differ (scope_eq_of_key (plain event.adapter) own_plain other inside)]
      exact view.1 key inside
    · rw [known adapter fun same' => differ (same' ▸ same)]
      exact view.2 adapter same
  alike_after left right event _ _ view own := (call_alike view (by simpa using own)).2
  answered left right event _ _ view own := (call_alike view (by simpa using own)).1

omit [DecidableEq ι] in
theorem kept_opened (backend : Dict Text Text) : Kept scopes (opened backend) := by
  intro adapter key known
  cases known

/-- The adapter has asked the backend to store or to delete the key. -/
def Written (events : List (StorageEvent ι)) (adapter : ι) (key : Text) : Prop :=
  ∃ event ∈ events, event.adapter = adapter ∧
    ((∃ value, event.call = .setItem key value) ∨ event.call = .deleteItem key)

omit [DecidableEq ι] in
theorem written_append :
    Written (events ++ [event]) adapter key ↔ Written events adapter key ∨ event.adapter = adapter ∧
      ((∃ value, event.call = .setItem key value) ∨ event.call = .deleteItem key) := by
  simp [Written, or_and_right, exists_or]

/-- The backend has done every delete of the key for the adapter. -/
def Obeyed (events : List (StorageEvent ι)) (adapter : ι) (key : Text) : Prop :=
  ∀ event ∈ events, event.adapter = adapter →
    (event.call = .deleteItem key ∨ ∃ tenantId areaId, event.call = .purgeScope tenantId areaId) →
      (event.outcome key).done = true

omit [DecidableEq ι] in
theorem obeyed_append :
    Obeyed (events ++ [event]) adapter key ↔
      Obeyed events adapter key ∧ Obeyed [event] adapter key :=
  List.forall_mem_append

/-- Where a key of the adapter's scope stands after some calls, when the scope
has no other adapter. -/
structure Accounted (scopes : ι → Scope) (backend : Dict Text Text) (adapter : ι) (key : Text)
    (events : List (StorageEvent ι)) (storage : SecureStorage ι) : Prop where
  kept : Kept scopes storage
  written : Written events adapter key → Obeyed events adapter key →
    key ∈ storage.knownKeys adapter ∨ storage.backend.get? key = none
  untouched : ¬Written events adapter key →
    storage.backend.get? key = backend.get? key ∧ key ∉ storage.knownKeys adapter

omit [DecidableEq ι] in
theorem Accounted.quiet {backend : Dict Text Text} {after : SecureStorage ι}
    (accounted : Accounted scopes backend adapter key events storage) (kept : Kept scopes after)
    (silent : ¬(event.adapter = adapter ∧
      ((∃ value, event.call = .setItem key value) ∨ event.call = .deleteItem key)))
    (value : after.backend.get? key = storage.backend.get? key)
    (known : key ∈ after.knownKeys adapter ↔ key ∈ storage.knownKeys adapter) :
    Accounted scopes backend adapter key (events ++ [event]) after where
  kept := kept
  written wrote obeyed := by
    rw [known, value]
    exact accounted.written ((written_append.mp wrote).resolve_right silent)
      (obeyed_append.mp obeyed).1
  untouched unwritten := by
    rw [known, value]
    exact accounted.untouched fun wrote => unwritten (written_append.mpr (.inl wrote))

theorem Accounted.call {backend : Dict Text Text}
    (accounted : Accounted scopes backend adapter key events storage)
    (inside : scopePrefix (scopes adapter) <+: key)
    (apart : ∀ peer, peer ≠ adapter → ¬scopePrefix (scopes peer) <+: key) (event : StorageEvent ι) :
    Accounted scopes backend adapter key (events ++ [event]) (call scopes storage event).2 := by
  have kept := accounted.kept.call event
  by_cases own : event.adapter = adapter
  swap
  · obtain ⟨values, known⟩ := call_frame accounted.kept event
    exact accounted.quiet kept (fun wrote => own wrote.1) (values key (apart event.adapter own))
      (by rw [known adapter (Ne.symm own)])
  obtain ⟨actor, request, outcome⟩ := event
  obtain rfl : actor = adapter := own
  have granted : assertTenantScopedKey (scopes actor) key = .ok () :=
    assertTenantScopedKey_ok.mpr inside
  cases request with
  | getItem other =>
      refine accounted.quiet kept (by simp) ?_ ?_ <;>
        (simp only [SecureStorage.call]; split <;> rfl)
  | setItem other value =>
      by_cases same : other = key
      · subst same
        have present : other ∈ (SecureStorage.call scopes storage
            ⟨actor, .setItem other value, outcome⟩).2.knownKeys actor := by
          simp only [SecureStorage.call, granted]
          rw [setKey_knownKeys]
          exact mem_remember.mpr (.inr ⟨rfl, rfl⟩)
        exact ⟨kept, fun _ _ => .inl present, fun unwritten =>
          absurd (written_append.mpr (.inr ⟨rfl, .inl ⟨value, rfl⟩⟩)) unwritten⟩
      · refine accounted.quiet kept (by simp [same]) ?_ ?_
        · simp only [SecureStorage.call]
          split
          · rfl
          · rw [setKey_get?, if_neg fun equal => same equal.1.symm]
        · simp only [SecureStorage.call]
          split
          · rfl
          · rw [setKey_knownKeys, mem_remember]
            simp [Ne.symm same]
  | deleteItem other =>
      by_cases same : other = key
      · subst same
        refine ⟨kept, fun _ obeyed => .inr ?_, fun unwritten =>
          absurd (written_append.mpr (.inr ⟨rfl, .inr rfl⟩)) unwritten⟩
        have done := (obeyed_append.mp obeyed).2 _ (List.mem_singleton_self _) rfl (.inl rfl)
        simp only [SecureStorage.call, granted]
        rw [deleteKey_get?, if_pos ⟨rfl, done⟩]
      · refine accounted.quiet kept (by simp [same]) ?_ ?_
        · simp only [SecureStorage.call]
          split
          · rfl
          · rw [deleteKey_get?, if_neg fun equal => same equal.1.symm]
        · simp only [SecureStorage.call]
          split
          · rfl
          · rw [deleteKey_knownKeys, if_pos rfl]
            simp [Ne.symm same]
  | purgeScope tenantId areaId =>
      simp only [SecureStorage.call] at kept ⊢
      split
      · exact accounted.quiet accounted.kept (by simp) rfl Iff.rfl
      · rename_i matched
        rw [matched] at kept
        refine ⟨kept, fun wrote obeyed => .inr ?_, fun unwritten => ?_⟩
        · obtain ⟨earlier, now⟩ := obeyed_append.mp obeyed
          have done := now _ (List.mem_singleton_self _) rfl (.inr ⟨tenantId, areaId, rfl⟩)
          have before :=
            accounted.written ((written_append.mp wrote).resolve_right (by simp)) earlier
          rw [purge_get?]
          split
          · rfl
          · rename_i unknown
            exact before.resolve_left fun known => unknown ⟨known, done⟩
        · obtain ⟨value, unknown⟩ := accounted.untouched fun wrote =>
            unwritten (written_append.mpr (.inl wrote))
          rw [purge_get?, if_neg fun known => unknown known.1, purge_knownKeys, if_pos rfl]
          exact ⟨value, fun member => unknown (List.mem_of_mem_filter member)⟩

end Calls

/-- When no id has a colon, the adapters of a scope are answered as if there were no adapters of
other scopes and no values of theirs. -/
theorem storage_isolated {ι : Type} [DecidableEq ι] (scopes : ι → Scope)
    (plain : ∀ adapter, Plain (scopes adapter)) (scope : Scope) (own_plain : Plain scope)
    (shared alone : Dict Text Text)
    (values : ∀ key, scopePrefix scope <+: key → shared.get? key = alone.get? key)
    (events : List (StorageEvent ι)) :
    (answers (call scopes) (opened shared) events).filter
        (fun answer => decide (scopes answer.1.adapter = scope)) =
      answers (call scopes) (opened alone)
        (events.filter fun event => decide (scopes event.adapter = scope)) :=
  (unwinding plain own_plain).answers_filter events (kept_opened shared) (kept_opened alone)
    ⟨values, fun _ _ => rfl⟩

def twoTenants : Bool → Scope
  | false => ⟨"kinderhaus", "leitung"⟩
  | true => ⟨"liquisto", "sales"⟩

/-- Each tenant reads its session, and one tries to read the session of the other. -/
def readSessions : List (StorageEvent Bool) :=
  [{ adapter := false, call := .getItem "kinderhaus:leitung:auth-session" },
    { adapter := true, call := .getItem "liquisto:sales:auth-session" },
    { adapter := false, call := .getItem "liquisto:sales:auth-session" }]

theorem storage_isolated_twoTenants :
    (answers (call twoTenants) (opened (Dict.empty.set "liquisto:sales:auth-session" "session"))
        readSessions).filter
          (fun answer => decide (twoTenants answer.1.adapter = twoTenants false)) =
      answers (call twoTenants) (opened .empty)
        (readSessions.filter fun event =>
          decide (twoTenants event.adapter = twoTenants false)) := by
  refine storage_isolated twoTenants (by decide) (twoTenants false) (by decide) _ _ ?_ readSessions
  intro key inside
  refine Dict.get?_set_ne _ _ ?_
  rintro rfl
  exact absurd inside (by decide)

/-- When the scope has no other adapter and the backend has done every delete of the key, a purge
leaves of its keys exactly the values that were there before the adapter, as far as it
has not written to them. -/
theorem purge_clears {ι : Type} [DecidableEq ι] (scopes : ι → Scope)
    (plain : ∀ adapter, Plain (scopes adapter)) (adapter : ι)
    (sole : ∀ peer, scopes peer = scopes adapter → peer = adapter) (backend : Dict Text Text)
    (events : List (StorageEvent ι)) (tenantId areaId : Json) (outcome : Text → BackendOutcome)
    (own : assertTenantScopeMatches tenantId areaId (scopes adapter) = .ok ())
    (key : Text) (inside : scopePrefix (scopes adapter) <+: key) :
    let run := events ++ [⟨adapter, .purgeScope tenantId areaId, outcome⟩]
    let purged := ending (call scopes) (opened backend) run
    (Written events adapter key → Obeyed run adapter key → purged.backend.get? key = none) ∧
      (¬Written events adapter key → purged.backend.get? key = backend.get? key) := by
  have apart : ∀ peer, peer ≠ adapter → ¬scopePrefix (scopes peer) <+: key :=
    fun peer differ other =>
    differ (sole peer (scope_eq_of_key (plain peer) (plain adapter) other inside))
  have start : Accounted scopes backend adapter key [] (opened backend) :=
    ⟨kept_opened backend, fun wrote => by simp [Written] at wrote, fun _ => ⟨rfl, by simp [opened]⟩⟩
  have accounted : Accounted scopes backend adapter key events
      (ending (call scopes) (opened backend) events) :=
    ending_induction start (fun _ event _ accounted => accounted.call inside apart event) events
  intro run purged
  have purged_eq : purged.backend.get? key =
      if key ∈ (ending (call scopes) (opened backend) events).knownKeys adapter ∧
          (outcome key).done = true then none
      else (ending (call scopes) (opened backend) events).backend.get? key := by
    change (ending (call scopes) _ _).backend.get? key = _
    rw [ending_append]
    change (call scopes _ ⟨adapter, .purgeScope tenantId areaId, outcome⟩).2.backend.get? key = _
    simp only [SecureStorage.call, own]
    exact purge_get? _ key
  rw [purged_eq]
  constructor
  · intro wrote obeyed
    obtain ⟨earlier, now⟩ := obeyed_append.mp obeyed
    have done := now _ (List.mem_singleton_self _) rfl (.inr ⟨tenantId, areaId, rfl⟩)
    split
    · rfl
    · rename_i unknown
      exact (accounted.written wrote earlier).resolve_left fun known => unknown ⟨known, done⟩
  · intro unwritten
    obtain ⟨value, unknown⟩ := accounted.untouched unwritten
    rw [if_neg fun known => unknown known.1, value]

/-- A session is stored, then a purge is rejected before its delete, then another one is made. -/
def purgedTwice : List (StorageEvent Bool) :=
  [{ adapter := false, call := .setItem "kinderhaus:leitung:auth-session" "session" },
    { adapter := false, call := .purgeScope (.str "kinderhaus") (.str "leitung"),
      outcome := fun _ => .rejected false "locked" },
    { adapter := false, call := .purgeScope (.str "kinderhaus") (.str "leitung") }]

/-- The rejected purge has forgotten the key. -/
example : (ending (call twoTenants) (opened .empty) purgedTwice).backend.get?
    "kinderhaus:leitung:auth-session" = some "session" := by decide

theorem purge_clears_session :
    (ending (call twoTenants) (opened .empty)
      ([{ adapter := false, call := .setItem "kinderhaus:leitung:auth-session" "session" }] ++
        [⟨false, .purgeScope (.str "kinderhaus") (.str "leitung"),
          fun _ => .fulfilled⟩])).backend.get?
      "kinderhaus:leitung:auth-session" = none :=
  (purge_clears twoTenants (by decide) false (by decide) .empty
    [{ adapter := false, call := .setItem "kinderhaus:leitung:auth-session" "session" }]
    (.str "kinderhaus") (.str "leitung") (fun _ => .fulfilled) (by decide)
    "kinderhaus:leitung:auth-session" (by decide)).1
    ⟨_, List.mem_singleton_self _, rfl, .inl ⟨"session", rfl⟩⟩
    (List.forall_mem_append.mpr
      ⟨List.forall_mem_singleton.mpr fun _ _ => rfl, List.forall_mem_singleton.mpr fun _ _ => rfl⟩)

end StorageIsolation

end SkillCentric.TenantWorkbench
