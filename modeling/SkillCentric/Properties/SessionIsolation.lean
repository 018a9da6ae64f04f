import SkillCentric.Library.Conduct
import SkillCentric.Workbench.Client

/-!
# Sessions and the cache of the workbench client

The cache knows nothing of the session.  As long as the session changes only between calls and with
nothing cached, and a client without API transport is asked for data only in sessions of its own
tenant, every value is returned in a session like the one it was loaded under.
-/

namespace SkillCentric.TenantWorkbench.SessionIsolation

open Program

/-- The calls of a client. -/
inductive ClientCall where
  | getCurrentUser
  | getNavigation
  | getDashboard
  | getSection (routeId : Text)
  | getSnapshot
  | listTasks
  | purgeOfflineSummary
  deriving DecidableEq

namespace ClientCall

/-- The program of a call. -/
def program (client : Client) : ClientCall → Async Answer
  | .getCurrentUser => client.getCurrentUser
  | .getNavigation => client.getNavigation
  | .getDashboard => client.getDashboard
  | .getSection routeId => client.getSection routeId
  | .getSnapshot => client.getSnapshot
  | .listTasks => client.listTasks
  | .purgeOfflineSummary => client.purgeOfflineSummary

def asks (client : Client) : ClientCall → Bool
  | .getCurrentUser | .purgeOfflineSummary => true
  | _ => client.apiTransport

end ClientCall

/-- A call and the session there is when it is made. -/
structure Asked where
  call : ClientCall
  session : AuthSession

abbrev Calls := Pool Op.Reply Surroundings Asked ClientError Answer

/-- What can happen. -/
inductive ClientStep where
  | call (call : ClientCall)
  | advance (index : Nat)
  | reject (index : Nat) (error : ClientError)
  | session (session : AuthSession)
  | remote (answers : ApiRequest → Json)
  | offline (snapshot : Json)
  | tick (clock : Text)

section Model

variable (client : Client)

/-- The session of the client. -/
def current (state : Surroundings) : AuthSession :=
  resolveTenantAuthSession client.authAdapter state.session

/-- One step. -/
def perform (calls : Calls) : ClientStep → Calls
  | .call made =>
      (calls.spawn ⟨made, current client calls.state⟩ (made.program client)).step
        (exec client.authAdapter) calls.threads.length
  | .advance index => calls.step (exec client.authAdapter) index
  | .reject index error => calls.crash index (.error error)
  | .session session => { calls with state := { calls.state with session } }
  | .remote answers => { calls with state := { calls.state with remote := answers } }
  | .offline snapshot => { calls with state := { calls.state with offline := snapshot } }
  | .tick clock => { calls with state := { calls.state with clock } }

/-- A client with an empty cache. -/
def fresh (session : AuthSession) (remote : ApiRequest → Json) (offline : Json) (clock : Text) :
    Calls :=
  ⟨⟨fun _ => none, session, remote, offline, clock⟩, []⟩

/-- The session names another tenant or area than the client. -/
def Foreign (session : AuthSession) : Prop :=
  (∃ tenantId ∈ session.claims.tenantId, tenantId ≠ [] ∧
      tenantId ≠ client.definition.scope.tenantId) ∨
    ∃ areaId ∈ session.claims.areaId, areaId ≠ [] ∧ areaId ≠ client.definition.scope.areaId

/-- The principal of a session. -/
def principal (session : AuthSession) : Text :=
  session.claims.principalId.getD (session.claims.email.getD [])

/-- Two sessions of one principal in the same state. -/
def SameSession (left right : AuthSession) : Prop :=
  left.state = right.state ∧ principal left = principal right

instance (session : AuthSession) : Decidable (Foreign client session) :=
  inferInstanceAs (Decidable (_ ∨ _))

instance (left right : AuthSession) : Decidable (SameSession left right) :=
  inferInstanceAs (Decidable (_ ∧ _))

/-- What a call made in a session returns was loaded under such a session, and a call made in a
foreign session returns nothing. -/
def Answers (session : AuthSession) : Async Answer → Prop
  | .done (.ok (.user _ under)) | .done (.ok (.data _ under)) =>
      SameSession under session ∧ ¬Foreign client session
  | _ => True

instance (session : AuthSession) (program : Async Answer) :
    Decidable (Answers client session program) :=
  match program with
  | .done (.ok (.user _ _)) | .done (.ok (.data _ _)) => inferInstanceAs (Decidable (_ ∧ _))
  | .done (.ok .purged) | .done (.error _) | .call _ _ => .isTrue trivial

/-- The sessions of a client are isolated. -/
def Isolated (calls : Calls) : Prop :=
  ∀ thread ∈ calls.threads, Answers client thread.info.session thread.program

instance (calls : Calls) : Decidable (Isolated client calls) :=
  inferInstanceAs (Decidable (∀ thread ∈ calls.threads, _))

/-- Sessions that the client cannot be asked to tell apart. -/
structure Alike (left right : AuthSession) : Prop where
  same : SameSession left right
  foreign : Foreign client left ↔ Foreign client right

/-- Nothing is cached and no call is under way. -/
def Idle (calls : Calls) : Prop :=
  (∀ key entry, calls.state.cache key = some entry → key.isNull entry.value = true) ∧
    ∀ thread ∈ calls.threads, ¬thread.Live

/-- The session changes only while nothing is cached and no call is under way, and in a foreign
session a client without API transport is not asked for data. -/
def Orderly (calls : Calls) : ClientStep → Prop
  | .session session =>
      Alike client (current client calls.state)
          (resolveTenantAuthSession client.authAdapter session) ∨ Idle calls
  | .call made => Foreign client (current client calls.state) → made.asks client = true
  | _ => True

/-- All steps meet the condition. -/
def AllOrderly (calls : Calls) : List ClientStep → Prop
  | [] => True
  | step :: rest => Orderly client calls step ∧ AllOrderly (perform client calls step) rest

end Model
section Conduct

variable (client : Client)

/-- The call has loaded, or found in the cache, something under the session. -/
inductive Loaded (call : ClientCall) (past : Past Op Surroundings) (under : AuthSession) : Prop
  | cached (key : QueryKey) (state : Surroundings) (entry : CacheEntry key.Value)
      (read : (Op.readCache key, state) ∈ past) (found : state.cache key = some entry)
      (value : key.isNull entry.value = false) (same : entry.under = under)
  | requested (state : Surroundings) (read : (Op.getSession, state) ∈ past)
      (same : under = current client state) (own : ¬Foreign client under)
  | defined (state : Surroundings) (read : (Op.readDefinition, state) ∈ past)
      (same : under = current client state) (plain : call.asks client = false)

/-- What is cached was loaded for the session it is cached under. -/
def Rule (asked : Asked) (past : Past Op Surroundings) : Op → Prop
  | .writeCache _ _ under => Loaded client asked.call past under
  | _ => True

/-- What is answered was loaded for the session of the answer. -/
def Ends (asked : Asked) (past : Past Op Surroundings) (outcome : Except ClientError Answer) :
    Prop :=
  ∀ answer, outcome = .ok answer →
    match answer with
    | .user _ under | .data _ under => Loaded client asked.call past under
    | .purged => True

variable {client} {asked : Asked}

theorem Loaded.mono {call : ClientCall} {past more : Past Op Surroundings} {under : AuthSession}
    (loaded : Loaded client call past under) : Loaded client call (past ++ more) under := by
  cases loaded with
  | cached key state entry read found value same =>
      exact .cached key state entry (List.mem_append_left _ read) found value same
  | requested state read same own => exact .requested state (List.mem_append_left _ read) same own
  | defined state read same plain => exact .defined state (List.mem_append_left _ read) same plain

theorem own_of_checkClaims {session : AuthSession}
    (passed : client.checkClaims session.claims = .ok ()) : ¬Foreign client session := by
  unfold Client.checkClaims at passed
  dsimp only at passed
  split at passed
  · unfold assertTenantScopeMatches at passed
    split at passed
    · cases passed
    split at passed
    · cases passed
    rename_i same
    rw [not_or, not_not, not_not] at same
    rintro (⟨tenantId, named, -, differs⟩ | ⟨areaId, named, -, differs⟩)
    · rw [Option.mem_def.mp named] at same
      exact differs (Json.str.inj same.1)
    · rw [Option.mem_def.mp named] at same
      exact differs (Json.str.inj same.2)
  · rename_i silent
    rw [Bool.or_eq_true, not_or, Bool.not_eq_true, Bool.not_eq_true] at silent
    rintro (⟨tenantId, named, present, -⟩ | ⟨areaId, named, present, -⟩)
    · rw [Option.mem_def.mp named] at silent
      exact present (by simpa [isTruthy, optionalText, Json.truthy] using silent.1)
    · rw [Option.mem_def.mp named] at silent
      exact present (by simpa [isTruthy, optionalText, Json.truthy] using silent.2)

/-- The program obeys the rule. -/
abbrev Keeping (client : Client) (asked : Asked) {α : Type}
    (before : Past Op Surroundings → Prop) (program : Async α)
    (after : α → Past Op Surroundings → Prop) : Prop :=
  Conduct (exec client.authAdapter) (Rule client asked) before program after

theorem keeping_await {before : Past Op Surroundings → Prop} {op : Op}
    (lasts : ∀ past entry, before past → before (past ++ [entry]))
    (rule : ∀ past, Rule client asked past op) :
    Keeping client asked before (await op) fun _ => before :=
  conduct_op fun past holds => ⟨rule past, fun _ => lasts past _ holds⟩

theorem keeping_getSession :
    Keeping client asked (fun _ => True) client.getSession
      fun session past => Loaded client asked.call past session := by
  have read : Keeping client asked (fun _ => True) (await .getSession) fun session past =>
      ∃ state, (Op.getSession, state) ∈ past ∧ session = current client state :=
    conduct_op fun past _ => ⟨trivial, fun state =>
      ⟨state, List.mem_append_right _ (List.mem_singleton_self _), rfl⟩⟩
  refine conduct_bind read fun session => ?_
  refine conduct_bind (conduct_ofExcept fun _ past passed read => ?_) fun _ =>
    conduct_pure fun _ loaded => loaded
  obtain ⟨state, listed, same⟩ := read
  exact .requested state listed same (own_of_checkClaims passed)

theorem loaded_lasts {under : AuthSession} (past : Past Op Surroundings)
    (entry : Op × Surroundings) (loaded : Loaded client asked.call past under) :
    Loaded client asked.call (past ++ [entry]) under := loaded.mono

theorem keeping_requestFromApi {path : Text}
    (plain : client.apiTransport = false → asked.call.asks client = false) :
    Keeping client asked (fun _ => True) (client.requestFromApi path)
      fun answer past => Loaded client asked.call past answer.2 := by
  unfold Client.requestFromApi
  split
  · refine conduct_bind keeping_getSession fun session => ?_
    refine conduct_bind (keeping_await loaded_lasts fun _ => trivial) fun value => ?_
    exact conduct_pure fun _ loaded => loaded
  · rename_i transport
    have read : Keeping client asked (fun _ => True) (await .readDefinition) fun session past =>
        Loaded client asked.call past session :=
      conduct_op fun past _ => ⟨trivial, fun state =>
        .defined state (List.mem_append_right _ (List.mem_singleton_self _)) rfl
          (plain (by simpa using transport))⟩
    exact conduct_bind read fun session => conduct_pure fun _ loaded => loaded

theorem keeping_requestOr {path : Text} {fallback : Json}
    (plain : client.apiTransport = false → asked.call.asks client = false) :
    Keeping client asked (fun _ => True) (client.requestOr path fallback)
      fun answer past => Loaded client asked.call past answer.2 :=
  conduct_bind (keeping_requestFromApi plain) fun _ => conduct_pure fun _ loaded => loaded

theorem keeping_loadSnapshot
    (plain : client.apiTransport = false → asked.call.asks client = false) :
    Keeping client asked (fun _ => True) client.loadSnapshot
      fun answer past => Loaded client asked.call past answer.2 := by
  refine conduct_bind (keeping_requestFromApi plain) fun ⟨remote, session⟩ => ?_
  dsimp only
  have returned (value : Json) : Keeping client asked
      (fun past => Loaded client asked.call past session) (pure (value, session))
      fun answer past => Loaded client asked.call past answer.2 :=
    conduct_pure fun _ loaded => loaded
  have checked {outcome : Except ClientError Unit} : Keeping client asked
      (fun past => Loaded client asked.call past session) (Program.ofExcept outcome)
      fun _ past => Loaded client asked.call past session :=
    conduct_ofExcept fun _ _ _ loaded => loaded
  have stepped {op : Op} (rule : ∀ past, Rule client asked past op) : Keeping client asked
      (fun past => Loaded client asked.call past session) (await op)
      fun _ past => Loaded client asked.call past session := keeping_await loaded_lasts rule
  split
  · exact conduct_bind checked fun _ => returned remote
  have stored : Keeping client asked (fun past => Loaded client asked.call past session)
      client.readOffline fun _ past => Loaded client asked.call past session := by
    unfold Client.readOffline
    split
    · exact stepped fun _ => trivial
    · exact conduct_pure fun _ loaded => loaded
  have written (snapshot : Json) : Keeping client asked
      (fun past => Loaded client asked.call past session) (client.writeOffline snapshot)
      fun _ past => Loaded client asked.call past session := by
    unfold Client.writeOffline
    split
    · exact stepped fun _ => trivial
    · exact conduct_pure fun _ loaded => loaded
  refine conduct_bind stored fun offline => ?_
  split
  · exact conduct_bind checked fun _ => returned offline
  refine conduct_bind (stepped fun _ => trivial) fun cachedAt => ?_
  exact conduct_bind (written _) fun _ => returned _

theorem keeping_readQuery {key : QueryKey} {loader : Async (key.Value × AuthSession)}
    (loads : Keeping client asked (fun _ => True) loader
      fun answer past => Loaded client asked.call past answer.2) :
    Keeping client asked (fun _ => True) (Client.readQuery key loader)
      fun answer past => Loaded client asked.call past answer.2 := by
  have read : Keeping client asked (fun _ => True) (await (.readCache key)) fun cached past =>
      ∃ state, (Op.readCache key, state) ∈ past ∧ cached = state.cache key :=
    conduct_op fun past _ => ⟨trivial, fun state =>
      ⟨state, List.mem_append_right _ (List.mem_singleton_self _), rfl⟩⟩
  refine conduct_bind read fun cached => ?_
  split
  · rename_i entry found
    refine conduct_pure fun past read => ?_
    obtain ⟨state, listed, same⟩ := read
    obtain ⟨found, value⟩ := Option.filter_eq_some_iff.mp found
    exact .cached key state entry listed (same ▸ found) (by simpa using value) rfl
  · have loads : Keeping client asked (fun past =>
        ∃ state, (Op.readCache key, state) ∈ past ∧ cached = state.cache key) loader
        fun answer past => Loaded client asked.call past answer.2 :=
      fun past _ => loads past trivial
    refine conduct_bind loads fun ⟨value, under⟩ => ?_
    have write : Keeping client asked (fun past => Loaded client asked.call past under)
        (await (.writeCache key value under)) fun _ past => Loaded client asked.call past under :=
      conduct_op fun past loaded => ⟨loaded, fun state => loaded.mono⟩
    exact conduct_bind write fun _ => conduct_pure fun _ loaded => loaded

theorem program_keeps (asked : Asked) :
    (asked.call.program client).Keeps (exec client.authAdapter) (Rule client asked)
      (Ends client asked) [] := by
  have data {key : QueryKey} {loader : Async (key.Value × AuthSession)} {answer : key.Value → Json}
      (loads : Keeping client asked (fun _ => True) loader
        fun answer past => Loaded client asked.call past answer.2) :
      Keeping client asked (fun _ => True)
        (do let read ← Client.readQuery key loader
            return Answer.data (answer read.1) read.2)
        fun value past => Ends client asked past (.ok value) := by
    refine conduct_bind (keeping_readQuery loads) fun read => ?_
    exact conduct_pure fun past loaded answer same => by cases same; exact loaded
  have conduct : Keeping client asked (fun _ => True) (asked.call.program client)
      fun value past => Ends client asked past (.ok value) := by
    obtain ⟨call, session⟩ := asked
    cases call with
    | getCurrentUser =>
        have loads : Keeping client ⟨.getCurrentUser, session⟩ (fun _ => True)
            (do let session ← client.getSession
                return (session, session))
            fun answer past => Loaded client .getCurrentUser past answer.2 :=
          conduct_bind keeping_getSession fun session => conduct_pure fun _ loaded => loaded
        refine conduct_bind (@keeping_readQuery client _ .currentUser _ loads) fun read => ?_
        exact conduct_pure fun past loaded answer same => by cases same; exact loaded
    | getNavigation => exact @data .navigation _ id (keeping_requestOr id)
    | getDashboard => exact @data .dashboard _ id (keeping_requestOr id)
    | getSection routeId => exact @data (.section routeId) _ id (keeping_requestOr id)
    | getSnapshot => exact @data .snapshot _ id (keeping_loadSnapshot id)
    | listTasks => exact @data .tasks _ id (keeping_requestOr id)
    | purgeOfflineSummary =>
        have stepped {op : Op}
            (rule : ∀ past, Rule client ⟨.purgeOfflineSummary, session⟩ past op) :
            Keeping client ⟨.purgeOfflineSummary, session⟩ (fun _ => True) (await op)
              fun _ _ => True := keeping_await (fun _ _ _ => trivial) rule
        refine conduct_bind (stepped fun _ => trivial) fun _ => ?_
        have purged : Keeping client ⟨.purgeOfflineSummary, session⟩ (fun _ => True)
            client.purgeOffline fun _ _ => True := by
          unfold Client.purgeOffline
          split
          · exact stepped fun _ => trivial
          · exact conduct_pure fun _ _ => trivial
        exact conduct_bind purged fun _ => conduct_pure fun past _ answer same => by
          cases same
          trivial
  refine (conduct [] trivial).mono fun past outcome post answer same => ?_
  subst same
  exact post answer rfl answer rfl

end Conduct
section Runs

variable {client : Client} {calls : Calls} {left right other : AuthSession}

theorem Alike.refl (session : AuthSession) : Alike client session session :=
  ⟨⟨rfl, rfl⟩, Iff.rfl⟩

theorem Alike.symm (alike : Alike client left right) : Alike client right left :=
  ⟨⟨alike.same.1.symm, alike.same.2.symm⟩, alike.foreign.symm⟩

theorem Alike.trans (first : Alike client left right) (second : Alike client right other) :
    Alike client left other :=
  ⟨⟨first.same.1.trans second.same.1, first.same.2.trans second.same.2⟩,
    first.foreign.trans second.foreign⟩

/-- The values of the cache were loaded under sessions like the current one, which is of the
tenant. -/
def Settled (client : Client) (state : Surroundings) : Prop :=
  ∀ key entry, state.cache key = some entry → key.isNull entry.value = false →
    Alike client entry.under (current client state) ∧ ¬Foreign client entry.under

/-- What every step keeps. -/
structure Inv (client : Client) (calls : Calls) : Prop where
  conducted : calls.ConductedFor (exec client.authAdapter) (Rule client) (Ends client)
  settled : Settled client calls.state
  asked : ∀ thread ∈ calls.threads, Foreign client thread.info.session →
    thread.info.call.asks client = true
  past : ∀ thread ∈ calls.threads, ∀ entry ∈ thread.past,
    Alike client thread.info.session (current client entry.2) ∧ Settled client entry.2
  live : ∀ thread ∈ calls.threads, thread.Live →
    Alike client thread.info.session (current client calls.state)

theorem Inv.loaded (inv : Inv client calls)
    {thread : Thread Op.Reply Surroundings Asked ClientError Answer}
    (listed : thread ∈ calls.threads) {under : AuthSession}
    (loaded : Loaded client thread.info.call thread.past under) :
    Alike client under thread.info.session ∧ ¬Foreign client under := by
  cases loaded with
  | cached key state entry read found value same =>
      obtain ⟨then_, settled⟩ := inv.past thread listed _ read
      obtain ⟨alike, own⟩ := settled key entry found value
      subst same
      exact ⟨alike.trans then_.symm, own⟩
  | requested state read same own =>
      obtain ⟨then_, -⟩ := inv.past thread listed _ read
      subst same
      exact ⟨then_.symm, own⟩
  | defined state read same plain =>
      obtain ⟨then_, -⟩ := inv.past thread listed _ read
      subst same
      refine ⟨then_.symm, fun foreign => ?_⟩
      have asks := inv.asked thread listed (then_.foreign.mpr foreign)
      rw [plain] at asks
      cases asks

theorem exec_current (op : Op) (state : Surroundings) :
    current client (exec client.authAdapter op state).2 = current client state := by
  cases op <;> rfl

theorem Settled.exec {state : Surroundings} (settled : Settled client state) {op : Op}
    (written : ∀ key value under, op = .writeCache key value under →
      Alike client under (current client state) ∧ ¬Foreign client under) :
    Settled client (exec client.authAdapter op state).2 := by
  intro key entry found value
  rw [exec_current]
  cases op with
  | writeCache target stored under =>
      by_cases same : key = target
      · subst same
        simp only [TenantWorkbench.exec, Function.update_self, Option.some.injEq] at found
        subst found
        exact written key stored under rfl
      · simp only [TenantWorkbench.exec, Function.update_of_ne same] at found
        exact settled key entry found value
  | clearCache => cases found
  | _ => exact settled key entry found value

theorem Inv.advance (inv : Inv client calls) (index : Nat) :
    Inv client (calls.step (exec client.authAdapter) index) := by
  cases found : calls.threads[index]? with
  | none =>
      rw [Pool.step_of_none _ found]
      exact inv
  | some mover =>
  have conducted := inv.conducted.step index
  rw [Pool.step_of_thread _ found] at conducted ⊢
  have listed := List.mem_of_getElem? found
  have kept : current client (mover.effect (exec client.authAdapter) calls.state) =
      current client calls.state := by
    unfold Thread.effect
    split
    · rfl
    · exact exec_current _ _
  have each {p : Thread Op.Reply Surroundings Asked ClientError Answer → Prop}
      (old : ∀ thread ∈ calls.threads, p thread)
      (new : p (mover.advance (exec client.authAdapter) calls.state)) :
      ∀ thread ∈ calls.threads.set index (mover.advance (exec client.authAdapter) calls.state),
        p thread := by
    intro thread member
    rcases List.mem_or_eq_of_mem_set member with before | rfl
    · exact old thread before
    · exact new
  refine ⟨conducted, ?_, each inv.asked ?_, each inv.past ?_, ?_⟩
  · cases next : mover.nextOp with
    | none =>
        rw [Thread.effect_of_done _ next]
        exact inv.settled
    | some op =>
        rw [Thread.effect_of_nextOp _ next]
        refine inv.settled.exec fun key value under same => ?_
        subst same
        have live : mover.Live := by simp [Thread.Live, next]
        obtain ⟨alike, own⟩ := inv.loaded listed (inv.conducted.follows found next)
        exact ⟨alike.trans (inv.live mover listed live), own⟩
  · rw [Thread.advance_info]
    exact inv.asked mover listed
  · rw [Thread.advance_info]
    cases program : mover.program with
    | done outcome =>
        rw [Thread.advance, program]
        exact inv.past mover listed
    | call op next =>
        have live : mover.Live := by simp [Thread.Live, Thread.nextOp, program]
        simp only [Thread.advance, program]
        exact List.forall_mem_append.mpr ⟨inv.past mover listed,
          List.forall_mem_singleton.mpr ⟨inv.live mover listed live, inv.settled⟩⟩
  · rw [kept]
    refine each inv.live fun live => ?_
    rw [Thread.advance_info]
    refine inv.live mover listed ?_
    cases program : mover.program with
    | done outcome =>
        rw [Thread.advance, program] at live
        exact live
    | call op next => simp [Thread.Live, Thread.nextOp, program]

theorem Inv.spawn (inv : Inv client calls) {made : ClientCall}
    (asks : Foreign client (current client calls.state) → made.asks client = true) :
    Inv client (calls.spawn ⟨made, current client calls.state⟩ (made.program client)) := by
  refine ⟨inv.conducted.spawn (program_keeps ⟨made, current client calls.state⟩), inv.settled,
    ?_, ?_, ?_⟩
  · exact List.forall_mem_append.mpr ⟨inv.asked, List.forall_mem_singleton.mpr asks⟩
  · exact List.forall_mem_append.mpr
      ⟨inv.past, List.forall_mem_singleton.mpr (List.forall_mem_nil _)⟩
  · exact List.forall_mem_append.mpr
      ⟨inv.live, List.forall_mem_singleton.mpr fun _ => Alike.refl _⟩

theorem Inv.crash (inv : Inv client calls) (index : Nat) (error : ClientError) :
    Inv client (calls.crash index (.error error)) := by
  have origin {thread : Thread Op.Reply Surroundings Asked ClientError Answer}
      (member : thread ∈ (calls.crash index (.error error)).threads) :
      ∃ old ∈ calls.threads, thread.info = old.info ∧ thread.past = old.past ∧
        (thread.Live → old.Live) := by
    obtain ⟨other, found⟩ := List.getElem?_of_mem member
    obtain ⟨old, located, info, past⟩ := Pool.crash_past found
    obtain ⟨same, located', -, rfl | dropped⟩ := Pool.getElem?_crash found
    · exact ⟨thread, List.mem_of_getElem? located', rfl, rfl, id⟩
    · refine ⟨old, List.mem_of_getElem? located, info, past, fun live => ?_⟩
      rw [Thread.Live, Thread.nextOp, dropped] at live
      cases live
  refine ⟨inv.conducted.crash ?_, inv.settled, ?_, ?_, ?_⟩
  · intro _ _ _ raised
    cases raised
  · intro thread member
    obtain ⟨old, listed, info, -, -⟩ := origin member
    rw [info]
    exact inv.asked old listed
  · intro thread member
    obtain ⟨old, listed, info, past, -⟩ := origin member
    rw [info, past]
    exact inv.past old listed
  · intro thread member live
    obtain ⟨old, listed, info, -, alive⟩ := origin member
    rw [info]
    exact inv.live old listed (alive live)

theorem Inv.perform (inv : Inv client calls) {step : ClientStep}
    (orderly : Orderly client calls step) :
    Inv client (perform client calls step) := by
  cases step with
  | call made => exact (inv.spawn orderly).advance _
  | advance index => exact inv.advance index
  | reject index error => exact inv.crash index error
  | session session =>
      rcases orderly with alike | ⟨empty, finished⟩
      · refine ⟨inv.conducted, fun key entry found value => ?_, inv.asked, inv.past,
          fun thread listed live => (inv.live thread listed live).trans alike⟩
        obtain ⟨before, own⟩ := inv.settled key entry found value
        exact ⟨before.trans alike, own⟩
      · refine ⟨inv.conducted, fun key entry found value => ?_, inv.asked, inv.past,
          fun thread listed live => absurd live (finished thread listed)⟩
        rw [empty key entry found] at value
        cases value
  | remote answers => exact ⟨inv.conducted, inv.settled, inv.asked, inv.past, inv.live⟩
  | offline snapshot => exact ⟨inv.conducted, inv.settled, inv.asked, inv.past, inv.live⟩
  | tick clock => exact ⟨inv.conducted, inv.settled, inv.asked, inv.past, inv.live⟩

theorem inv_run {steps : List ClientStep} (inv : Inv client calls)
    (orderly : AllOrderly client calls steps) :
    Inv client (steps.foldl (perform client) calls) := by
  induction steps generalizing calls with
  | nil => exact inv
  | cons step rest ih => exact ih (inv.perform orderly.1) orderly.2

theorem Inv.isolated (inv : Inv client calls) : Isolated client calls := by
  intro thread listed
  obtain ⟨index, found⟩ := List.getElem?_of_mem listed
  have keeps := inv.conducted index thread found
  have own {under : AuthSession} (loaded : Loaded client thread.info.call thread.past under) :
      SameSession under thread.info.session ∧ ¬Foreign client thread.info.session := by
    obtain ⟨alike, own⟩ := inv.loaded listed loaded
    exact ⟨alike.same, fun foreign => own (alike.foreign.mpr foreign)⟩
  unfold Answers
  split
  · rename_i user under ended
    rw [ended] at keeps
    exact own (keeps _ rfl)
  · rename_i value under ended
    rw [ended] at keeps
    exact own (keeps _ rfl)
  · trivial

private theorem inv_fresh (session : AuthSession) (remote : ApiRequest → Json) (offline : Json)
    (clock : Text) : Inv client (fresh session remote offline clock) := by
  refine ⟨fun index thread found => ?_, fun key entry found => ?_, List.forall_mem_nil _,
    List.forall_mem_nil _, List.forall_mem_nil _⟩
  · cases found
  · cases found

/-- In every run of orderly steps the sessions of a client are isolated. -/
theorem sessions_isolated (client : Client) (session : AuthSession) (remote : ApiRequest → Json)
    (offline : Json) (clock : Text) (steps : List ClientStep)
    (orderly : AllOrderly client (fresh session remote offline clock) steps) :
    Isolated client (steps.foldl (perform client) (fresh session remote offline clock)) :=
  (inv_run (inv_fresh session remote offline clock) orderly).isolated

end Runs

section Samples

def sampleClient : Client where
  definition :=
    { scope := ⟨"tenant_kinderhaus", "kinderhaus-heuschrecken"⟩
      hero := .null
      navigation := .arr [.str "today"]
      dailySignals := .arr []
      quickActions := .arr []
      sections := []
      privacyRules := .arr [] }
  authAdapter := .sessions
  apiTransport := false
  offlineSummaryStore := false

def sampleSession (email : Text) : AuthSession where
  state := .authenticated
  claims :=
    { email := some email
      tenantId := some "tenant_kinderhaus"
      areaId := some "kinderhaus-heuschrecken" }

def strangerSession : AuthSession where
  state := .authenticated
  claims :=
    { email := some "eve@example.org", tenantId := some "tenant_other", areaId := some "other" }

def sampleStart : Calls := fresh (sampleSession "ada@example.org") (fun _ => .null) .null "09:00"

def afterLogout : List ClientStep :=
  [.call .getCurrentUser, .advance 0, .advance 0, .session (sampleSession "bob@example.org"),
    .call .getCurrentUser]

def byStranger : List ClientStep :=
  [.session strangerSession, .call .getNavigation, .advance 0, .advance 0]

def afterPurge : List ClientStep :=
  [.call .getCurrentUser, .advance 0, .advance 0, .call .purgeOfflineSummary,
    .session (sampleSession "bob@example.org"), .call .getCurrentUser, .advance 2, .advance 2]

theorem sessions_isolated_afterPurge :
    Isolated sampleClient (afterPurge.foldl (perform sampleClient) sampleStart) := by
  refine sessions_isolated sampleClient (sampleSession "ada@example.org") (fun _ => .null) .null
    "09:00" afterPurge
    ⟨fun _ => rfl, trivial, trivial, fun _ => rfl, .inr ⟨fun key entry found => ?_, ?_⟩,
      fun _ => rfl, trivial, trivial, trivial⟩
  · cases found
  · decide

/-- Bob is told he is Ada, and a stranger gets the navigation of the tenant. -/
theorem sessions_not_isolated :
    ¬Isolated sampleClient (afterLogout.foldl (perform sampleClient) sampleStart) ∧
      ¬Isolated sampleClient (byStranger.foldl (perform sampleClient) sampleStart) := by
  decide

end Samples

end SkillCentric.TenantWorkbench.SessionIsolation
