import SkillCentric.Library.Pool
import SkillCentric.Runtime.Artifacts

/-!
# The tenant workbench client

`createTenantWorkbenchClient`: queries through a cache, answered by an API transport, an offline
store, or the definition of the workbench.  Data that the client only hands on are JSON values, and
`undefined` is `null`.
-/

namespace SkillCentric.TenantWorkbench

/-- `TenantWorkbenchAuthState`. -/
inductive AuthState where
  | authenticated | anonymous | expired
  deriving DecidableEq

/-- `TenantWorkbenchAuthClaims`. -/
structure AuthClaims where
  email : Option Text := none
  principalId : Option Text := none
  tenantId : Option Text := none
  areaId : Option Text := none
  roles : Option (List Text) := none
  expiresAt : Option Text := none
  deriving DecidableEq

/-- `TenantWorkbenchAuthSession`. -/
structure AuthSession where
  state : AuthState
  claims : AuthClaims
  deriving DecidableEq

/-- `TenantWorkbenchScope`. -/
structure Scope where
  tenantId : Text
  areaId : Text
  deriving DecidableEq

/-- The truth test of the language: of all objects and lists, too. -/
def isTruthy : Json → Bool
  | .arr _ | .obj _ => true
  | value => value.truthy

/-- A text that may be missing. -/
def optionalText : Option Text → Json
  | none => .null
  | some text => .str text

/-- What is thrown. -/
inductive ClientError where
  /-- `TenantScopeError`. -/
  | scope (message : Text)
  /-- What an adapter, a transport or a store rejects with. -/
  | rejected (reason : Text)
  deriving DecidableEq

/-- `assertTenantScopeMatches`. -/
def assertTenantScopeMatches (tenantId areaId : Json) (expected : Scope) :
    Except ClientError Unit :=
  if !isTruthy tenantId || !isTruthy areaId then
    .error (.scope "Tenant workbench scope is incomplete.")
  else if tenantId ≠ .str expected.tenantId ∨ areaId ≠ .str expected.areaId then
    .error (.scope "Tenant workbench scope mismatch.")
  else .ok ()

/-- The check on the scope of a snapshot. -/
def assertSnapshotScope (snapshot : Json) (expected : Scope) : Except ClientError Unit :=
  let field (name : Text) : Json := (((snapshot.get? "scope").getD .null).get? name).getD .null
  assertTenantScopeMatches (field "tenantId") (field "areaId") expected

/-- What the auth adapter offers. -/
inductive AuthAdapter where
  /-- There is no adapter. -/
  | absent
  /-- `getSession` and `getClaims`. -/
  | sessions
  /-- `getClaims` only. -/
  | claims
  deriving DecidableEq

/-- `resolveTenantAuthSession`, when the adapter has the given session. -/
def resolveTenantAuthSession (adapter : AuthAdapter) (session : AuthSession) : AuthSession :=
  match adapter with
  | .absent => ⟨.anonymous, {}⟩
  | .sessions => session
  | .claims =>
      let known := isTruthy (optionalText session.claims.email)
      ⟨if known then .authenticated else .anonymous, session.claims⟩

/-- `TenantWorkbenchQueryKey`. -/
inductive QueryKey where
  | currentUser
  | navigation
  | dashboard
  | section (routeId : Text)
  | tasks
  | snapshot
  deriving DecidableEq

/-- What is cached under a key. -/
def QueryKey.Value : QueryKey → Type
  | .currentUser => AuthSession
  | _ => Json

/-- `value === null`. -/
def QueryKey.isNull : (key : QueryKey) → key.Value → Bool
  | .currentUser, _ => false
  | .navigation, value | .dashboard, value | .section _, value | .tasks, value
  | .snapshot, value => Json.same value .null

/-- An entry of the memory cache. -/
structure CacheEntry (α : Type) where
  value : α
  updatedAt : Text
  /-- No part of the code's entry: the session the value was loaded under. -/
  under : AuthSession

/-- `TenantWorkbenchApiRequest`, of method `GET`. -/
structure ApiRequest where
  path : Text
  scope : Scope
  session : AuthSession
  deriving DecidableEq

/-- What the client works on. -/
structure Surroundings where
  /-- `createTenantWorkbenchMemoryCache()`. -/
  cache : (key : QueryKey) → Option (CacheEntry key.Value)
  /-- The session of the auth adapter. -/
  session : AuthSession
  /-- The answers of the API transport. -/
  remote : ApiRequest → Json
  /-- The snapshot of the offline store. -/
  offline : Json
  /-- `new Date().toISOString()`. -/
  clock : Text

/-- The steps between which other calls and the surroundings may act. -/
inductive Op where
  | readCache (key : QueryKey)
  | writeCache (key : QueryKey) (value : key.Value) (under : AuthSession)
  | clearCache
  | getSession
  /-- No step of the code: the session there is when the definition is read. -/
  | readDefinition
  | requestJson (request : ApiRequest)
  | readSnapshot (scope : Scope)
  | writeSnapshot (scope : Scope) (snapshot : Json)
  | purge (scope : Scope)
  | now

/-- What a step returns. -/
@[reducible]
def Op.Reply : Op → Type
  | .readCache key => Option (CacheEntry key.Value)
  | .getSession | .readDefinition => AuthSession
  | .requestJson _ | .readSnapshot _ => Json
  | .now => Text
  | .writeCache _ _ _ | .clearCache | .writeSnapshot _ _ | .purge _ => Unit

/-- Perform one step. -/
def exec (adapter : AuthAdapter) : (op : Op) → Surroundings → op.Reply × Surroundings
  | .readCache key, state => (state.cache key, state)
  | .writeCache key value under, state =>
      ((), { state with
        cache := Function.update state.cache key (some ⟨value, state.clock, under⟩) })
  | .clearCache, state => ((), { state with cache := fun _ => none })
  | .getSession, state => (resolveTenantAuthSession adapter state.session, state)
  | .readDefinition, state => (resolveTenantAuthSession adapter state.session, state)
  | .requestJson request, state => (state.remote request, state)
  | .readSnapshot _, state => (state.offline, state)
  | .writeSnapshot _ snapshot, state => ((), { state with offline := snapshot })
  | .purge _, state => ((), { state with offline := .null })
  | .now, state => (state.clock, state)

/-- Asynchronous functions of the client. -/
abbrev Async := Program Op.Reply ClientError

/-- A step that is awaited. -/
def await (op : Op) : Async op.Reply := Program.op op

/-- `TenantWorkbenchDefinition`; the sections are in the order of `Object.values`. -/
structure Definition where
  scope : Scope
  hero : Json
  navigation : Json
  dailySignals : Json
  quickActions : Json
  sections : List Json
  privacyRules : Json

namespace Definition

variable (definition : Definition)

/-- `getSectionByRouteId`. -/
def getSectionByRouteId (routeId : Text) : Json :=
  (definition.sections.find? fun candidate =>
    candidate.get? "routeId" = some (.str routeId) ∨
      candidate.get? "sectionId" = some (.str routeId)).getD .null

/-- `getDashboardSnapshot`. -/
def getDashboardSnapshot : Json :=
  .obj [("hero", definition.hero), ("dailySignals", definition.dailySignals),
    ("quickActions", definition.quickActions), ("privacyRules", definition.privacyRules)]

/-- `createDefinitionSnapshot`. -/
def createDefinitionSnapshot (cachedAt : Text) : Json :=
  .obj
    [("scope", .obj [("tenantId", .str definition.scope.tenantId),
      ("areaId", .str definition.scope.areaId)]),
      ("navigation", definition.navigation), ("dashboard", definition.getDashboardSnapshot),
      ("sections", .arr definition.sections), ("cachedAt", .str cachedAt)]

end Definition

/-- `TenantWorkbenchUser`. -/
structure User where
  email : Text
  principalId : Text
  roles : List Text
  isAuthenticated : Bool
  scope : Scope
  deriving DecidableEq

/-- What a client is created from: which of its collaborators are configured. -/
structure Client where
  definition : Definition
  authAdapter : AuthAdapter
  apiTransport : Bool
  offlineSummaryStore : Bool

/-- What a call returns, and the session the value was loaded under. -/
inductive Answer where
  | user (user : User) (under : AuthSession)
  | data (value : Json) (under : AuthSession)
  | purged

/-- `encodeURIComponent`. -/
def encodeURIComponent (text : Text) : Text :=
  let digit (value : Nat) : Char := Char.ofNat (if value < 10 then 48 + value else 55 + value)
  text.flatMap fun char =>
    if char.isAlphanum || ("-_.!~*'()" : Text).contains char then [char]
    else (encodeUtf8 [char]).flatMap fun byte =>
      ['%', digit (byte.toNat / 16), digit (byte.toNat % 16)]

namespace Client

variable (client : Client)

/-- The check of `getSession`, made when a claim is there. -/
def checkClaims (claims : AuthClaims) : Except ClientError Unit :=
  let tenantId := optionalText claims.tenantId
  let areaId := optionalText claims.areaId
  if isTruthy tenantId || isTruthy areaId then
    assertTenantScopeMatches tenantId areaId client.definition.scope
  else .ok ()

/-- `getSession`. -/
def getSession : Async AuthSession := do
  let session ← await .getSession
  Program.ofExcept (client.checkClaims session.claims)
  return session

/-- `readQuery`, with the session the value was loaded under. -/
def readQuery (key : QueryKey) (loader : Async (key.Value × AuthSession)) :
    Async (key.Value × AuthSession) := do
  let cached ← await (.readCache key)
  match cached.filter fun entry => !key.isNull entry.value with
  | some entry => return (entry.value, entry.under)
  | none =>
      let (value, under) ← loader
      await (.writeCache key value under)
      return (value, under)

/-- `requestFromApi`, with the session of the request. -/
def requestFromApi (path : Text) : Async (Json × AuthSession) :=
  if client.apiTransport then do
    let session ← client.getSession
    let value ← await (.requestJson { path, scope := client.definition.scope, session })
    return (value, session)
  else do
    let session ← await .readDefinition
    return (.null, session)

/-- `remote ?? fallback`. -/
def requestOr (path : Text) (fallback : Json) : Async (Json × AuthSession) := do
  let (remote, session) ← client.requestFromApi path
  return (if remote = .null then fallback else remote, session)

/-- The user of a session. -/
def userOf (session : AuthSession) : User :=
  let email := session.claims.email.getD []
  { email
    principalId := session.claims.principalId.getD email
    roles := session.claims.roles.getD []
    isAuthenticated := session.state = .authenticated ∧ email ≠ []
    scope := client.definition.scope }

/-- `getCurrentUser`. -/
def getCurrentUser : Async Answer := do
  let (session, under) ← readQuery .currentUser do
    let session ← client.getSession
    return (session, session)
  return .user (client.userOf session) under

/-- `getNavigation`. -/
def getNavigation : Async Answer := do
  let (value, under) ← readQuery .navigation
    (client.requestOr "/navigation" client.definition.navigation)
  return .data value under

/-- `getDashboard`. -/
def getDashboard : Async Answer := do
  let (value, under) ← readQuery .dashboard
    (client.requestOr "/dashboard" client.definition.getDashboardSnapshot)
  return .data value under

/-- `getSection`. -/
def getSection (routeId : Text) : Async Answer := do
  let (value, under) ← readQuery (.section routeId)
    (client.requestOr (("/sections/" : Text) ++ encodeURIComponent routeId)
      (client.definition.getSectionByRouteId routeId))
  return .data value under

/-- `offlineSummaryStore?.readSnapshot(expectedScope)`. -/
def readOffline : Async Json :=
  if client.offlineSummaryStore then await (.readSnapshot client.definition.scope)
  else return .null

/-- `offlineSummaryStore?.writeSnapshot(expectedScope, snapshot)`. -/
def writeOffline (snapshot : Json) : Async Unit :=
  if client.offlineSummaryStore then await (.writeSnapshot client.definition.scope snapshot)
  else return ()

/-- The loader of `getSnapshot`. -/
def loadSnapshot : Async (Json × AuthSession) := do
  let scope := client.definition.scope
  let (remote, session) ← client.requestFromApi "/snapshot"
  if isTruthy remote then
    Program.ofExcept (assertSnapshotScope remote scope)
    return (remote, session)
  let offline ← client.readOffline
  if isTruthy offline then
    Program.ofExcept (assertSnapshotScope offline scope)
    return (offline, session)
  let cachedAt ← await .now
  let snapshot := client.definition.createDefinitionSnapshot cachedAt
  client.writeOffline snapshot
  return (snapshot, session)

/-- `getSnapshot`. -/
def getSnapshot : Async Answer := do
  let (value, under) ← readQuery .snapshot client.loadSnapshot
  return .data value under

/-- `listTasks`. -/
def listTasks : Async Answer := do
  let (value, under) ← readQuery .tasks (client.requestOr "/tasks" (.arr []))
  return .data value under

/-- `offlineSummaryStore?.purge(expectedScope)`. -/
def purgeOffline : Async Unit :=
  if client.offlineSummaryStore then await (.purge client.definition.scope) else return ()

/-- `purgeOfflineSummary`. -/
def purgeOfflineSummary : Async Answer := do
  await .clearCache
  client.purgeOffline
  return .purged

end Client

end SkillCentric.TenantWorkbench
