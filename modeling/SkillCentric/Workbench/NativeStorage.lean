import SkillCentric.Library.Unwinding
import SkillCentric.Workbench.Client

/-!
# Secure storage of the native apps

`createTenantScopedSecureStorageAdapter`: the adapters of several scopes keep their values in one
backend, under keys that start with the scope.  An adapter remembers the keys it has set, and
forgets them when the app is closed.  The backend may reject what an adapter asks of it.
-/

namespace SkillCentric.TenantWorkbench

/-- What every key of a scope starts with. -/
def scopePrefix (scope : Scope) : Text := scope.tenantId ++ ':' :: scope.areaId ++ [':']

/-- `assertTenantScopedKey`. -/
def assertTenantScopedKey (scope : Scope) (key : Text) : Except ClientError Unit :=
  if scopePrefix scope <+: key then .ok ()
  else .error (.rejected "Tenant scoped storage key does not match runtime scope.")

/-- Calls of a `TenantScopedStorageAdapter`. -/
inductive StorageCall where
  | getItem (tenantScopedKey : Text)
  | setItem (tenantScopedKey value : Text)
  | deleteItem (tenantScopedKey : Text)
  | purgeScope (tenantId areaId : Json)

/-- How the promise of the backend for a key settles; a rejected one may have had its effect. -/
inductive BackendOutcome where
  | fulfilled
  | rejected (effect : Bool) (reason : Text)

namespace BackendOutcome

/-- The backend has done what it was asked for. -/
def done : BackendOutcome → Bool
  | .fulfilled => true
  | .rejected effect _ => effect

/-- `await` on the promise. -/
def await {α : Type} (outcome : BackendOutcome) (value : α) : Except ClientError α :=
  match outcome with
  | .fulfilled => .ok value
  | .rejected _ reason => .error (.rejected reason)

end BackendOutcome

/-- A call of an adapter, with what the backend does meanwhile. -/
structure StorageEvent (ι : Type) where
  adapter : ι
  call : StorageCall
  outcome : Text → BackendOutcome := fun _ => .fulfilled

/-- The backend, and `knownKeys` of every adapter. -/
structure SecureStorage (ι : Type) where
  backend : Dict Text Text
  knownKeys : ι → List Text

namespace SecureStorage

variable {ι : Type} [DecidableEq ι]

/-- A backend whose adapters have just been created. -/
def opened (backend : Dict Text Text) : SecureStorage ι := ⟨backend, fun _ => []⟩

/-- `knownKeys.add(key)`. -/
def remember (storage : SecureStorage ι) (adapter : ι) (key : Text) : SecureStorage ι :=
  { storage with
    knownKeys := Function.update storage.knownKeys adapter
      (if key ∈ storage.knownKeys adapter then storage.knownKeys adapter
        else storage.knownKeys adapter ++ [key]) }

/-- `knownKeys.delete(key)`. -/
def forget (storage : SecureStorage ι) (adapter : ι) (key : Text) : SecureStorage ι :=
  { storage with
    knownKeys := Function.update storage.knownKeys adapter
      ((storage.knownKeys adapter).filter (· ≠ key)) }

/-- `setItem` after its check: the key is remembered before the backend answers. -/
def setKey (event : StorageEvent ι) (storage : SecureStorage ι) (key value : Text) :
    SecureStorage ι :=
  let storage := storage.remember event.adapter key
  if (event.outcome key).done then { storage with backend := storage.backend.set key value }
  else storage

/-- `deleteItem` after its check: the key is forgotten before the backend answers. -/
def deleteKey (event : StorageEvent ι) (storage : SecureStorage ι) (key : Text) :
    SecureStorage ι :=
  let storage := storage.forget event.adapter key
  if (event.outcome key).done then { storage with backend := storage.backend.erase key }
  else storage

/-- A call of an adapter, created for its scope. -/
def call (scopes : ι → Scope) (storage : SecureStorage ι) (event : StorageEvent ι) :
    Except ClientError (Option Text) × SecureStorage ι :=
  let scope := scopes event.adapter
  match event.call with
  | .getItem key =>
      match assertTenantScopedKey scope key with
      | .error error => (.error error, storage)
      | .ok _ => ((event.outcome key).await (storage.backend.get? key), storage)
  | .setItem key value =>
      match assertTenantScopedKey scope key with
      | .error error => (.error error, storage)
      | .ok _ => ((event.outcome key).await none, storage.setKey event key value)
  | .deleteItem key =>
      match assertTenantScopedKey scope key with
      | .error error => (.error error, storage)
      | .ok _ => ((event.outcome key).await none, storage.deleteKey event key)
  | .purgeScope tenantId areaId =>
      match assertTenantScopeMatches tenantId areaId scope with
      | .error error => (.error error, storage)
      -- every delete is started; the purge is rejected as the first of them that is
      | .ok _ =>
          let keys := storage.knownKeys event.adapter
          ((keys.forM fun key => (event.outcome key).await ()).map fun _ => none,
            keys.foldl (deleteKey event) storage)

end SecureStorage

end SkillCentric.TenantWorkbench
