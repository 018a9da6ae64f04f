import SkillCentric.Runtime.TaskAnalyzer

/-!
# Tenant authority

`assert_runtime_tenant_is_startable`: a task of an explicit tenant starts only under a tenant
authority for the same tenant and area, in a status that allows execution.
-/

namespace SkillCentric

/-- A JSON object: the fields of a mapping. -/
abbrev JsonObject := List (Text × Json)

namespace Json

/-- `value is not None` on an optional value. -/
def notNone : Option Json → Option Json
  | some .null => none
  | value => value

/-- The error of using an unhashable value as a set member. -/
def unhashable : Json → Option PyError
  | .arr _ => some ⟨.typeError, "unhashable type: 'list'", none⟩
  | .obj _ => some ⟨.typeError, "unhashable type: 'dict'", none⟩
  | _ => none

end Json

/-- `RuntimeTenantStatusError(message)`. -/
def tenantStatusError (message : Text) : PyError := ⟨.runtimeTenantStatusError, message, none⟩

/-- `task["context"]["auth"]` with empty mappings as defaults. -/
def taskAuth (task : Json) : Option Json :=
  match task.get? "context" with
  | some (.obj context) =>
      match Json.field? "auth" context with
      | some (.obj auth) => some (.obj auth)
      | some _ => none
      | none => some (.obj [])
  | _ => some (.obj [])

/-- A claim of `taskAuth`, `None` when absent. -/
def authClaim (task : Json) (key : Text) : Json :=
  ((taskAuth task).bind (·.get? key)).getD .null

/-- `assert_runtime_tenant_is_startable`. -/
def assertRuntimeTenantIsStartable (task response : Json) : Except PyError Unit := do
  let tenantId := authClaim task "tenant_id"
  let areaId := authClaim task "area_id"
  if let some error := tenantId.unhashable then throw error
  if tenantId.equal .null || tenantId.equal (.str "global") then return
  match response.get? "tenant_authority" with
  | some (.obj fields) =>
      let authority := Json.obj fields
      if !((authority.get? "tenant_id").getD .null).equal tenantId then
        throw (tenantStatusError "Tenant authority does not match the runtime task tenant.")
      if !((authority.get? "area_id").getD .null).equal areaId then
        throw (tenantStatusError "Tenant authority does not match the runtime task area.")
      let status := (authority.get? "status").getD .null
      if let some error := status.unhashable then throw error
      if !(status.equal (.str "setup") || status.equal (.str "active")) then
        throw (tenantStatusError "Tenant is not active for runtime execution.")
  | _ =>
      if ((response.get? "composition_status").getD .null).equal (.str "denied") then return
      throw (tenantStatusError "Tenant authority is required for runtime execution.")

end SkillCentric
