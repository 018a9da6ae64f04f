import SkillCentric.Runtime.Json

/-!
# Task analysis

The part of `TaskAnalyzer.analyze` the runtime plane builds on: the task identifier and the tenant
and area of the auth claims, with the errors the analysis of the claims can raise.
-/

namespace SkillCentric

open Slug

/-- White space of `str.strip()`. -/
def isSpace (c : Char) : Bool :=
  let n := c.toNat
  (9 ≤ n && n ≤ 13) || (28 ≤ n && n ≤ 32) || n == 0x85 || n == 0xA0 || n == 0x1680 ||
    (0x2000 ≤ n && n ≤ 0x200A) || n == 0x2028 || n == 0x2029 || n == 0x202F || n == 0x205F ||
    n == 0x3000

/-- `str.strip()`. -/
def strip (value : Text) : Text := stripChars isSpace value

/-- The outcome of task analysis that the queue and the entry point read. -/
structure AnalyzedTask where
  taskId : Text
  /-- `auth_claims.tenant_id`. -/
  tenantId : Text
  /-- `auth_claims.area_id`. -/
  areaId : Text
  deriving DecidableEq

namespace TaskAnalyzer

/-- The character class `[a-z0-9_-]`. -/
def isIdChar (c : Char) : Bool := isWordChar c || c == '_' || c == '-'

/-- `_is_id`: the pattern `[a-z][a-z0-9_-]*`. -/
def isId : Text → Bool
  | [] => false
  | c :: rest => isLetter c && rest.all isIdChar

/-- `_slugify`. -/
def slugify (value : Text) : Text :=
  let outer := fun c : Char => c == '-' || c == '_'
  let slug := stripChars outer (hyphenateRuns isIdChar false (casefold value))
  let slug := hyphenateRuns (· != '-') false slug
  if slug = [] then ("task" : Text)
  else
    let slug := if slug.head?.any isLetter then slug else ("id-" : Text) ++ slug
    stripChars outer (slug.take 80)

/-- `_dedupe(str(value) for value in values)`. -/
def dedupe (values : List Json) : List Text :=
  ((values.map fun value => strip value.pyStr).filter (· ≠ [])).eraseDups

/-- A text field that is a nonblank string, stripped. -/
def nonblank (value : Option Json) : Option Text :=
  match value with
  | some (.str text) => if strip text = [] then none else some (strip text)
  | _ => none

/-- `_objective`. -/
def objective (task : Json) : Text :=
  ((nonblank (task.get? "request")).or
    ((nonblank (task.get? "objective")).or (nonblank (task.get? "description")))).getD
      "Process repository task."

/-- `_task_id`. -/
def taskId (task : Json) : Text :=
  match task.get? "id" with
  | some (.str value) =>
      if isId value then value else ("task-" : Text) ++ slugify (objective task)
  | _ => ("task-" : Text) ++ slugify (objective task)

/-- `auth.get(key, default)` iterated and deduplicated. -/
def claimList (auth : Json) (key : Text) (default : List Json) : Except PyError (List Text) := do
  let items ← ((auth.get? key).getD (.arr default)).iterate
  return dedupe items

/-- `_auth_claims`, as far as tenant and area go. -/
def authClaims (task : Json) : Except PyError (Text × Text) :=
  match (task.get? "context").bind (·.get? "auth") with
  | some (.obj fields) => do
      let auth := Json.obj fields
      let roles ← claimList auth "roles" [.str "repository-maintainer"]
      -- the principal falls back to `roles[0]`, which an empty role list does not have
      if !(Json.orElse (auth.get? "control_plane_principal_id") .null).truthy && roles.isEmpty then
        throw ⟨.indexError, "tuple index out of range", none⟩
      -- the remaining claim lists matter here only by the error a non-iterable value raises
      let _ ← claimList auth "authorization_policies" []
      let tenantId := slugify (Json.orElse (auth.get? "tenant_id") (.str "global")).pyStr
      let areaId := slugify (Json.orElse (auth.get? "area_id") (.str tenantId)).pyStr
      let _ ← claimList auth "role_data_sources" []
      let _ ← claimList auth "role_capabilities" []
      return (tenantId, areaId)
  | _ => .ok ("global", "global")

/-- `TaskAnalyzer.analyze`. -/
def analyze (task : Json) : Except PyError AnalyzedTask := do
  let (tenantId, areaId) ← authClaims task
  return { taskId := taskId task, tenantId, areaId }

end TaskAnalyzer

end SkillCentric
