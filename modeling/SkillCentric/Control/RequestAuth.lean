import SkillCentric.Library.JsStrings

/-!
# Authorisation of control API requests

`authorizeControlApiRequest` compares the presented bearer token with the configured ones.  The
match of the header is the regular expression `/^Bearer\s+(.+)$/i` with the host's search order: the
white space takes as much as it can and gives back what the rest needs.
-/

namespace SkillCentric.Control

open SkillCentric JsString

/-- The scopes of endpoints. -/
inductive EndpointScope where
  | composition
  | ingestion
  | retrieval
  | aiGateway
  | tenantAdmin
  deriving DecidableEq, Repr

/-- The scopes of tokens. -/
inductive TokenScope where
  | endpoint (scope : EndpointScope)
  | all
  deriving DecidableEq, Repr

/-- The token variables of the environment. -/
structure AuthEnv where
  controlApiToken : Option JsString
  compositionToken : Option JsString
  ingestionToken : Option JsString
  retrievalToken : Option JsString
  aiGatewayToken : Option JsString
  tenantAdminToken : Option JsString

/-- A configured token and its scopes. -/
structure AuthToken where
  value : JsString
  scopes : List TokenScope

/-- An error response: the status, and the code and message of its body. -/
structure ErrorResponse where
  status : Nat
  code : String
  message : String
  deriving DecidableEq

/-- `configuredToken`. -/
def configuredToken (value : Option JsString) (allowLocalTestToken : Bool) : Option JsString :=
  match value.map JsString.trim with
  | none => none
  | some token =>
      if token.units = [] ∨ token.units = unitsOf "unset" then none
      else if token.units = unitsOf "local-test-token" ∧ allowLocalTestToken = false then none
      else some token

/-- What `pushToken` adds. -/
def pushToken (value : Option JsString) (scopes : List TokenScope) (allowLocalTestToken : Bool) :
    List AuthToken :=
  match configuredToken value allowLocalTestToken with
  | some token => [⟨token, scopes⟩]
  | none => []

/-- The host is one for tests. -/
def allowsLocalTestToken (hostname : JsString) : Bool :=
  (unitsOf ".test").isSuffixOf hostname.units || hostname.units == unitsOf "control-api.test"

/-- `configuredAuthTokens`. -/
def configuredAuthTokens (env : AuthEnv) (hostname : JsString) : List AuthToken :=
  let allow := allowsLocalTestToken hostname
  pushToken env.controlApiToken [.all] allow ++
    pushToken env.compositionToken [.endpoint .composition] allow ++
    pushToken env.ingestionToken [.endpoint .ingestion] allow ++
    pushToken env.retrievalToken [.endpoint .retrieval] allow ++
    pushToken env.aiGatewayToken [.endpoint .aiGateway] allow ++
    pushToken env.tenantAdminToken [.endpoint .tenantAdmin] allow

/-- `constantTimeEqual`. -/
def constantTimeEqual (left right : JsString) : Bool := bytesEqual (encode left) (encode right)

/-- The group of `\s+(.+)$` when the white space has a length. -/
def groupAfter (rest : JsString) (spaces : Nat) : Option JsString :=
  let group := rest.drop spaces
  if group.units ≠ [] ∧ group.units.all (fun unit => !isLineTerminator unit) = true then some group
  else none

/-- The group of `/^Bearer\s+(.+)$/i`. -/
def matchBearer (header : JsString) : Option JsString :=
  if (header.units.take 6).map canonicalize = unitsOf "BEARER" then
    let rest := header.drop 6
    -- the longest run of white space is tried first, and it has at least one unit
    ((List.range (rest.units.takeWhile isSpace).length).reverse.map (· + 1)).findSome?
      (groupAfter rest)
  else none

/-- `authorizeControlApiRequest`; `none` lets the request through. -/
def authorizeControlApiRequest (env : AuthEnv) (hostname : JsString)
    (authorization : Option JsString)
    (requiredScope : EndpointScope) : Option ErrorResponse :=
  let tokens := configuredAuthTokens env hostname
  if tokens.isEmpty then
    some ⟨503, "control_api_auth_unconfigured",
      "Control API authentication is not configured for this environment."⟩
  else
    match matchBearer (authorization.getD JsString.empty) with
    | none => some ⟨401, "authorization_required", "Bearer authorization is required."⟩
    | some group =>
        let presented := group.trim
        if presented.units.isEmpty then
          some ⟨401, "authorization_required", "Bearer authorization is required."⟩
        else
          let matched := tokens.filter fun token => constantTimeEqual token.value presented
          if matched.isEmpty then
            some ⟨401, "authorization_invalid", "Bearer authorization is invalid."⟩
          else if matched.any fun token =>
              token.scopes.contains (.endpoint requiredScope) ||
                token.scopes.contains .all then none
          else
            some ⟨403, "authorization_scope_denied",
              "Bearer authorization does not allow this Control API endpoint."⟩

end SkillCentric.Control
