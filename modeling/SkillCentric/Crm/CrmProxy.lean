import SkillCentric.Crm.CrmRoutes
import SkillCentric.Library.UrlPaths
import SkillCentric.Library.Utf8

/-!
# The proxy of the CRM

`proxyRoute` decodes the segments of a path, forwards the request to the admin API below the area of
its kind, and redirects a browser after a write.
-/

namespace SkillCentric.Crm

open SkillCentric Slug UrlPaths CrmRoutes

namespace CrmProxy

/-- The value of a hexadecimal digit. -/
def hexValue (c : Char) : Option Nat :=
  if '0' ≤ c ∧ c ≤ '9' then some (c.toNat - 48)
  else if 'a' ≤ c ∧ c ≤ 'f' then some (c.toNat - 87)
  else if 'A' ≤ c ∧ c ≤ 'F' then some (c.toNat - 55)
  else none

/-- The characters of escaped bytes, which must be the bytes of a text. -/
def decodeBytes (bytes : List UInt8) : Option Text :=
  if (Utf8.decode bytes).flatMap String.utf8EncodeChar = bytes then some (Utf8.decode bytes)
  else none

/-- `decodeURIComponent` after some escaped bytes; nothing is a `URIError`. -/
def decodeFrom (bytes : List UInt8) : Text → Option Text
  | [] => decodeBytes bytes
  | '%' :: high :: low :: rest => do
      let high ← hexValue high
      let low ← hexValue low
      decodeFrom (bytes ++ [UInt8.ofNat (16 * high + low)]) rest
  | '%' :: _ => none
  | c :: rest => do
      let front ← decodeBytes bytes
      let back ← decodeFrom [] rest
      some (front ++ c :: back)

/-- `decodeURIComponent`. -/
def decodeURIComponent (text : Text) : Option Text := decodeFrom [] text

/-- `safeDecodeSegment`. -/
def safeDecodeSegment (segment : Text) : Option Text :=
  (decodeURIComponent segment).filter fun decoded =>
    !decoded.contains '/' && !decoded.contains '\\' && !decoded.contains (Char.ofNat 0)

/-- `safeReturnTo`. -/
def safeReturnTo (value : Option Text) (fallback : Text) : Text :=
  let value := value.getD []
  if value.isEmpty || !startsWith value "/" || startsWith value "//" then fallback else value

inductive WebScheme where
  | http
  | https
  deriving DecidableEq, Repr

/-- The address of `DKH_ADMIN_API_BASE_URL`, whose path is written as it is read. -/
structure UpstreamBase where
  scheme : WebScheme
  authority : Text
  path : List Text
  named : Authority authority
  plain : ∀ segment ∈ path, Plain segment
  slashes : ∀ segment ∈ path, ∀ c ∈ segment, isSlash c = false
  breaks : ∀ segment ∈ path, ∀ c ∈ segment, isBreak c = false

/-- `upstreamBase()` after the colon of its scheme. -/
def UpstreamBase.text (base : UpstreamBase) : Text :=
  '/' :: '/' :: (base.authority ++ base.path.flatMap ('/' :: ·))

/-- What the proxy reads of a request. -/
structure ProxyRequest where
  method : Text
  searchParams : List (Text × Text)
  /-- `x-forwarded-host`. -/
  forwardedHost : Option Text
  host : Option Text
  /-- `x-forwarded-proto`. -/
  forwardedProto : Option Text
  /-- `referer`, by its scheme and what stands after the colon. -/
  referer : Option (WebScheme × Text)

/-- `searchParams.get`. -/
def ProxyRequest.param (request : ProxyRequest) (name : Text) : Option Text :=
  request.searchParams.lookup name

/-- What is sent to the admin API. -/
structure UpstreamRequest (η : Type) where
  path : Text
  upstream : Address WebScheme η
  appended : List (Text × Text)

section Proxy

variable {η : Type} (hostOf : WebScheme → Text → Option η)

/-- `buildUpstreamUrl`; nothing is a malformed path, or an address that is not read. -/
def buildUpstreamUrl (base : UpstreamBase) (kind : ProxyKind) (segments : List Text)
    (request : ProxyRequest) : Option (UpstreamRequest η) := do
  let decoded ← segments.mapM safeDecodeSegment
  if decoded.any List.isEmpty then none
  else
    let path := slashJoin decoded
    let upstream ← parse hostOf base.scheme (base.text ++ '/' :: (kind.text ++ '/' :: path))
    some ⟨path, upstream, request.searchParams.filter fun param => decide (param.1 ≠ "return_to")⟩

/-- `["GET", "HEAD"].includes(method)`. -/
def ProxyRequest.reads (request : ProxyRequest) : Bool :=
  decide (request.method.map Char.toUpper ∈ (["GET", "HEAD"] : List Text))

/-- What `proxyRoute` fetches; nothing is a request that is not forwarded. -/
def forwarded (base : UpstreamBase) (kind : ProxyKind) (segments : List Text)
    (request : ProxyRequest) : Option (UpstreamRequest η) :=
  (buildUpstreamUrl hostOf base kind segments request).filter fun built =>
    request.reads || allowedForWrite kind built.path

/-- `isLocalRedirectHost`. -/
def isLocalRedirectHost (host : Text) : Bool :=
  let normalized := ((host.map Char.toLower).splitOn ':').headD []
  decide (normalized ∈ (["localhost", "127.0.0.1", "::1"] : List Text)) ||
    (".local" : Text).isSuffixOf normalized

/-- `publicRedirectOrigin`, by its scheme and what stands after the colon; `DKH_CRM_PUBLIC_BASE_URL`
is given alike. -/
def publicRedirectOrigin (configured : Option (WebScheme × Text)) (request : ProxyRequest) :
    WebScheme × Text :=
  let forwardedHost := request.forwardedHost.getD []
  let host := if forwardedHost.isEmpty then request.host.getD [] else forwardedHost
  let proto := if request.forwardedProto = some "http" then .http else .https
  if !host.isEmpty && !isLocalRedirectHost host then (proto, '/' :: '/' :: host)
  else
    match configured with
    | some (scheme, text) => (scheme, text.rdropWhile (· == '/'))
    | none => (.https, "//www.es-daskuechenhaus.de")

/-- `URL.pathname`. -/
def pathname (address : Address WebScheme η) : Text := '/' :: slashJoin address.path

/-- Where a write returns to; nothing is a referer that is not read. -/
def returnTarget (request : ProxyRequest) : Option Text :=
  let fallback : Option Text :=
    match request.referer with
    | none => some "/"
    | some (scheme, text) => (parse hostOf scheme text).map pathname
  fallback.map (safeReturnTo (request.param "return_to"))

/-- The address of the redirect after a write; nothing is an address that is not read. -/
def redirectAddress (configured : Option (WebScheme × Text)) (request : ProxyRequest) :
    Option (Address WebScheme η) := do
  let returnTo ← returnTarget hostOf request
  let origin := publicRedirectOrigin configured request
  let base ← parse hostOf origin.1 origin.2
  match returnTo with
  | '/' :: rest => parseFromRoot hostOf base rest
  | _ => none

end Proxy

end CrmProxy

end SkillCentric.Crm
