import Issuer.Http
import Issuer.PrefixRejection
import Issuer.RateLimits

/-!
# The way of a request through the worker (`main`)

Body checks, the sandbox-prefix check, the hourly limit of the address and the `Sec-Fetch-*` headers stand before
the router, in this order. What is refused by one of them gets its headers at once, what gets past them by
`add_security_headers` at the end. The router and the handlers behind it are parameters.
-/

namespace Issuer

open Rust

namespace Dispatch

open Http Cors

/-! ## `Sec-Fetch-*` headers

Header values are Latin-1, where a text lowers to an ASCII token as `to_ascii_lowercase` lowers it.
-/

section
variable (strict : Bool) (headers : Headers)

def missingSecFetch : Except Error Unit :=
  if strict then .error (.forbidden "Missing required security headers") else .ok ()

def validateSecFetchSite : Except Error Unit :=
  match getHeader "Sec-Fetch-Site" headers with
  | some site =>
    if toAsciiLowercase site ∈ ["same-origin", "same-site", "none"] then .ok ()
    else if toAsciiLowercase site = "cross-site" then .error (.forbidden "Cross-site requests not allowed")
    else .error (.forbidden "Invalid Sec-Fetch-Site value")
  | none => missingSecFetch strict

def validateSecFetchMode : Except Error Unit :=
  match getHeader "Sec-Fetch-Mode" headers with
  | some mode =>
    if toAsciiLowercase mode ∈ ["cors", "same-origin"] then .ok ()
    else if toAsciiLowercase mode = "no-cors" then .error (.forbidden "Opaque fetch mode not allowed on API endpoints")
    else if toAsciiLowercase mode = "websocket" then .error (.forbidden "WebSocket requests not allowed")
    else if toAsciiLowercase mode = "navigate" then .error (.forbidden "Navigation requests not allowed on API endpoints")
    else .error (.forbidden "Invalid Sec-Fetch-Mode value")
  | none => missingSecFetch strict

def validateSecFetchDest : Except Error Unit :=
  match getHeader "Sec-Fetch-Dest" headers with
  | some dest =>
    let lower := toAsciiLowercase dest
    let allowed := if strict then lower == "empty" else lower == "empty" || lower == "document"
    if allowed then .ok () else .error (.forbidden "Invalid Sec-Fetch-Dest value")
  | none => missingSecFetch strict

/-- `validate_fetch_metadata_strict` where `strict`, else `validate_fetch_metadata`. -/
def validateFetchMetadata : Except Error Unit := do
  validateSecFetchSite strict headers
  validateSecFetchMode strict headers
  validateSecFetchDest strict headers

end

/-! ## Headers of every response -/

def hsts : String := "max-age=31536000; includeSubDomains; preload"

def strictCsp : String :=
  "default-src 'none'; frame-ancestors 'none'; base-uri 'none'; form-action 'none'; upgrade-insecure-requests"

def docsCsp (nonce : String) : String :=
  "default-src 'none'; script-src 'nonce-" ++ nonce ++ "' https://cdn.jsdelivr.net; style-src 'nonce-" ++ nonce ++
    "' https://cdn.jsdelivr.net; img-src 'self' data: https://cdn.jsdelivr.net; font-src https://cdn.jsdelivr.net; " ++
    "connect-src 'self'; frame-ancestors 'none'; base-uri 'self'; form-action 'none'; upgrade-insecure-requests"

def permissionsPolicy : String :=
  "accelerometer=(), ambient-light-sensor=(), autoplay=(), battery=(), camera=(), cross-origin-isolated=(), " ++
    "display-capture=(), document-domain=(), encrypted-media=(), execution-while-not-rendered=(), " ++
    "execution-while-out-of-viewport=(), fullscreen=(), geolocation=(), gyroscope=(), keyboard-map=(), magnetometer=(), " ++
    "microphone=(), midi=(), navigation-override=(), payment=(), picture-in-picture=(), publickey-credentials-get=(), " ++
    "screen-wake-lock=(), sync-xhr=(), usb=(), web-share=(), xr-spatial-tracking=()"

def noStore : String := "no-store, no-cache, must-revalidate, private, max-age=0"

def publicPaths : List String := ["/health", "/v1/jwks.json", "/.well-known/jwks.json", "/v1/docs", "/v1/openapi.json"]

def addBaseSecurityHeaders (requestId reqPath : String) (resp : Response) : Response :=
  let resp := resp.set "X-Request-ID" requestId
  let resp := resp.set "X-Content-Type-Options" "nosniff"
  let resp := resp.set "X-Frame-Options" "DENY"
  let resp := resp.set "Referrer-Policy" "strict-origin-when-cross-origin"
  let resp := resp.set "Strict-Transport-Security" hsts
  let resp := resp.set "Content-Security-Policy" strictCsp
  let resp := resp.set "Permissions-Policy" permissionsPolicy
  let resp := resp.set "Cross-Origin-Embedder-Policy" "require-corp"
  let resp := resp.set "Cross-Origin-Opener-Policy" "same-origin"
  let resp := resp.set "Cross-Origin-Resource-Policy" "same-origin"
  let resp := resp.set "X-Permitted-Cross-Domain-Policies" "none"
  if reqPath ∈ publicPaths then resp
  else
    let resp := resp.set "Cache-Control" noStore
    let resp := resp.set "Pragma" "no-cache"
    resp.set "Expires" "0"

def isInternalRoute (path : String) : Bool := hasPrefix "/_internal/" path

/-- What the worker is deployed with. `rateLimits` says whether `ISSUER_RATE_LIMITS` is bound. -/
structure WorkerEnv where
  environment : Option String
  allowedOrigins : Option String
  globalIpMutatingLimitPerHour : Option String
  globalIpGetLimitPerHour : Option String
  rateLimits : Bool
  hashIp : String → String

def WorkerEnv.isSandbox (env : WorkerEnv) : Bool := env.environment == some "sandbox"

def WorkerEnv.origins (env : WorkerEnv) : AllowedOrigins :=
  .new (env.allowedOrigins.getD "https://playground.provii.app,https://app.provii.app")

/-- A request with the values drawn for it; `cspNonce` is empty where the generator fails. -/
structure Call where
  request : Request
  requestId : String
  cspNonce : String
deriving DecidableEq, Repr

def Call.origin (call : Call) : String := (getHeader "Origin" call.request.headers).getD ""

def cacheControl (path : String) : Option String :=
  if path = "/health" then some "public, max-age=30"
  else if path = "/v1/jwks.json" ∨ path = "/.well-known/jwks.json" then none
  else if path = "/v1/docs" then some "public, max-age=3600"
  else if path = "/v1/openapi.json" then some "public, max-age=3600"
  else some noStore

def setCacheControl (path : String) (resp : Response) : Response :=
  match cacheControl path with
  | some cc => resp.set "Cache-Control" cc
  | none => resp

section
variable (U : UrlLibrary) (env : WorkerEnv) (call : Call)

def addSecurityHeaders (cspNonce : Option String) (resp : Response) : Response :=
  let path := call.request.path
  let resp := resp.set "X-Request-ID" call.requestId
  let resp := resp.set "X-Content-Type-Options" "nosniff"
  let resp := resp.set "X-Frame-Options" "DENY"
  let resp := resp.set "Referrer-Policy" "strict-origin-when-cross-origin"
  let resp := resp.set "Strict-Transport-Security" hsts
  let resp := resp.set "Content-Security-Policy" ((cspNonce.map docsCsp).getD strictCsp)
  let resp := resp.set "Permissions-Policy" permissionsPolicy
  let resp := resp.set "Cross-Origin-Embedder-Policy" "require-corp"
  let resp := resp.set "Cross-Origin-Opener-Policy" "same-origin"
  let resp := resp.set "Cross-Origin-Resource-Policy" "same-origin"
  let resp := resp.set "X-Permitted-Cross-Domain-Policies" "none"
  let resp := setCacheControl path resp
  let resp := if path ∈ publicPaths then resp else (resp.set "Pragma" "no-cache").set "Expires" "0"
  if !isInternalRoute path && (hasPrefix "/v1/" path || path == "/.well-known/jwks.json") && call.origin != "" then
    if env.origins.matchesOrigin U call.origin then
      let resp := resp.set "Access-Control-Allow-Origin" call.origin
      let resp := resp.set "Access-Control-Allow-Methods" "POST, GET, OPTIONS"
      let resp := resp.set "Access-Control-Allow-Headers" "Content-Type, X-API-Key"
      let resp := resp.set "Vary" "Origin"
      if env.origins.allowsCredentials U call.origin then resp.set "Access-Control-Allow-Credentials" "true" else resp
    else resp
  else resp

/-! ## Before the limit -/

def maxBodySize : Nat := 1048576

def parseU64 (s : String) : Option Nat :=
  let ds := match s.toList with
    | '+' :: ds => ds
    | ds => ds
  (parseDigits ds).filter (· ≤ u64Max)

/-- The size and the type of the body, by its headers. -/
def checkBody (req : Request) : Except Error Unit :=
  if req.method.isMutating then
    match getHeader "Content-Length" req.headers with
    | some len =>
      match parseU64 len with
      | some size =>
        if size > maxBodySize then .error (.payloadTooLarge "Request body too large")
        else if hasPrefix "application/json" (toAsciiLowercase ((getHeader "Content-Type" req.headers).getD "")) then .ok ()
        else .error (.unsupportedMediaType "Content-Type must be application/json")
      | none => .error (.badRequest "Invalid request format")
    | none => .error (.lengthRequired "Content-Length header is required")
  else .ok ()

def rejectionResponse : Response :=
  let resp : Response := ⟨401, [], .error "Access denied" "prefix_not_permitted"⟩
  let resp := resp.set "Content-Type" "application/json; charset=utf-8"
  resp.set "Cache-Control" "no-store"

def collectHeaderPairs (headers : Headers) : Headers :=
  PrefixRejection.inspectedHeaders.filterMap fun name => (getHeader name headers).map fun value => (name, value)

def checkPrefixRejection (req : Request) : Except Response Unit :=
  if env.isSandbox then .ok ()
  else
    match PrefixRejection.checkRequestInputs req.path req.query (collectHeaderPairs req.headers) with
    | .allow => .ok ()
    | .reject _ => .error rejectionResponse

/-- An answer before the limit carries no CORS headers. -/
def beforeLimit : Except Response Unit :=
  match checkBody call.request with
  | .error e => .error (addBaseSecurityHeaders call.requestId call.request.path e.toResponse)
  | .ok () =>
    match checkPrefixRejection env call.request with
    | .error resp => .error (addBaseSecurityHeaders call.requestId call.request.path resp)
    | .ok () => .ok ()

/-! ## The limit of the address -/

/-- A limit that does not parse, and 0, stand for the default. -/
def ipRateLimit (isMutating : Bool) : Nat :=
  if isMutating then ((env.globalIpMutatingLimitPerHour.bind parseU32).filter (1 ≤ ·)).getD 120
  else ((env.globalIpGetLimitPerHour.bind parseU32).filter (1 ≤ ·)).getD 600

def rateLabel (isMutating : Bool) : IpLabel := if isMutating then .globalPost else .globalGet

def rateLimitIp (req : Request) : String := (getHeader "CF-Connecting-IP" req.headers).getD "unknown"

def resetTimestamp (now : UInt64) : Nat := satAddU64 (secs now / 3600 * 3600) 3600

def rateLimitResponse (reset : Nat) (result : RateLimitResult) : Response :=
  let resp := Response.fromJson (.error "Rate limit exceeded" "RATE_LIMIT_EXCEEDED")
  let resp := resp.set "Content-Type" "application/json; charset=utf-8"
  let resp := resp.set "Retry-After" (toString result.retryAfterSecs)
  let resp := resp.set "X-RateLimit-Limit" (toString result.limit)
  let resp := resp.set "X-RateLimit-Remaining" "0"
  let resp := resp.set "X-RateLimit-Reset" (toString reset)
  resp.withStatus 429

def serviceUnavailableOnReadFailure : Response :=
  let resp := Response.fromJson (.error "Service temporarily unavailable" "SERVICE_UNAVAILABLE")
  let resp := resp.set "Content-Type" "application/json; charset=utf-8"
  let resp := resp.set "Retry-After" "5"
  let resp := resp.set "Cache-Control" "no-store, no-cache, must-revalidate, private"
  resp.withStatus 503

def rateLimitOrUnavailableResponse (result : RateLimitResult) : Limits Response :=
  if result.readFailed then pure serviceUnavailableOnReadFailure
  else do
    let now ← Limits.now
    pure (rateLimitResponse (resetTimestamp now) result)

/-- Both header functions, for an answer of the limit. -/
def refuseEarly (resp : Response) : Response :=
  let resp := addBaseSecurityHeaders call.requestId call.request.path resp
  { resp with headers := addCorsHeadersEarly U resp.headers call.request.path call.origin env.origins }

def globalLimit : Limits (Except Response Unit) :=
  let isMutating := call.request.method.isMutating
  let rateKey := ipKey (rateLabel isMutating) (env.hashIp (rateLimitIp call.request))
  if env.rateLimits then do
    let rl ← checkBlindIssuance rateKey (ipRateLimit env isMutating)
    if rl.allowed then pure (.ok ())
    else do
      let resp ← rateLimitOrUnavailableResponse rl
      pure (.error (refuseEarly U env call resp))
  else
    pure (.error (refuseEarly U env call (Error.serviceUnavailable "Rate limiting infrastructure unavailable").toResponse))

/-! ## Behind the limit -/

/-- On internal routes a refusal looks like a missing route. -/
def checkFetchMetadata : Except Response Unit :=
  let path := call.request.path
  if path = "/v1/docs" ∨ path = "/v1/openapi.json" then .ok ()
  else
    match validateFetchMetadata (isInternalRoute path) call.request.headers with
    | .ok () => .ok ()
    | .error e =>
      let e := if isInternalRoute path then .notFound "Not Found" else e
      .error (addBaseSecurityHeaders call.requestId path e.toResponse)

def docsNonce : Except Response (Option String) :=
  if call.request.path = "/v1/docs" then
    if call.cspNonce = "" then
      .error (addBaseSecurityHeaders call.requestId call.request.path (Error.internal "Internal server error").toResponse)
    else .ok (some call.cspNonce)
  else .ok none

def optionsAllow (path : String) : String :=
  if path = "/health" then "GET, OPTIONS"
  else if path = "/health/detailed" ∨ path = "/metrics" then "GET, OPTIONS"
  else if path = "/v1/openapi.json" ∨ path = "/v1/docs" then "GET, OPTIONS"
  else if path ∈ ["/v1/challenge", "/v1/issuance/blind", "/v1/attestation/create", "/v1/admin/keys/rotate",
      "/v1/admin/attestation-keys/rotate"] then "POST, OPTIONS"
  else if path = "/v1/jwks.json" ∨ path = "/.well-known/jwks.json" then "GET, OPTIONS"
  else if path = "/v1/admin/keys/health" then "GET, OPTIONS"
  else if path = "/_internal/version" then "GET, OPTIONS"
  else if path = "/_internal/replay-saved-pre-rotation-token" then "POST, OPTIONS"
  else if path = "/_internal/test-fixtures" then "GET, OPTIONS"
  else if hasPrefix "/_internal/test-fixtures/" path then "DELETE, OPTIONS"
  else if path = "/v1/register-test-issuer" then if env.isSandbox then "POST, OPTIONS" else "OPTIONS"
  else "OPTIONS"

def allowedMethodsForPath (path : String) : List Method :=
  if path ∈ ["/health", "/health/detailed", "/metrics"] then [.get]
  else if path = "/v1/openapi.json" ∨ path = "/v1/docs" then [.get]
  else if path ∈ ["/v1/challenge", "/v1/issuance/blind", "/v1/attestation/create", "/v1/admin/keys/rotate",
      "/v1/admin/attestation-keys/rotate"] then [.post]
  else if path ∈ ["/v1/jwks.json", "/.well-known/jwks.json", "/v1/admin/keys/health"] then [.get]
  else if path = "/v1/register-test-issuer" ∧ env.isSandbox = true then [.post]
  else if path = "/_internal/version" then [.get]
  else if path = "/_internal/replay-saved-pre-rotation-token" then [.post]
  else if path = "/_internal/test-fixtures" then [.get]
  else if hasPrefix "/_internal/test-fixtures/" path then [.delete]
  else []

def optionsResponse : Response :=
  let resp : Response := ⟨204, [], .empty⟩
  let resp := resp.set "Allow" (optionsAllow env call.request.path)
  resp.set "Access-Control-Max-Age" "7200"

def allowText (methods : List Method) : String := ", ".intercalate (methods.map Method.name)

def methodNotAllowed (allowed : List Method) : Response :=
  let resp := (Response.fromJson (.error "Method not allowed" "METHOD_NOT_ALLOWED")).withStatus 405
  let resp := resp.set "Allow" (allowText allowed)
  resp.set "Content-Type" "application/json; charset=utf-8"

/-! ## The router -/

inductive Route where
  | health
  | healthDetailed
  | metrics
  | openapi
  | docs
  | challenge
  | blindIssuance
  | attestationCreate
  | jwksRedirect
  | jwks
  | rotateSigningKey
  | rotateAttestationKey
  | keyHealth
  | internalVersion
  | replayPreRotationToken
  | testFixturesManifest
  | deleteTestFixtures
  | registerTestIssuer
  | catchall
deriving DecidableEq, Repr

/-- What is registered in any environment, in the order of the source. -/
def commonRoutes : List (Method × String × Route) :=
  [(.get, "/health", .health), (.get, "/health/detailed", .healthDetailed), (.get, "/metrics", .metrics),
    (.get, "/v1/openapi.json", .openapi), (.get, "/v1/docs", .docs), (.post, "/v1/challenge", .challenge),
    (.post, "/v1/issuance/blind", .blindIssuance), (.post, "/v1/attestation/create", .attestationCreate),
    (.get, "/v1/jwks.json", .jwksRedirect), (.get, "/.well-known/jwks.json", .jwks),
    (.post, "/v1/admin/keys/rotate", .rotateSigningKey),
    (.post, "/v1/admin/attestation-keys/rotate", .rotateAttestationKey), (.get, "/v1/admin/keys/health", .keyHealth),
    (.get, "/_internal/version", .internalVersion),
    (.post, "/_internal/replay-saved-pre-rotation-token", .replayPreRotationToken),
    (.get, "/_internal/test-fixtures", .testFixturesManifest),
    (.delete, "/_internal/test-fixtures/:class", .deleteTestFixtures)]

def sandboxRoutes : List (Method × String × Route) :=
  if env.isSandbox then [(.post, "/v1/register-test-issuer", .registerTestIssuer)] else []

def catchallRoutes : List (Method × String × Route) := [(.get, "/*catchall", .catchall)]

def routes : List (Method × String × Route) := commonRoutes ++ sandboxRoutes env ++ catchallRoutes

/-- How `Router::run` goes on: with a registered handler, with the one for any method, or with an answer of its own. -/
inductive Outcome where
  | handler (route : Route) (param : String)
  | anyMethod
  | own (resp : Response)

/-- `Router` is third-party; the routes are what it is given. -/
abbrev RouterLibrary := List (Method × String × Route) → Method → String → Outcome

def rejectExternalInternalTraffic (headers : Headers) : Option Response :=
  if (getHeader "CF-Connecting-IP" headers).getD "" = "" then none else some (Error.unauthorized "Unauthorized").toResponse

def Route.isInternal : Route → Bool
  | .internalVersion | .replayPreRotationToken | .testFixturesManifest | .deleteTestFixtures => true
  | _ => false

variable (router : RouterLibrary) (handlers : Route → String → Request → Limits (Except Unit Response))

def runRoute (route : Route) (param : String) : Limits (Except Unit Response) :=
  if route = .catchall then pure (.ok (Error.notFound "Not Found").toResponse)
  else if route.isInternal then
    match rejectExternalInternalTraffic call.request.headers with
    | some resp => pure (.ok resp)
    | none => handlers route param call.request
  else handlers route param call.request

def runRouter : Limits (Except Unit Response) :=
  match router (routes env) call.request.method call.request.path with
  | .handler route param => runRoute call handlers route param
  | .anyMethod => pure (.ok (Error.notFound "Not Found").toResponse)
  | .own resp => pure (.ok resp)

def respond : Limits Response :=
  if call.request.method = .options then pure (optionsResponse env call)
  else
    let allowed := allowedMethodsForPath env call.request.path
    if !allowed.isEmpty && !allowed.contains call.request.method then pure (methodNotAllowed allowed)
    else do
      match ← runRouter env call router handlers with
      | .ok resp => pure resp
      | .error () => pure (Error.internal "Internal Server Error").toResponse

def behindLimit : Limits Response :=
  match checkFetchMetadata call with
  | .error resp => pure resp
  | .ok () =>
    match docsNonce call with
    | .error resp => pure resp
    | .ok cspNonce => do
      let resp ← respond env call router handlers
      pure (addSecurityHeaders U env call cspNonce resp)

def main : Limits Response :=
  match beforeLimit env call with
  | .error resp => pure resp
  | .ok () => do
    match ← globalLimit U env call with
    | .error resp => pure resp
    | .ok () => behindLimit U env call router handlers

end

end Dispatch

end Issuer
