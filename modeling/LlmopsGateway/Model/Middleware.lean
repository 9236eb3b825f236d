import LlmopsGateway.Model.PrincipalCache
import LlmopsGateway.Model.RateLimit

/-! # The middleware in front of the endpoints

`create_app` puts the rate limit around the endpoints, authentication around the rate limit and the request
context around both. A middleware is a function from what it calls next to what the app does. Both stores
answer and no other request is in between; the endpoint only reports with what request state it runs. The
endpoint is chosen by the path of the request. The middleware goes by `request.url.path`, and Starlette builds
that URL from the `Host` header, the path and the query.
-/

namespace LlmopsGateway.Middleware

open Auth RateLimit

/-- What there is of a request, with the time and the random id of its handling. -/
structure Request where
  path : String
  query : List UInt8 := []
  method : String
  headers : List (String × String)
  nowMs : ℕ
  uuid : String

/-- Header names are ASCII. -/
def lower (name : String) : String := String.ofList (name.toList.map Char.toLower)

/-- `request.headers.get(name)`. -/
def Request.header (request : Request) (name : String) : Option String :=
  (request.headers.find? fun header => lower header.1 = lower name).map Prod.snd

/-- `request.state`. -/
structure RequestState where
  traceId : Option String := none
  auth : Option AuthenticatedPrincipal := none
  tenantId : Option String := none
  apiKeyId : Option String := none
  scopes : Finset String := ∅
deriving DecidableEq

/-- The keys with their cache, and the rate-limit buckets in Redis. -/
structure Stores where
  keys : AuthService.State
  buckets : String → Option StoredBucket

/-- The `JSONResponse` of an error; `retryAfterSeconds` is also its `Retry-After` header. -/
structure ErrorResponse where
  statusCode : ℕ
  error : String
  traceId : Option String
  message : String
  requiredScope : Option String := none
  retryAfterSeconds : Option ℤ := none
deriving DecidableEq

/-- The endpoint ran, or a middleware answered. -/
inductive Answer
  | ran (state : RequestState)
  | error (response : ErrorResponse)
deriving DecidableEq

abbrev App := RequestState → Stores → Answer × Stores

/-- `urlPath` is `request.url.path`, or `none` where it raises, `round` the rounding of floats, and `pick` is
`next(iter(…))` of a set of scopes. -/
structure Deployment where
  auth : AuthService.Deployment
  settings : MiddlewareSettings := {}
  rateLimit : RateLimitService
  urlPath : Request → Option String
  round : ℚ → ℚ
  pick : List String → String

section responses

variable (deployment : Deployment) (state : RequestState)

/-- `to_error_response` of what authentication raises. -/
def authErrorResponse (error : AuthError) : ErrorResponse :=
  match error with
  | .authentication message =>
    { statusCode := error.status, error := "unauthorized", traceId := state.traceId, message }
  | .authorization message =>
    { statusCode := error.status, error := "forbidden", traceId := state.traceId, message }
  | .insufficientScope required =>
    let requiredScope := deployment.pick required
    { statusCode := error.status, error := "forbidden", traceId := state.traceId
      message := "Missing required scope: " ++ requiredScope, requiredScope := some requiredScope }

/-- `to_error_response` of a `RateLimitExceededError`. -/
def rateLimitErrorResponse (retryAfterSeconds : ℚ) : ErrorResponse where
  statusCode := 429
  error := "rate_limit_exceeded"
  traceId := state.traceId
  message := "Rate limit exceeded"
  retryAfterSeconds := some (max 1 ⌈retryAfterSeconds⌉)

def internalErrorResponse : ErrorResponse where
  statusCode := 500
  error := "internal_server_error"
  traceId := state.traceId
  message := "An unexpected error occurred"

end responses

namespace RequestState

variable (state : RequestState)

def attachPrincipal (principal : AuthenticatedPrincipal) : RequestState :=
  { state with
    auth := some principal
    tenantId := some principal.tenantId
    apiKeyId := some principal.apiKeyId
    scopes := principal.scopes }

def attachAnonymousPrincipal : RequestState :=
  { state.attachPrincipal anonymousPrincipal with apiKeyId := none }

end RequestState

section dispatch

variable (deployment : Deployment) (request : Request) (callNext : App)

/-- `request.url.path` and what is done with it. An exception passes all middleware. -/
def withUrlPath (next : String → App) : App := fun state stores =>
  match deployment.urlPath request with
  | none => (.error (internalErrorResponse state), stores)
  | some path => next path state stores

/-- `request_context_middleware_dispatch`, without the header it sets on the response. The path only goes into
the log. -/
def requestContext : App := fun state stores =>
  let traceId := ((request.header "X-Trace-Id").filter (· ≠ "")).getD request.uuid
  withUrlPath deployment request (fun _ => callNext) { state with traceId := some traceId } stores

/-- `auth_middleware_dispatch`. -/
def auth : App := withUrlPath deployment request fun path state stores =>
  if isExemptPath path then callNext state stores
  else if deployment.settings.authRequireApiKey = false then callNext state.attachAnonymousPrincipal stores
  else
    match (request.header deployment.settings.apiKeyHeaderName).filter (· ≠ "") with
    | none =>
      let missing := .authentication ("Missing " ++ deployment.settings.apiKeyHeaderName ++ " header")
      (.error (authErrorResponse deployment state missing), stores)
    | some rawKey =>
      match stores.keys.authenticate deployment.auth rawKey {} with
      | (.authenticated none, keys) =>
        (.error (authErrorResponse deployment state (.authentication "Invalid API key")), { stores with keys })
      | (.authenticated (some principal), keys) =>
        match authorize path request.method principal with
        | .error error => (.error (authErrorResponse deployment state error), { stores with keys })
        | .ok principal => callNext (state.attachPrincipal principal) { stores with keys }
      | (_, keys) => (.error (internalErrorResponse state), { stores with keys })

def rateLimitKey (tenantId : String) : String := "ratelimit:tenant:" ++ tenantId

/-- `rate_limit_middleware_dispatch`. -/
def rateLimit : App := withUrlPath deployment request fun path state stores =>
  if isExemptPath path then callNext state stores
  else
    let tenantId := (state.tenantId.filter (· ≠ "")).getD defaultTenantId
    let limitOverride := state.auth.bind (·.rateLimitPerMinute)
    let key := rateLimitKey tenantId
    match checkAndIncrementFloat deployment.round deployment.rateLimit limitOverride 1 request.nowMs
        (stores.buckets key) with
    | (.ok (), stored) => callNext state { stores with buckets := Function.update stores.buckets key stored }
    | (.error retryAfterSeconds, stored) =>
      (.error (rateLimitErrorResponse state retryAfterSeconds),
        { stores with buckets := Function.update stores.buckets key stored })

end dispatch

def endpoint : App := fun state stores => (.ran state, stores)

/-- `create_app`: the middleware registered last is the outermost. -/
def createApp (deployment : Deployment) (request : Request) : App :=
  [rateLimit deployment request, auth deployment request, requestContext deployment request].foldl
    (fun app middleware => middleware app) endpoint

def handle (deployment : Deployment) (request : Request) (stores : Stores) : Answer × Stores :=
  createApp deployment request {} stores

end LlmopsGateway.Middleware

/-! ## The front door

Requests pass the middleware one after another. In between keys are created and revoked and cached principals
disappear, with any commands and transactions of these operations failing.
-/

namespace LlmopsGateway.FrontDoor

open Middleware

/-- `reached` is history: the tenant and the time of each request that got to an endpoint through the checks,
newest first. -/
structure State where
  stores : Stores
  nowMs : ℕ := 0
  reached : List (String × ℕ) := []

inductive Label
  | request (request : Request)
  | keys (label : AuthService.Label)

/-- Where the URL is exempt nothing has been checked. -/
def entryOf (deployment : Deployment) (request : Request) : Answer → List (String × ℕ)
  | .ran state =>
    if (deployment.urlPath request).any isExemptPath then [] else [(state.tenantId.getD "", request.nowMs)]
  | .error _ => []

/-- A request is not handled before the one that came before it. -/
def step (deployment : Deployment) (state : State) : Label → Option State
  | .request request =>
    if state.nowMs ≤ request.nowMs then
      let (answer, stores) := Middleware.handle deployment request state.stores
      some { stores, nowMs := request.nowMs, reached := entryOf deployment request answer ++ state.reached }
    else none
  | .keys label =>
    (AuthService.step deployment.auth state.stores.keys label).map fun keys =>
      { state with stores := { state.stores with keys } }

end LlmopsGateway.FrontDoor
