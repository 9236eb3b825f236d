import LlmopsGateway.Model.Auth

/-! # The auth middleware

The table of scopes and `_auth_middleware_impl`. What `authenticate` returns for the key in the header
is given.
-/

namespace LlmopsGateway

open Auth

def exemptPaths : List String :=
  ["/health", "/health/ready", "/docs", "/openapi.json", "/redoc", "/metrics"]

def isExemptPath (path : String) : Bool :=
  path ∈ exemptPaths || "/metrics/".toList.isPrefixOf path.toList

namespace Scopes

def chatWrite : String := "chat:write"
def embeddingsWrite : String := "embeddings:write"
def adminRead : String := "admin:read"
def adminWrite : String := "admin:write"

/-- A path with everything below it, a method and the scopes one of which is needed. -/
structure Route where
  base : String
  method : String
  scopes : List String

def routeScopes : List Route :=
  [⟨"/v1/chat/completions", "POST", [chatWrite]⟩,
    ⟨"/v1/embeddings", "POST", [embeddingsWrite]⟩,
    ⟨"/v1/admin", "GET", [adminRead, adminWrite]⟩,
    ⟨"/v1/admin", "POST", [adminWrite]⟩,
    ⟨"/v1/admin", "PUT", [adminWrite]⟩,
    ⟨"/v1/admin", "PATCH", [adminWrite]⟩,
    ⟨"/v1/admin", "DELETE", [adminWrite]⟩]

/-- Methods are ASCII tokens. -/
def upper (method : String) : String := String.ofList (method.toList.map Char.toUpper)

def Route.covers (route : Route) (path method : String) : Bool :=
  upper method = route.method && (path = route.base || (route.base ++ "/").toList.isPrefixOf path.toList)

def requiredScopesForRequest (path method : String) : Option (List String) :=
  (routeScopes.find? (·.covers path method)).map Route.scopes

def principalHasAnyScope (scopes : Finset String) (required : List String) : Bool :=
  "*" ∈ scopes || required.any fun scope => scope ∈ scopes

end Scopes

/-- What the middleware raises; `insufficientScope` names one of the scopes. -/
inductive AuthError
  | authentication (message : String)
  | authorization (message : String)
  | insufficientScope (required : List String)
deriving DecidableEq

/-- The status `to_error_response` answers with. -/
def AuthError.status : AuthError → ℕ
  | authentication _ => 401
  | authorization _ => 403
  | insufficientScope _ => 403

structure MiddlewareSettings where
  authRequireApiKey : Bool := true
  apiKeyHeaderName : String := "X-API-Key"

def defaultTenantId : String := "00000000-0000-0000-0000-000000000001"

def anonymousPrincipal : AuthenticatedPrincipal where
  tenantId := defaultTenantId
  apiKeyId := ""
  tenantStatus := "active"
  scopes := {"*"}

/-- The part of `_auth_middleware_impl` that looks at the authenticated principal. -/
def authorize (path method : String) (principal : AuthenticatedPrincipal) :
    Except AuthError AuthenticatedPrincipal :=
  if principal.tenantStatus ≠ "active" then .error (.authorization "Tenant is not active")
  else
    match Scopes.requiredScopesForRequest path method with
    | none => .ok principal
    | some required =>
      if Scopes.principalHasAnyScope principal.scopes required then .ok principal
      else .error (.insufficientScope required)

/-- `_auth_middleware_impl` up to `call_next`: the principal it attaches to the request, if any. -/
def authMiddleware (settings : MiddlewareSettings) (path method : String) (rawKey : Option String)
    (authenticate : String → Option AuthenticatedPrincipal) :
    Except AuthError (Option AuthenticatedPrincipal) :=
  if isExemptPath path then .ok none
  else if settings.authRequireApiKey = false then .ok (some anonymousPrincipal)
  else
    match rawKey.filter (· ≠ "") with
    | none => .error (.authentication ("Missing " ++ settings.apiKeyHeaderName ++ " header"))
    | some key =>
      match authenticate key with
      | none => .error (.authentication "Invalid API key")
      | some principal => (authorize path method principal).map some

end LlmopsGateway
