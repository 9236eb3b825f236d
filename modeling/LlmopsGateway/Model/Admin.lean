import LlmopsGateway.Model.AdapterRoutes
import LlmopsGateway.Model.Scopes

/-! # The admin API of one family of keys

The key endpoints and the adapter-route endpoints that write, behind the auth middleware. The callers
hold one key and the keys minted in the run, and every call is made with a key they hold. A call takes
two steps: the middleware with the validation of the payload, and later the handler with its
transaction; any number of calls overlap. Redis may answer or fail, cache entries may disappear at any
time, and a transaction may fail at any statement.
-/

namespace LlmopsGateway.Admin

open Auth

/-- A row of `api_keys`; its last use is not read here. -/
structure ApiKeyModel where
  id : Uuid
  tenantId : Uuid
  keyHash : String
  name : String
  scopes : List String
  revokedAt : Option ℕ := none
deriving DecidableEq

def ApiKeyModel.conflicts (first second : ApiKeyModel) : Bool :=
  first.id = second.id || first.keyHash = second.keyHash

abbrev ApiKeys := Machine.Table ApiKeyModel ApiKeyModel.conflicts

namespace ApiKeyRepository

def getById (table : ApiKeys) (apiKeyId : Uuid) : Option ApiKeyModel := table.rows.find? (·.id = apiKeyId)

/-- `get_active_by_key_hash`: the row joined with the status of its tenant. -/
def getActiveByKeyHash (table : ApiKeys) (tenants : Uuid → Option String) (keyHash : String) :
    Option ApiKeyRecord := do
  let row ← table.rows.find? fun row => row.keyHash = keyHash && row.revokedAt.isNone
  let status ← tenants row.tenantId
  some ⟨row.id.str, row.tenantId.str, row.scopes, status, row.revokedAt⟩

def revoked (apiKeyId : Uuid) (now : ℕ) (row : ApiKeyModel) : ApiKeyModel :=
  if row.id = apiKeyId then { row with revokedAt := some now } else row

theorem conflicts_revoked (apiKeyId : Uuid) (now : ℕ) (first second : ApiKeyModel) :
    (revoked apiKeyId now first).conflicts (revoked apiKeyId now second) = first.conflicts second := by
  unfold revoked
  split <;> split <;> rfl

def revoke (table : ApiKeys) (apiKeyId : Uuid) (now : ℕ) : ApiKeys :=
  table.update (revoked apiKeyId now) (conflicts_revoked apiKeyId now)

end ApiKeyRepository

structure CreateApiKeyRequest where
  name : String
  scopes : List String := ["*"]
deriving DecidableEq

structure UpsertAdapterRouteRequest where
  modelAlias : String
  baseModel : String
  adapterId : String
  stage : String := "Production"
  enabled : Bool := true
  canaryPercent : ℤ := 0
  tenantId : Option String := none
deriving DecidableEq

/-- `min_length` and `max_length` of a field. -/
def fits (least most : ℕ) (field : String) : Bool := least ≤ field.length && field.length ≤ most

def CreateApiKeyRequest.valid (payload : CreateApiKeyRequest) : Bool := fits 1 255 payload.name

def UpsertAdapterRouteRequest.valid (payload : UpsertAdapterRouteRequest) : Bool :=
  fits 1 128 payload.modelAlias && fits 1 128 payload.baseModel && fits 1 255 payload.adapterId &&
    fits 0 32 payload.stage && 0 ≤ payload.canaryPercent && payload.canaryPercent ≤ 100

inductive Endpoint
  | createApiKey (payload : CreateApiKeyRequest)
  | revokeApiKey (apiKeyId : Uuid)
  | upsertAdapterRoute (payload : UpsertAdapterRouteRequest)
  | disableAdapterRoute (modelAlias stage : String)
deriving DecidableEq

namespace Endpoint

def method : Endpoint → String
  | createApiKey _ => "POST"
  | revokeApiKey _ => "DELETE"
  | upsertAdapterRoute _ => "PUT"
  | disableAdapterRoute .. => "DELETE"

def valid : Endpoint → Bool
  | createApiKey payload => payload.valid
  | upsertAdapterRoute payload => payload.valid
  | _ => true

end Endpoint

/-- A request; `path` is `request.url.path`, to which the Host header contributes. -/
structure Call where
  rawKey : String
  path : String
  endpoint : Endpoint
deriving DecidableEq

inductive Answer
  | apiKey (apiKeyId : Uuid) (rawKey : String) (scopes : List String)
  | adapterRoute (row : AdapterRouteModel)
  | noContent
  | error (status : ℕ) (detail : String)
deriving DecidableEq

inductive Phase
  | idle
  | admitted (principal : AuthenticatedPrincipal) (endpoint : Endpoint)
  | answered (answer : Answer)
deriving DecidableEq

/-- `tenants` gives the status of every tenant. `held` (the raw keys the callers have) and
`routeWrites` (the tenants of the adapter routes the run has inserted or changed, latest first) are
history. -/
structure State where
  tenants : Uuid → Option String
  apiKeys : ApiKeys
  adapterRoutes : AdapterRoutes
  redis : String → Option AuthenticatedPrincipal := fun _ => none
  calls : ℕ → Phase := fun _ => .idle
  held : List String
  routeWrites : List Uuid := []

/-- Whether the stores answer a call, and what it draws: the ids of new rows, the token of a new key
and the time. -/
structure Draw where
  redisGet : Bool := true
  redisSet : Bool := true
  redisDelete : Bool := true
  database : Bool := true
  id : Uuid := .ofNat 0
  token : String := ""
  now : ℕ := 0

inductive Label
  | expire (keyHash : String)
  | arrive (id : ℕ) (call : Call) (draw : Draw)
  | handle (id : ℕ) (draw : Draw)

namespace State

def goto (state : State) (id : ℕ) (next : Phase) : State :=
  { state with calls := Function.update state.calls id next }

def answer (state : State) (id : ℕ) (answer : Answer) : State := state.goto id (.answered answer)

end State

section

variable (sha256 : String → String) (settings : Settings) (decimal : Char → Option (Fin 10))

def internalError : Answer := .error 500 "An unexpected error occurred"

/-- `authenticate`, with the cache it leaves: the cached principal, else the one of the row, which is then
cached. `none` is the exception of a failing database. -/
def authenticate (state : State) (draw : Draw) (rawKey : String) :
    Option (Option AuthenticatedPrincipal × (String → Option AuthenticatedPrincipal)) :=
  if isValidApiKeyFormat rawKey then
    let keyHash := hashApiKey sha256 settings rawKey
    match if draw.redisGet then state.redis keyHash else none with
    | some cached => some (some cached, state.redis)
    | none =>
      if draw.database then
        match (ApiKeyRepository.getActiveByKeyHash state.apiKeys state.tenants keyHash).bind
            ApiKeyRecord.principal? with
        | none => some (none, state.redis)
        | some principal =>
          some (some principal,
            if draw.redisSet then Function.update state.redis keyHash (some principal) else state.redis)
      else none
  else some (none, state.redis)

/-- The middleware and, behind it, the principal dependency and the validation of the payload. -/
def arrive (state : State) (id : ℕ) (call : Call) (draw : Draw) : State :=
  match authenticate sha256 settings state draw call.rawKey with
  | none => state.answer id internalError
  | some (found, redis) =>
    let state := { state with redis }
    match authMiddleware {} call.path call.endpoint.method (some call.rawKey) fun _ => found with
    | .error error => state.answer id (.error error.status "")
    | .ok none => state.answer id (.error 401 "Request is not authenticated")
    | .ok (some principal) =>
      if call.endpoint.valid then state.goto id (.admitted principal call.endpoint)
      else state.answer id (.error 422 "")

/-- `create_api_key`. The new row needs its tenant. -/
def createApiKey (state : State) (id : ℕ) (principal : AuthenticatedPrincipal)
    (payload : CreateApiKeyRequest) (draw : Draw) : State :=
  let rawKey := apiKeyPrefix ++ draw.token
  match Uuid.parse decimal principal.tenantId.toList with
  | none => state.answer id internalError
  | some tenantId =>
    if (state.tenants tenantId).isNone then state.answer id internalError
    else
      match state.apiKeys.insert
          ⟨draw.id, tenantId, hashApiKey sha256 settings rawKey, payload.name, payload.scopes, none⟩ with
      | none => state.answer id internalError
      | some apiKeys =>
        { state with apiKeys, held := rawKey :: state.held }.answer id
          (.apiKey draw.id rawKey payload.scopes)

/-- `revoke_api_key`; a failing `DELETE` of the cache entry rolls the update back. -/
def revokeApiKey (state : State) (id : ℕ) (principal : AuthenticatedPrincipal) (apiKeyId : Uuid)
    (draw : Draw) : State :=
  match ApiKeyRepository.getById state.apiKeys apiKeyId with
  | none => state.answer id (.error 404 "API key not found")
  | some record =>
    if record.tenantId.str ≠ principal.tenantId then state.answer id (.error 404 "API key not found")
    else if record.revokedAt.isSome then
      state.answer id (.error 404 "API key not found or already revoked")
    else if draw.redisDelete then
      { state with
        apiKeys := ApiKeyRepository.revoke state.apiKeys apiKeyId draw.now
        redis := Function.update state.redis record.keyHash none }.answer id .noContent
    else state.answer id internalError

/-- `upsert_adapter_route`. A new row needs its tenant. -/
def upsertAdapterRoute (state : State) (id : ℕ) (principal : AuthenticatedPrincipal)
    (payload : UpsertAdapterRouteRequest) (draw : Draw) : State :=
  match Uuid.parse decimal ((payload.tenantId.filter (· ≠ "")).getD principal.tenantId).toList with
  | none => state.answer id internalError
  | some tenantId =>
    if "*" ∉ principal.scopes ∧ tenantId.str ≠ principal.tenantId then
      state.answer id (.error 403 "Cannot mutate another tenant's routes")
    else if (AdapterRouteRepository.getByUnique state.adapterRoutes tenantId payload.modelAlias
        payload.stage).isNone ∧ (state.tenants tenantId).isNone then
      state.answer id internalError
    else
      match AdapterRouteRepository.upsert state.adapterRoutes draw.id tenantId payload.modelAlias
          payload.baseModel payload.adapterId payload.stage payload.enabled payload.canaryPercent with
      | none => state.answer id internalError
      | some (row, adapterRoutes) =>
        { state with adapterRoutes, routeWrites := tenantId :: state.routeWrites }.answer id
          (.adapterRoute row)

/-- `disable_adapter_route`. -/
def disableAdapterRoute (state : State) (id : ℕ) (principal : AuthenticatedPrincipal)
    (modelAlias stage : String) : State :=
  match Uuid.parse decimal principal.tenantId.toList with
  | none => state.answer id internalError
  | some tenantId =>
    match AdapterRouteRepository.disable state.adapterRoutes tenantId modelAlias stage with
    | none => state.answer id (.error 404 "Adapter route not found")
    | some (_, adapterRoutes) =>
      { state with adapterRoutes, routeWrites := tenantId :: state.routeWrites }.answer id .noContent

def handle (state : State) (id : ℕ) (principal : AuthenticatedPrincipal) (endpoint : Endpoint)
    (draw : Draw) : State :=
  if draw.database then
    match endpoint with
    | .createApiKey payload => createApiKey sha256 settings decimal state id principal payload draw
    | .revokeApiKey apiKeyId => revokeApiKey state id principal apiKeyId draw
    | .upsertAdapterRoute payload => upsertAdapterRoute decimal state id principal payload draw
    | .disableAdapterRoute modelAlias stage =>
      disableAdapterRoute decimal state id principal modelAlias stage
  else state.answer id internalError

def step (state : State) : Label → Option State
  | .expire keyHash => some { state with redis := Function.update state.redis keyHash none }
  | .arrive id call draw =>
    match state.calls id with
    | .idle => if call.rawKey ∈ state.held then some (arrive sha256 settings state id call draw) else none
    | _ => none
  | .handle id draw =>
    match state.calls id with
    | .admitted principal endpoint => some (handle sha256 settings decimal state id principal endpoint draw)
    | _ => none

end

end LlmopsGateway.Admin
