import LlmopsGateway.Model.Admin
import LlmopsGateway.Model.PyJson
import Mathlib.Data.Finset.Sort
import Mathlib.Data.String.Basic

/-! # The service behind the API keys

`AuthService` over one Redis and the tables of keys and tenants, one operation after another. Redis holds
the texts `orjson` made of the principals. Every Redis command and every transaction of an operation may
fail: a command that fails changes nothing and a transaction rolls back. Entries may disappear between
operations. The dataclass checks nothing; reading an entry stops here at a value of another type.
-/

namespace LlmopsGateway.AuthService

open Auth Admin

/-- What the service is built with: SHA-256, the pepper, and `orjson`. -/
structure Deployment where
  sha256 : String → String
  settings : Settings := {}
  dumps : Json → String
  loads : String → Option Json

/-- Redis as far as this service uses it. -/
structure State where
  tenants : Uuid → Option String
  apiKeys : ApiKeys
  redis : String → Option String := fun _ => none

/-- Which commands of an operation are answered, and whether its transaction goes through up to its
commit and in its commit. -/
structure Replies where
  get : Bool := true
  set : Bool := true
  delete : Bool := true
  statements : Bool := true
  commit : Bool := true
deriving DecidableEq, Repr

inductive Operation
  | createApiKey (tenantId : Uuid) (keyHash name : String) (scopes : List String) (id : Uuid)
  | authenticate (rawKey : String)
  | revokeApiKey (apiKeyId : Uuid) (now : ℕ)
deriving DecidableEq

inductive Outcome
  | created (id : Uuid)
  | authenticated (principal : Option AuthenticatedPrincipal)
  | revoked (done : Bool)
  | raised
deriving DecidableEq

/-- An entry disappears, or an operation runs. -/
inductive Label
  | expire (keyHash : String)
  | call (operation : Operation) (replies : Replies)

/-- `_cache_key`. -/
def cacheKey (keyHash : String) : String := "auth:v1:" ++ keyHash

section entries

def text (value : Json) : Except ShapeError String :=
  match value with
  | .str text => .ok text
  | _ => .error .typeError

def limit : Json → Except ShapeError (Option ℤ)
  | .null => .ok none
  | .int value => .ok (some value)
  | _ => .error .typeError

/-- `sorted(principal.scopes)`. -/
def sortedScopes (principal : AuthenticatedPrincipal) : List String := principal.scopes.sort

/-- The dictionary `_set_cached` dumps. -/
def payload (principal : AuthenticatedPrincipal) : Json :=
  .obj
    [("tenant_id", .str principal.tenantId),
      ("api_key_id", .str principal.apiKeyId),
      ("tenant_status", .str principal.tenantStatus),
      ("scopes", .arr ((sortedScopes principal).map .str)),
      ("rate_limit_per_minute", principal.rateLimitPerMinute.elim .null .int)]

/-- The principal `_get_cached` makes of loaded data. -/
def principalOf (data : Json) : Except ShapeError AuthenticatedPrincipal := do
  let tenantId ← data.getItem "tenant_id" >>= text
  let apiKeyId ← data.getItem "api_key_id" >>= text
  let tenantStatus ← data.getItem "tenant_status" >>= text
  let scopes ← data.getItem "scopes" >>= Json.iterate
  let scopes ← scopes.mapM text
  let rateLimitPerMinute ← data.getD "rate_limit_per_minute" .null >>= limit
  .ok { tenantId, apiKeyId, tenantStatus, scopes := scopes.toFinset, rateLimitPerMinute }

end entries

variable (deployment : Deployment)

/-- An entry as a principal; `none` where `_get_cached` catches an exception. -/
def Deployment.read (entry : String) : Option AuthenticatedPrincipal :=
  match deployment.loads entry with
  | none => none
  | some data => (principalOf data).toOption

def Deployment.hash (rawKey : String) : String := hashApiKey deployment.sha256 deployment.settings rawKey

namespace State

/-- The principal of the row with a hash that is not revoked. -/
def lookup (state : State) (keyHash : String) : Option AuthenticatedPrincipal :=
  (ApiKeyRepository.getActiveByKeyHash state.apiKeys state.tenants keyHash).bind ApiKeyRecord.principal?

def delete (state : State) (keyHash : String) : State :=
  { state with redis := Function.update state.redis (cacheKey keyHash) none }

/-- `_get_cached`; `none` is the exception of the `DELETE` of an entry that cannot be read. -/
def getCached (state : State) (keyHash : String) (replies : Replies) :
    Option (Option AuthenticatedPrincipal) × State :=
  match if replies.get then state.redis (cacheKey keyHash) else none with
  | none => (some none, state)
  | some entry =>
    match deployment.read entry with
    | some principal => (some (some principal), state)
    | none => if replies.delete then (some none, state.delete keyHash) else (none, state)

/-- `_load_from_database`; `none` is an exception of its session. -/
def loadFromDatabase (state : State) (keyHash : String) (replies : Replies) :
    Option (Option AuthenticatedPrincipal) :=
  if replies.statements && replies.commit then some (state.lookup keyHash) else none

def setCached (state : State) (keyHash : String) (principal : AuthenticatedPrincipal)
    (replies : Replies) : State :=
  if replies.set then
    { state with
      redis := Function.update state.redis (cacheKey keyHash)
        (some (deployment.dumps (payload principal))) }
  else state

/-- Without the background update of `last_used_at`, which nothing here reads. -/
def authenticate (state : State) (rawKey : String) (replies : Replies) : Outcome × State :=
  if isValidApiKeyFormat rawKey then
    let keyHash := deployment.hash rawKey
    match state.getCached deployment keyHash replies with
    | (none, state) => (.raised, state)
    | (some (some cached), state) => (.authenticated (some cached), state)
    | (some none, state) =>
      match state.loadFromDatabase keyHash replies with
      | none => (.raised, state)
      | some none => (.authenticated none, state)
      | some (some principal) =>
        (.authenticated (some principal), state.setCached deployment keyHash principal replies)
  else (.authenticated none, state)

/-- The end of a session that has gone through its statements. -/
def commit (before : State) (replies : Replies) (outcome : Outcome) (after : State) : Outcome × State :=
  if replies.commit then (outcome, after) else (.raised, before)

/-- The new row needs its tenant, a hash of its own and an id of its own. -/
def createApiKey (state : State) (tenantId : Uuid) (keyHash name : String) (scopes : List String) (id : Uuid)
    (replies : Replies) : Outcome × State :=
  if replies.statements && (state.tenants tenantId).isSome then
    match state.apiKeys.insert ⟨id, tenantId, keyHash, name, scopes, none⟩ with
    | none => (.raised, state)
    | some apiKeys => state.commit replies (.created id) { state with apiKeys }
  else (.raised, state)

/-- The `DELETE` of the entry comes before the commit of the update. -/
def revokeApiKey (state : State) (apiKeyId : Uuid) (now : ℕ) (replies : Replies) : Outcome × State :=
  if replies.statements then
    match ApiKeyRepository.getById state.apiKeys apiKeyId with
    | none => state.commit replies (.revoked false) state
    | some record =>
      if record.revokedAt.isSome then state.commit replies (.revoked false) state
      else if replies.delete then
        let deleted := state.delete record.keyHash
        deleted.commit replies (.revoked true)
          { deleted with apiKeys := ApiKeyRepository.revoke deleted.apiKeys apiKeyId now }
      else (.raised, state)
  else (.raised, state)

end State

def perform (state : State) (operation : Operation) (replies : Replies) : Outcome × State :=
  match operation with
  | .createApiKey tenantId keyHash name scopes id => state.createApiKey tenantId keyHash name scopes id replies
  | .authenticate rawKey => state.authenticate deployment rawKey replies
  | .revokeApiKey apiKeyId now => state.revokeApiKey apiKeyId now replies

def step (state : State) : Label → Option State
  | .expire keyHash => some (state.delete keyHash)
  | .call operation replies => some (perform deployment state operation replies).2

end LlmopsGateway.AuthService
