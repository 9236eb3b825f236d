import LlmopsGateway.Model.ChatRequest
import LlmopsGateway.Model.Gateway
import LlmopsGateway.Model.Pricing
import LlmopsGateway.Model.PyUuid

/-! # Handling a chat completion while the stores fail

The non-streaming handler down to its single calls of Redis, Qdrant, the embedding model and the
database. Each call may raise, and each handler catches the exceptions its `except` clause names.
What Redis holds is arbitrary text. The Redis answers may differ from call to call, since other
requests write meanwhile.
-/

namespace LlmopsGateway

open Machine PyText

/-- `float < 0`, from the text of the float. -/
def PyText.PyFloat.isNegative (float : PyFloat) : Bool :=
  float.text.toList.head? = some '-' && float.text ≠ "-0.0"

namespace Faults

/-- The exceptions that the handlers tell apart. -/
inductive Fault
  | redisError
  | timeout
  | other
deriving DecidableEq

abbrev Reply (α : Type) := Except Fault α

/-- What leaves `handle_chat_completion` instead of a response. `overflow` is the `OverflowError` of an
integer too large to divide, `negativeIncrement` the `ValueError` of a counter. -/
inductive Failure
  | upstream (error : Raised)
  | fault (fault : Fault)
  | overflow
  | negativeIncrement
deriving DecidableEq

/-- A computation that logs its `RoutingService.complete` calls, with what they came to. -/
abbrev Guarded := Logged Failure (Except Raised ChatResponse)

/-- `count / 1000`, with `none` for the `OverflowError`, and the other operations on floats. -/
structure Arithmetic extends Floats where
  perThousand : ℤ → Option PyFloat
  mul : PyFloat → PyFloat → PyFloat
  add : PyFloat → PyFloat → PyFloat

/-- A point that Qdrant returns, best first. -/
structure Point where
  payload : List (String × Json)

/-- Libraries: SHA-256, the character tables of Python, pydantic's `model_validate_json` and
`model_validate` with `none` for their `ValueError`, and floats. -/
structure Libraries where
  sha256 : List Char → List Char
  isPrintable : Char → Bool
  decimal : Char → Option (Fin 10)
  validateJson : String → Option ChatResponse
  validate : Json → Option ChatResponse
  arithmetic : Arithmetic

/-- What surrounds one request, call by call: `base` without its answers about routes and caches, which
come from the calls instead. `exactGet` answers the `GET`s of the exact cache in turn, and `polls` is how
many of them fit into the wait budget. -/
structure Services (ν : Type) where
  base : Environment
  hasDatabase : Bool := true
  resolveWithCanary : Uuid → AdapterQuery → Reply (Option AdapterRoute)
  exactGet : ℕ → List Char → Reply (Option String)
  ensureCollection : Reply Unit
  embed : List Char → Reply ν
  queryPoints : ν → SemanticFilter → Reply (List Point)
  searchTimesOut : Bool := false
  lockSet : List Char → Reply Bool
  polls : ℕ
  lockDelete : List Char → Reply Unit
  pricingGet : String → Reply (Option String)
  activePrice : ModelIdentifier → Reply (Option ModelPricingModel)
  pricingSet : String → String → Reply Unit

/-- A call that may raise. -/
def call {α : Type} : Reply α → Guarded α
  | .ok value => return value
  | .error fault => Logged.raise (.fault fault)

/-- `except classes: return value`. -/
def excepting {α : Type} (classes : List Fault) (value : α) (body : Guarded α) : Guarded α :=
  body.recover fun
    | .fault fault => if fault ∈ classes then return value else Logged.raise (.fault fault)
    | failure => Logged.raise failure

/-- `except Exception: return value`. -/
def exceptingAll {α : Type} (value : α) (body : Guarded α) : Guarded α := body.recover fun _ => return value

variable (libraries : Libraries) {ν : Type} (services : Services ν)

section cache

variable (request : ChatRequest)

def cacheKey : List Char :=
  RedisExactCache.key libraries.sha256 libraries.isPrintable request services.base.tenantId

def lockKey : List Char :=
  CacheService.lockKey libraries.sha256 libraries.isPrintable request services.base.tenantId

def buildFilter : SemanticFilter :=
  QdrantSemanticCache.buildFilter libraries.sha256 libraries.isPrintable request services.base.tenantId

/-- `RedisExactCache.get`, the `turn`-th of the request. -/
def exactCacheGet (turn : ℕ) : Guarded (Option ChatResponse) := do
  let raw ← excepting [.timeout, .redisError] none
    (call (services.exactGet turn (cacheKey libraries services request)))
  match raw with
  | none => return none
  | some raw =>
    match libraries.validateJson raw with
    | none => return none
    | some response => return some { response with cacheStatus := .exactHit }

/-- `payload.get("response")`. -/
def Point.response (point : Point) : Json := (Json.field? point.payload "response").getD .null

/-- The response of the best point. -/
def readPoint (best : Point) : Option ChatResponse :=
  match best.response with
  | .null => none
  | data => (libraries.validate data).map fun response => { response with cacheStatus := .semanticHit }

/-- `_get_impl`. -/
def semanticGetImpl : Guarded (Option ChatResponse) := do
  call services.ensureCollection
  let vector ← call (services.embed (normalizePrompt request.canonicalPrompt))
  let points ← call (services.queryPoints vector (buildFilter libraries services request))
  match points with
  | [] => return none
  | best :: _ => return readPoint libraries best

/-- `QdrantSemanticCache.get`. -/
def semanticCacheGet : Guarded (Option ChatResponse) :=
  exceptingAll none
    (if services.searchTimesOut then Logged.raise (.fault .timeout)
      else semanticGetImpl libraries services request)

/-- `CacheService.lookup`; the write back of a semantic hit is a task of its own. -/
def lookup : Guarded (Option ChatResponse × CacheStatus) :=
  if request.cacheBypass then return (none, .bypassed)
  else do
    match ← exactCacheGet libraries services request 0 with
    | some hit => return (some hit, .exactHit)
    | none =>
      match ← semanticCacheGet libraries services request with
      | some hit => return (some hit, .semanticHit)
      | none => return (none, .miss)

def acquireCoalescingLock : Guarded Bool :=
  excepting [.redisError] true (call (services.lockSet (lockKey libraries services request)))

def releaseCoalescingLock : Guarded Unit :=
  excepting [.redisError] () (call (services.lockDelete (lockKey libraries services request)))

/-- The polls that are left. -/
def pollFrom (turn : ℕ) : ℕ → Guarded (Option ChatResponse)
  | 0 => return none
  | left + 1 => do
    match ← exactCacheGet libraries services request turn with
    | some hit => return some hit
    | none => pollFrom (turn + 1) left

/-- `wait_for_coalesced_result`. -/
def waitForCoalescedResult : Guarded (Option ChatResponse) :=
  pollFrom libraries services request 1 services.polls

end cache

section cost

/-- `_load_from_database`. -/
def loadFromDatabase (model : ModelIdentifier) : Guarded (Option CostService.Prices) := do
  let record ← exceptingAll none (call (services.activePrice model))
  return record.map (CostService.pricesOf libraries.arithmetic.toFloats)

/-- `_get_pricing`. -/
def getPricing (model : ModelIdentifier) : Guarded (Option CostService.Prices) := do
  let cached ← excepting [.redisError] none (call (services.pricingGet (CostService.cacheKey model)))
  match cached with
  | some cached => return CostService.readEntry libraries.arithmetic.toFloats cached
  | none =>
    let pricing ← loadFromDatabase libraries services model
    excepting [.redisError] ()
      (call (services.pricingSet (CostService.cacheKey model) (CostService.cacheValue pricing)))
    return pricing

def zero : PyFloat := { text := "0.0" }

/-- The formula of `calculate_cost_usd`; a division may overflow. -/
def costOf (arithmetic : Arithmetic) (prices : CostService.Prices) (usage : TokenUsage) : Option PyFloat := do
  let input ← arithmetic.perThousand usage.inputTokens
  let output ← arithmetic.perThousand usage.outputTokens
  return arithmetic.add (arithmetic.mul input prices.1) (arithmetic.mul output prices.2)

def calculateCostUsd (model : ModelIdentifier) (usage : TokenUsage) : Guarded PyFloat := do
  match ← getPricing libraries services model with
  | none => return zero
  | some prices =>
    match costOf libraries.arithmetic prices usage with
    | none => Logged.raise .overflow
    | some cost => return cost

/-- `record_request_metrics`; a Prometheus counter does not count down. -/
def recordRequestMetrics (costUsd : PyFloat) : Guarded Unit :=
  if costUsd.isNegative then Logged.raise .negativeIncrement else return ()

end cost

section handler

/-- The tenant's adapter route, if there is a database and the tenant id is a UUID. -/
def resolveRoute (query : AdapterQuery) : Guarded (Option AdapterRoute) :=
  if services.hasDatabase then
    match Uuid.parse libraries.decimal query.tenantId.toList with
    | none => return none
    | some tenantUuid => exceptingAll none (call (services.resolveWithCanary tenantUuid query))
  else return none

/-- `_apply_adapter_route`. -/
def applyAdapterRoute (request : ChatRequest) : Guarded ChatRequest :=
  if GatewayService.truthy request.adapterId && GatewayService.truthy request.modelAlias then return request
  else do
    match ← resolveRoute libraries services ⟨services.base.tenantId, request.model,
        GatewayService.routingKey services.base request, request.adapterStage⟩ with
    | none => return request
    | some row => return { request with
        modelAlias := some request.model
        model := row.baseModel
        adapterId := some row.adapterId
        adapterStage := some row.stage }

/-- Stamp, record the metrics, schedule the trace and return. -/
def respond (request : ChatRequest) (response : ChatResponse) (status : CacheStatus) (costUsd : PyFloat) :
    Guarded ChatResponse := do
  let result := GatewayService.stamp services.base request response status
  recordRequestMetrics (if status = .exactHit ∨ status = .semanticHit then zero else costUsd)
  return result

/-- `RoutingService.complete`, on the log. -/
def routeCompletion (request : ChatRequest) : Guarded ChatResponse := do
  let result :=
    RoutingService.complete services.base.registry services.base.settings services.base.complete request
  Logged.log result
  match result with
  | .ok response => return response
  | .error error => Logged.raise (.upstream error)

/-- The `try` around the upstream call and its `finally`. -/
def callUpstream (request : ChatRequest) (wonLock : Bool) : Guarded ChatResponse := do
  let response ← (routeCompletion services request).recover fun failure => do
    if wonLock then releaseCoalescingLock libraries services request
    Logged.raise failure
  if wonLock then releaseCoalescingLock libraries services request
  return response

/-- From the upstream call on. -/
def completeUpstream (request : ChatRequest) (status : CacheStatus) (wonLock : Bool) :
    Guarded ChatResponse := do
  let response ← callUpstream libraries services request wonLock
  let costUsd ← calculateCostUsd libraries services response.identifier response.usage
  let response := { response with costUsd := libraries.arithmetic.value costUsd }
  respond services request response status costUsd

/-- A miss: try the lock, and after losing it wait for the winner's result. -/
def completeMissed (request : ChatRequest) (status : CacheStatus) : Guarded ChatResponse := do
  let wonLock ← acquireCoalescingLock libraries services request
  if wonLock then completeUpstream libraries services request status true
  else
    match ← waitForCoalescedResult libraries services request with
    | some coalesced => respond services request coalesced .exactHit zero
    | none => completeUpstream libraries services request status false

/-- `handle_chat_completion`. -/
def handleChatCompletion (request : ChatRequest) : Guarded ChatResponse := do
  let request ← applyAdapterRoute libraries services request
  let (cached, status) ← lookup libraries services request
  match cached with
  | some response => respond services request response status zero
  | none =>
    if status = .bypassed then completeUpstream libraries services request status false
    else completeMissed libraries services request status

end handler

end Faults

end LlmopsGateway
