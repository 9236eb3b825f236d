import LlmopsGateway.Machine.Logged
import LlmopsGateway.Model.Routing

/-! # Handling one chat completion

`GatewayService` with the parts of `CacheService` it uses: a request is looked up, possibly joined
to an identical one in flight, served upstream, priced, written back and accounted for. The
services around a handler answer it from an `Environment`; what it does to them is its event log.
Background tasks are logged where they are scheduled. Spans and their metadata are left out.
-/

namespace LlmopsGateway

open Machine

/-- The arguments of `AdapterRouteRepository.resolve_with_canary`. -/
structure AdapterQuery where
  tenantId : String
  modelAlias : String
  routingKey : List Char
  preferredStage : Option String

/-- An adapter route row, as far as routing reads it. -/
structure AdapterRoute where
  baseModel : String
  adapterId : String
  stage : String

/-- What surrounds one request: its caller, and the answers of the services while it is handled.
`resolveWithCanary` has no row either without a database, for a tenant id that is no UUID, or when
the lookup fails; `coalesced` is the answer of `wait_for_coalesced_result`. `countTokens` gives the
tokens of a streamed completion, and `countable` says where the tokenizer does not raise. -/
structure Environment where
  traceId : String
  tenantId : String
  apiKeyId : Option String := none
  resolveWithCanary : AdapterQuery → Option AdapterRoute := fun _ => none
  exactGet : ChatRequest → Option ChatResponse := fun _ => none
  semanticGet : ChatRequest → Option ChatResponse := fun _ => none
  lockAcquired : Bool := true
  coalesced : Option ChatResponse := none
  registry : ProviderRegistry
  settings : RoutingSettings
  complete : Provider → ChatRequest → Except Raised ChatResponse
  stream : Provider → ChatRequest → RoutingService.StreamScript
  countTokens : Provider → ChatRequest → String → TokenUsage
  countable : Provider → ChatRequest → String → Bool := fun _ _ _ => true
  uuid : String
  now : ℕ
  latencyMs : ℚ

/-- An item of a streamed reply: a text delta, or the `StreamMetadata` at its end. -/
inductive StreamItem
  | chunk (text : String)
  | metadata (response : ChatResponse)

inductive Route
  | chatCompletions
  | chatCompletionsStream
deriving DecidableEq, Repr

/-- What `_finalize` records of a request. -/
structure AuditEntry where
  route : Route
  tenantId : String
  apiKeyId : Option String
  request : ChatRequest
  response : ChatResponse

/-- What a handler does to the services around it. `completed` is history: an upstream completion
that ran to its end, the model that produced it and the tokens it used. -/
inductive Event
  | promoted (request : ChatRequest) (response : ChatResponse)
  | lockTried (acquired : Bool)
  | lockReleased
  | completed (model : ModelIdentifier) (usage : TokenUsage)
  | priced (model : ModelIdentifier) (usage : TokenUsage)
  | backfilled (request : ChatRequest) (response : ChatResponse)
  | yielded (item : StreamItem)
  | finalized (entry : AuditEntry)

/-- The provider and model a response names. -/
def ChatResponse.identifier (response : ChatResponse) : ModelIdentifier :=
  ⟨response.provider, response.model⟩

abbrev Handler := Logged Raised Event

/-- `CacheService.lookup`. A semantic hit is written back to the exact cache. -/
def CacheService.lookup (env : Environment) (request : ChatRequest) :
    Handler (Option ChatResponse × CacheStatus) :=
  if request.cacheBypass then return (none, .bypassed)
  else
    match env.exactGet request with
    | some hit => return (some hit, .exactHit)
    | none =>
      match env.semanticGet request with
      | some hit => do
        Logged.log (.promoted request hit)
        return (some hit, .semanticHit)
      | none => return (none, .miss)

namespace GatewayService

variable (pricing : Pricing) (env : Environment)

/-- The string test of Python: present and not empty. -/
def truthy : Option String → Bool
  | none => false
  | some text => text ≠ ""

def routingKey (request : ChatRequest) : List Char :=
  env.tenantId.toList ++ ':' :: (request.model.toList ++ ':' :: request.canonicalPrompt)

/-- `_apply_adapter_route`. -/
def applyAdapterRoute (request : ChatRequest) : ChatRequest :=
  if truthy request.adapterId && truthy request.modelAlias then request
  else
    match env.resolveWithCanary ⟨env.tenantId, request.model, routingKey env request,
        request.adapterStage⟩ with
    | none => request
    | some row =>
      { request with
        modelAlias := some request.model
        model := row.baseModel
        adapterId := some row.adapterId
        adapterStage := some row.stage }

/-- `_stamp`: a cached answer costs nothing. -/
def stamp (request : ChatRequest) (response : ChatResponse) (status : CacheStatus) : ChatResponse :=
  { response with
    traceId := env.traceId
    cacheStatus := status
    latencyMs := env.latencyMs
    costUsd := if status = .exactHit ∨ status = .semanticHit then 0 else response.costUsd
    adapterId := request.adapterId
    modelAlias := request.modelAlias
    adapterStage := request.adapterStage }

/-- `_finalize`. -/
def finalize (route : Route) (request : ChatRequest) (response : ChatResponse) : Handler Unit :=
  Logged.log (.finalized ⟨route, env.tenantId, env.apiKeyId, request, response⟩)

/-- The price lookup and the cost of a completion under one identifier. -/
def price (model : ModelIdentifier) (usage : TokenUsage) : Handler ℚ := do
  Logged.log (.priced model usage)
  return calculateCostUsd pricing model usage

section complete

/-- The three exits of `handle_chat_completion`: stamp, finalize, return. -/
def respond (request : ChatRequest) (response : ChatResponse) (status : CacheStatus) :
    Handler ChatResponse := do
  let result := stamp env request response status
  finalize env .chatCompletions request result
  return result

/-- `RoutingService.complete` as the handler sees it. -/
def routeCompletion (request : ChatRequest) : Handler ChatResponse :=
  match RoutingService.complete env.registry env.settings env.complete request with
  | .ok response => do
    Logged.log (.completed response.identifier response.usage)
    return response
  | .error error => Logged.raise error

/-- From the `try` around the upstream call on; the lock is released on either outcome. -/
def completeUpstream (request : ChatRequest) (status : CacheStatus) (wonLock : Bool) :
    Handler ChatResponse := do
  let response ← (routeCompletion env request).ensuring (if wonLock then [.lockReleased] else [])
  let costUsd ← price pricing response.identifier response.usage
  let response := { response with costUsd }
  if status ≠ .bypassed then Logged.log (.backfilled request response)
  respond env request response status

/-- A miss: try the lock, and after losing it wait for the winner's result. -/
def completeMissed (request : ChatRequest) (status : CacheStatus) : Handler ChatResponse := do
  Logged.log (.lockTried env.lockAcquired)
  if env.lockAcquired then completeUpstream pricing env request status true
  else
    match env.coalesced with
    | some response => respond env request response .exactHit
    | none => completeUpstream pricing env request status false

/-- `handle_chat_completion`. -/
def handleChatCompletion (request : ChatRequest) : Handler ChatResponse := do
  let request := applyAdapterRoute env request
  let (cached, status) ← CacheService.lookup env request
  match cached with
  | some response => respond env request response status
  | none =>
    if status = .bypassed then completeUpstream pricing env request status false
    else completeMissed pricing env request status

end complete

section stream

/-- `RoutingService.stream` read to its end, every chunk passed on. -/
def routeStream (request : ChatRequest) : Handler (List String × Option (Provider × ChatRequest)) :=
  let run := RoutingService.stream env.registry env.settings env.stream request
  { events := run.chunks.map (fun text => .yielded (.chunk text)) ++
      (run.served.map fun (provider, sent) =>
        .completed ⟨provider.name, sent.model⟩
          (env.countTokens provider sent (String.join run.chunks))).toList
    outcome := run.outcome.map fun _ => (run.chunks, run.selection) }

/-- The usage and the provider name of a stream, from what the callback captured. -/
def attributed (chunks : List String) : Option (Provider × ChatRequest) → Handler (TokenUsage × String)
  | some (provider, sent) =>
    if env.countable provider sent (String.join chunks) then
      return (env.countTokens provider sent (String.join chunks), provider.name)
    else Logged.raise .library
  | none => return (⟨0, 0⟩, "unknown")

/-- The response put together from a stream's text. -/
def assembled (request : ChatRequest) (status : CacheStatus) (chunks : List String)
    (provider : String) (usage : TokenUsage) (costUsd : ℚ) : ChatResponse where
  id := env.uuid
  model := request.model
  provider := provider
  message := ⟨.assistant, String.join chunks⟩
  usage := usage
  costUsd := costUsd
  cacheStatus := status
  traceId := env.traceId
  createdAt := env.now
  latencyMs := env.latencyMs
  adapterId := request.adapterId
  modelAlias := request.modelAlias
  adapterStage := request.adapterStage

/-- After the last chunk of a stream that is not bypassed. -/
def finishStream (request : ChatRequest) (status : CacheStatus) (chunks : List String)
    (selection : Option (Provider × ChatRequest)) : Handler Unit := do
  let (usage, provider) ← attributed env chunks selection
  let costUsd ← price pricing ⟨provider, request.model⟩ usage
  let response := assembled env request status chunks provider usage costUsd
  Logged.log (.backfilled request response)
  Logged.log (.yielded (.metadata response))
  finalize env .chatCompletionsStream request response

/-- A hit is one chunk, then its metadata. -/
def streamHit (request : ChatRequest) (cached : ChatResponse) (status : CacheStatus) : Handler Unit := do
  Logged.log (.yielded (.chunk cached.message.content))
  let result := stamp env request cached status
  Logged.log (.yielded (.metadata result))
  finalize env .chatCompletionsStream request result

/-- `handle_chat_completion_stream`; a bypassed stream ends with its last chunk. -/
def handleChatCompletionStream (request : ChatRequest) : Handler Unit := do
  let request := applyAdapterRoute env request
  let (cached, status) ← CacheService.lookup env request
  match cached with
  | some response => streamHit env request response status
  | none =>
    let (chunks, selection) ← routeStream env request
    if status = .bypassed then return ()
    else finishStream pricing env request status chunks selection

end stream

end GatewayService

/-- A request that arrives, and what surrounds it. -/
structure Visit where
  env : Environment
  request : ChatRequest

/-- `create_chat_completion`: the `stream` flag picks the handler. -/
def Visit.handle (pricing : Pricing) (visit : Visit) : Handler Unit :=
  if visit.request.stream then GatewayService.handleChatCompletionStream pricing visit.env visit.request
  else do
    let _ ← GatewayService.handleChatCompletion pricing visit.env visit.request
    return ()

end LlmopsGateway
