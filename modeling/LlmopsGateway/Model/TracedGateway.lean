import LlmopsGateway.Machine.Instrumented
import LlmopsGateway.Model.Gateway
import LlmopsGateway.Model.Tracing

/-! # The handlers with their spans

The two handlers once more, now with what they do to the `TracingService` of the request: the blocks of
`cache_lookup`, `upstream_call` and `cost_calculation` and the metadata of their spans. These are notes between
the events the handlers log anyway. The span of the lookup is annotated after its block is left.
-/

namespace LlmopsGateway

open Machine

abbrev TracedHandler := Logged Raised (Event ⊕ TracingService.Label)

namespace TracedGateway

open Logged GatewayService

/-- `with tracing.span(name)`. -/
def span {α : Type} (name : String) (body : TracedHandler α) : TracedHandler α :=
  bracket (.enter name none) .leave body

/-- `span.metadata[key] = value`, for the span at a place. -/
def annotate (place : ℕ) (key : String) (value : Json) : TracedHandler Unit := note (.annotate place key value)

/-- The float of a cost, as the metadata has it. -/
structure CostFloats where
  json : ℚ → Json

variable (floats : CostFloats) (pricing : Pricing) (env : Environment)

/-- The lookup of both handlers, with the metadata of its span. -/
def lookup (request : ChatRequest) : TracedHandler (Option ChatResponse × CacheStatus) := do
  let (cached, status) ← span "cache_lookup" (lift (CacheService.lookup env request))
  annotate 0 "cache_status" (.str status.value)
  if truthy request.adapterId then annotate 0 "adapter_id" (.str (request.adapterId.getD ""))
  return (cached, status)

/-- The block `upstream_call` of `handle_chat_completion`. -/
def routeCompletion (request : ChatRequest) : TracedHandler ChatResponse :=
  span "upstream_call" do
    let response ← lift (GatewayService.routeCompletion env request)
    annotate 1 "provider" (.str response.provider)
    annotate 1 "model" (.str response.model)
    return response

/-- The block `cost_calculation`. -/
def price (model : ModelIdentifier) (usage : TokenUsage) : TracedHandler ℚ :=
  span "cost_calculation" do
    let costUsd ← lift (GatewayService.price pricing model usage)
    annotate 2 "cost_usd" (floats.json costUsd)
    return costUsd

section complete

def completeUpstream (request : ChatRequest) (status : CacheStatus) (wonLock : Bool) :
    TracedHandler ChatResponse := do
  let response ← (routeCompletion env request).ensuring ((if wonLock then [.lockReleased] else []).map .inl)
  let costUsd ← price floats pricing response.identifier response.usage
  let response := { response with costUsd }
  if status ≠ .bypassed then lift (Logged.log (.backfilled request response))
  lift (respond env request response status)

def completeMissed (request : ChatRequest) (status : CacheStatus) : TracedHandler ChatResponse := do
  lift (Logged.log (.lockTried env.lockAcquired))
  if env.lockAcquired then completeUpstream floats pricing env request status true
  else
    match env.coalesced with
    | some response => lift (respond env request response .exactHit)
    | none => completeUpstream floats pricing env request status false

/-- `handle_chat_completion`. -/
def handleChatCompletion (request : ChatRequest) : TracedHandler ChatResponse := do
  let request := applyAdapterRoute env request
  let (cached, status) ← lookup env request
  match cached with
  | some response => lift (respond env request response status)
  | none =>
    if status = .bypassed then completeUpstream floats pricing env request status false
    else completeMissed floats pricing env request status

end complete

section stream

/-- The block `upstream_call` of `handle_chat_completion_stream`, which has no model to name. -/
def routeStream (request : ChatRequest) :
    TracedHandler (List String × Option (Provider × ChatRequest)) :=
  span "upstream_call" do
    let (chunks, selection) ← lift (GatewayService.routeStream env request)
    annotate 1 "provider" (.str (selection.elim "unknown" fun (provider, _) => provider.name))
    return (chunks, selection)

def finishStream (request : ChatRequest) (status : CacheStatus) (chunks : List String)
    (selection : Option (Provider × ChatRequest)) : TracedHandler Unit := do
  let (usage, provider) ← lift (attributed env chunks selection)
  let costUsd ← price floats pricing ⟨provider, request.model⟩ usage
  let response := assembled env request status chunks provider usage costUsd
  lift (Logged.log (.backfilled request response))
  lift (Logged.log (.yielded (.metadata response)))
  lift (finalize env .chatCompletionsStream request response)

/-- `handle_chat_completion_stream`. -/
def handleChatCompletionStream (request : ChatRequest) : TracedHandler Unit := do
  let request := applyAdapterRoute env request
  let (cached, status) ← lookup env request
  match cached with
  | some response => lift (streamHit env request response status)
  | none =>
    let (chunks, selection) ← routeStream env request
    if status = .bypassed then return ()
    else finishStream floats pricing env request status chunks selection

end stream

/-- `create_chat_completion`. -/
def handle (visit : Visit) : TracedHandler Unit :=
  if visit.request.stream then handleChatCompletionStream floats pricing visit.env visit.request
  else do
    let _ ← handleChatCompletion floats pricing visit.env visit.request
    return ()

end TracedGateway

end LlmopsGateway
