import LlmopsGateway.Model.ChatEndpoint
import LlmopsGateway.Model.RetryLoop

/-! # Chat completions from the front door to the providers

Requests pass the middleware and their handlers one after another, and the handlers call the providers
through the retry loops. What the caches answer, and what an attempt meets at its provider, is given with
each request. A request is routed on by its path, whatever URL the middleware reads.
-/

namespace LlmopsGateway

namespace UpstreamEvent

variable {κ : Type}

def isCalled : UpstreamEvent κ → Bool
  | called .. => true
  | _ => false

/-- The upstream calls of a run. -/
def calls (events : List (UpstreamEvent κ)) : ℕ := events.countP isCalled

end UpstreamEvent

/-- What an attempt meets: the breaker's answer at entry, and what each upstream call yields. -/
structure Meeting (ω : Type) where
  allowed : Bool
  yields : ℕ → ω

def Meeting.leg {ω : Type} (maxRetries : ℕ) (meets : Attempt → Meeting ω) (attempt : Attempt) : Leg ω where
  provider := attempt.1
  model := attempt.2
  maxRetries := maxRetries
  allowed := (meets attempt).allowed
  yields := (meets attempt).yields

/-- A provider's stream as the routing sees it. -/
def RoutingService.StreamScript.ofRun {κ : Type} (run : Machine.Logged Raised (UpstreamEvent κ) Unit) :
    RoutingService.StreamScript where
  chunks := run.events.filterMap UpstreamEvent.text?
  raised :=
    match run.outcome with
    | .ok () => none
    | .error error => some error

namespace ProviderTraffic

open Middleware RoutingService BaseLLMProvider

structure Deployment where
  front : Middleware.Deployment
  registry : ProviderRegistry
  routing : RoutingSettings := {}
  maxRetries : ℕ := 3

/-- A chat completion with what its handler meets; `base` answers for all services but the providers. -/
structure Arrival where
  request : Request
  payload : ChatRequest
  base : Environment
  completes : Attempt → Meeting (Except ProviderError ChatResponse)
  streams : Attempt → Meeting Played

section arrival

variable (deployment : Deployment) (arrival : Arrival) (state : RequestState)

def completeLeg : Attempt → CompleteLeg := Meeting.leg deployment.maxRetries arrival.completes

def streamLeg : Attempt → StreamLeg := Meeting.leg deployment.maxRetries arrival.streams

/-- The handler's request, with the providers behind their retry loops. -/
def visit : Visit where
  env :=
    { ChatEndpoint.environment arrival.base state with
      registry := deployment.registry
      settings := deployment.routing
      complete := fun provider sent =>
        ((completeLeg deployment arrival (provider, sent.model)).complete sent).outcome
      stream := fun provider sent =>
        .ofRun ((streamLeg deployment arrival (provider, sent.model)).stream sent) }
  request := arrival.payload

end arrival

/-- Whether the handler gets to `RoutingService`: the caches have nothing, and no identical request has
brought an answer in the meantime. -/
def goesUpstream (visit : Visit) : Bool :=
  match (CacheService.lookup visit.env (GatewayService.applyAdapterRoute visit.env visit.request)).outcome with
  | .ok (none, status) =>
    visit.request.stream || status = .bypassed || visit.env.lockAcquired || visit.env.coalesced.isNone
  | _ => false

section arrival

variable (deployment : Deployment) (arrival : Arrival) (state : RequestState)

/-- The upstream calls of the handler. -/
def upstreamCalls : ℕ :=
  let visit := visit deployment arrival state
  let routed := GatewayService.applyAdapterRoute visit.env visit.request
  if goesUpstream visit then
    match resolveAttempts deployment.registry deployment.routing routed with
    | .error _ => 0
    | .ok attempts =>
      if visit.request.stream then
        UpstreamEvent.calls (streamEach routed [] (attempts.map (streamLeg deployment arrival))).events
      else UpstreamEvent.calls (completeEach routed [] (attempts.map (completeLeg deployment arrival))).events
  else 0

/-- For each upstream call the tenant and the time of its request. -/
def sentBy : Answer → List (String × ℕ)
  | .ran state =>
    List.replicate (upstreamCalls deployment arrival state) (state.tenantId.getD "", arrival.request.nowMs)
  | .error _ => []

end arrival

/-- `sent` is history, newest first. -/
structure State where
  front : FrontDoor.State
  sent : List (String × ℕ) := []

/-- A chat completion whose body is valid, or anything else that gets to the front door. -/
inductive Label
  | chat (arrival : Arrival)
  | other (label : FrontDoor.Label)

def chatPath : String := "/v1/chat/completions"

def step (deployment : Deployment) (state : State) : Label → Option State
  | .chat arrival =>
    if arrival.request.path = chatPath ∧ arrival.request.method = "POST" then
      (FrontDoor.step deployment.front state.front (.request arrival.request)).map fun front =>
        { front
          sent := sentBy deployment arrival (handle deployment.front arrival.request state.front.stores).1 ++
            state.sent }
    else none
  | .other label => (FrontDoor.step deployment.front state.front label).map fun front => { state with front }

end ProviderTraffic

end LlmopsGateway
