import LlmopsGateway.Machine.Logged
import LlmopsGateway.Model.BaseProvider
import LlmopsGateway.Model.Routing

/-! # Retries and fallback, call by call

`BaseLLMProvider.complete` and `stream` share their retry loop, and `RoutingService` runs them over
the list of attempts. Here both loops leave a log: every upstream call, every chunk passed on and
every record in a breaker, in order. What an upstream call yields, the breaker's answer at entry and
the retry budget are given with each attempt; sleeping leaves no trace.
-/

namespace LlmopsGateway

open Machine

namespace ProviderError

def rateLimited (retryAfterSeconds : Option ℚ) : ProviderError where
  message := "Upstream provider rate limited the request"
  statusCode := some 429
  retryAfterSeconds := retryAfterSeconds

def timeout (message : String) : ProviderError where
  message := message

def connection (message : String) : ProviderError where
  message := message

def response (message : String) (statusCode : ℕ) : ProviderError where
  message := message
  retryable := 500 ≤ statusCode
  statusCode := some statusCode

def unavailable (providerName : String) : ProviderError where
  message := "Circuit breaker open for provider '" ++ providerName ++ "'"
  retryable := false

end ProviderError

/-- What the loops do. `called` names the attempt, the request sent and the upstream call, counted
from zero. -/
inductive UpstreamEvent (κ : Type)
  | called (attempt : κ) (request : ChatRequest) (call : ℕ)
  | chunk (text : String)
  | recordSuccess (providerName : String)
  | recordFailure (providerName : String)
  | selected (provider : Provider) (request : ChatRequest)

namespace UpstreamEvent

variable {κ : Type}

def text? : UpstreamEvent κ → Option String
  | chunk text => some text
  | _ => none

/-- The local `yielded_any` after these events. -/
def yieldedAny (events : List (UpstreamEvent κ)) : Bool :=
  events.any fun event => event.text?.isSome

end UpstreamEvent

namespace BaseLLMProvider

variable {κ α : Type}

/-- An upstream call with its record in the breaker; only a `ProviderError` counts as a failure. -/
def settled (name : String) (played : Logged Raised (UpstreamEvent κ) α) : Logged Raised (UpstreamEvent κ) α :=
  match played.outcome with
  | .ok value => ⟨played.events ++ [.recordSuccess name], .ok value⟩
  | .error (.provider error) => ⟨played.events ++ [.recordFailure name], .error (.provider error)⟩
  | .error other => ⟨played.events, .error other⟩

/-- The `while` loop of `complete` and `stream` from one upstream call on, with the retries that are
left. A completion yields nothing, so `yielded_any` only ever stops a stream. -/
def retryLoop (name : String) (call : ℕ → Logged Raised (UpstreamEvent κ) α) :
    (retries attempt : ℕ) → Logged Raised (UpstreamEvent κ) α
  | 0, attempt => settled name (call attempt)
  | retries + 1, attempt =>
    (settled name (call attempt)).recover fun
      | .provider error =>
        if UpstreamEvent.yieldedAny (call attempt).events || !error.retryable then
          Logged.raise (.provider error)
        else if backoffOverflows attempt error.retryAfterSeconds then Logged.raise .overflow
        else retryLoop name call retries (attempt + 1)
      | other => Logged.raise other

/-- `complete` and `stream`, given the breaker's answer to `allow_request`. -/
def guarded (name : String) (maxRetries : ℤ) (allowed : Bool)
    (call : ℕ → Logged Raised (UpstreamEvent κ) α) : Logged Raised (UpstreamEvent κ) α :=
  if allowed then retryLoop name call maxRetries.toNat 0
  else Logged.raise (.provider (.unavailable name))

/-- One call of `_complete_impl`. -/
def completion (attempt : κ) (request : ChatRequest) (call : ℕ) (outcome : Except Raised α) :
    Logged Raised (UpstreamEvent κ) α :=
  ⟨[.called attempt request call], outcome⟩

/-- What one call of `_stream_impl` delivers: chunks, and then its end or a `ProviderError`. -/
structure Played where
  chunks : List String
  ending : Except ProviderError Unit

/-- One call of `_stream_impl`, every chunk passed on. -/
def streaming (attempt : κ) (request : ChatRequest) (call : ℕ) (played : Played) :
    Logged Raised (UpstreamEvent κ) Unit :=
  ⟨.called attempt request call :: played.chunks.map .chunk, played.ending.mapError .provider⟩

end BaseLLMProvider

open BaseLLMProvider

/-- An entry of the attempt list, with what its provider meets: the retry budget, the breaker's answer
at entry and what each upstream call yields. -/
structure Leg (ω : Type) where
  provider : Provider
  model : String
  maxRetries : ℕ
  allowed : Bool
  yields : ℕ → ω

/-- The outcomes of a completion, and those of a stream. -/
abbrev CompleteLeg := Leg (Except ProviderError ChatResponse)
abbrev StreamLeg := Leg Played

namespace Leg

variable {ω : Type}

/-- The request sent for this entry. -/
def sent (leg : Leg ω) (request : ChatRequest) : ChatRequest :=
  RoutingService.attemptRequest request leg.model

/-- The upstream calls of `provider.complete(attempt_request)` and of `provider.stream`. -/
def completion (leg : CompleteLeg) (request : ChatRequest) (call : ℕ) :
    Logged Raised (UpstreamEvent CompleteLeg) ChatResponse :=
  BaseLLMProvider.completion leg (leg.sent request) call ((leg.yields call).mapError .provider)

def streaming (leg : StreamLeg) (request : ChatRequest) (call : ℕ) :
    Logged Raised (UpstreamEvent StreamLeg) Unit :=
  BaseLLMProvider.streaming leg (leg.sent request) call (leg.yields call)

def complete (leg : CompleteLeg) (request : ChatRequest) :
    Logged Raised (UpstreamEvent CompleteLeg) ChatResponse :=
  guarded leg.provider.name leg.maxRetries leg.allowed (leg.completion request)

def stream (leg : StreamLeg) (request : ChatRequest) : Logged Raised (UpstreamEvent StreamLeg) Unit :=
  guarded leg.provider.name leg.maxRetries leg.allowed (leg.streaming request)

end Leg

namespace RoutingService

/-- The loop of `complete` over its attempts, with the errors so far. -/
def completeEach (request : ChatRequest) : List (String × ProviderError) → List CompleteLeg →
    Logged Raised (UpstreamEvent CompleteLeg) ChatResponse
  | errors, [] => Logged.raise (.exhausted errors)
  | errors, leg :: rest =>
    (leg.complete request).recover fun
      | .provider error => completeEach request (errors ++ [(leg.provider.name, error)]) rest
      | other => Logged.raise other

/-- `on_provider_selected` is called when the first chunk comes, before it is passed on. -/
def announce {κ : Type} (provider : Provider) (request : ChatRequest) :
    List (UpstreamEvent κ) → List (UpstreamEvent κ)
  | [] => []
  | .chunk text :: rest => .selected provider request :: .chunk text :: rest
  | event :: rest => event :: announce provider request rest

/-- The loop of `stream` over its attempts, read to the end. -/
def streamEach (request : ChatRequest) : List (String × ProviderError) → List StreamLeg →
    Logged Raised (UpstreamEvent StreamLeg) Unit
  | errors, [] => Logged.raise (.exhausted errors)
  | errors, leg :: rest =>
    let played := leg.stream request
    let delivered : Logged Raised _ Unit :=
      { played with events := announce leg.provider (leg.sent request) played.events }
    delivered.recover fun
      | .provider error =>
        if UpstreamEvent.yieldedAny played.events then Logged.raise (.provider error)
        else streamEach request (errors ++ [(leg.provider.name, error)]) rest
      | other => Logged.raise other

end RoutingService

end LlmopsGateway
