import LlmopsGateway.Model.Faults

/-! # Streaming a chat completion while the stores fail

The streaming handler over the calls of the non-streaming one, with their exceptions. Its log has what the
consumer receives, what is written back and what is recorded.
-/

namespace LlmopsGateway.Faults

open Machine PyText

/-- A streaming computation: what it yields, writes back and records, and what it raises. -/
abbrev Streaming := Logged Failure Event

/-- A part that yields nothing. -/
def silently {α : Type} (body : Guarded α) : Streaming α := ⟨[], body.outcome⟩

variable (libraries : Libraries) {ν : Type} (services : Services ν)

/-- `RoutingService.stream` read to its end, every chunk passed on. -/
def routeStream (request : ChatRequest) : Streaming (List String × Option (Provider × ChatRequest)) :=
  let run := RoutingService.stream services.base.registry services.base.settings services.base.stream request
  { events := run.chunks.map fun text => .yielded (.chunk text)
    outcome := (run.outcome.map fun _ => (run.chunks, run.selection)).mapError .upstream }

/-- `count_tokens` of the selected provider, which may raise. -/
def countTokens (chunks : List String) :
    Option (Provider × ChatRequest) → Streaming (TokenUsage × String)
  | some (provider, sent) =>
    if services.base.countable provider sent (String.join chunks) then
      return (services.base.countTokens provider sent (String.join chunks), provider.name)
    else Logged.raise (.upstream .library)
  | none => return (⟨0, 0⟩, "unknown")

/-- `_finalize`: the metrics, then the trace. -/
def finalize (request : ChatRequest) (response : ChatResponse) (costUsd : PyFloat) : Streaming Unit := do
  silently (recordRequestMetrics costUsd)
  Logged.log (.finalized
    ⟨.chatCompletionsStream, services.base.tenantId, services.base.apiKeyId, request, response⟩)

/-- After the last chunk of a stream that is not bypassed. -/
def finishStream (request : ChatRequest) (status : CacheStatus) (chunks : List String)
    (selection : Option (Provider × ChatRequest)) : Streaming Unit := do
  let (usage, provider) ← countTokens services chunks selection
  let costUsd ← silently (calculateCostUsd libraries services ⟨provider, request.model⟩ usage)
  let response :=
    GatewayService.assembled services.base request status chunks provider usage
      (libraries.arithmetic.value costUsd)
  Logged.log (.backfilled request response)
  Logged.log (.yielded (.metadata response))
  finalize services request response costUsd

/-- A hit is one chunk, then its metadata. -/
def streamHit (request : ChatRequest) (cached : ChatResponse) (status : CacheStatus) : Streaming Unit := do
  Logged.log (.yielded (.chunk cached.message.content))
  let result := GatewayService.stamp services.base request cached status
  Logged.log (.yielded (.metadata result))
  finalize services request result zero

/-- `handle_chat_completion_stream`. -/
def handleChatCompletionStream (request : ChatRequest) : Streaming Unit := do
  let request ← silently (applyAdapterRoute libraries services request)
  let (cached, status) ← silently (lookup libraries services request)
  match cached with
  | some response => streamHit services request response status
  | none =>
    let (chunks, selection) ← routeStream services request
    if status = .bypassed then return ()
    else finishStream libraries services request status chunks selection

end LlmopsGateway.Faults
