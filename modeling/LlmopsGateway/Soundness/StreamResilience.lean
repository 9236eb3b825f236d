import LlmopsGateway.Machine.Observed
import LlmopsGateway.Model.TracePersistence
import LlmopsGateway.Model.StreamFaults
import LlmopsGateway.Soundness.FaultTolerance

/-! # What faults a stream survives

Like a completion, a stream gets an answer from every store call. Its text comes from the upstream or from a
cache entry before any of the gateway's own accounting, so no fault changes a chunk. Only the cost is left to
fail: an overflow ends the stream before its metadata, and a counter that should count down ends it right
after, when the client has everything and nothing is recorded.
-/

namespace LlmopsGateway.Faults

open Machine PyText RoutingService

variable {libraries : Libraries} {ν : Type} {services : Services ν} {request : ChatRequest}

section observer

/-- An event as it is without costs; what the consumer, the caches and the audit log do not see is left out. -/
def observed : Event → Option Event
  | .yielded (.chunk text) => some (.yielded (.chunk text))
  | .yielded (.metadata response) => some (.yielded (.metadata { response with costUsd := 0 }))
  | .backfilled request response => some (.backfilled request { response with costUsd := 0 })
  | .finalized entry => some (.finalized { entry with response := { entry.response with costUsd := 0 } })
  | _ => none

/-- The chunks of a log. -/
def chunksOf (events : List Event) : List String :=
  events.filterMap fun
    | .yielded (.chunk text) => some text
    | _ => none

theorem chunksOf_observed (events : List Event) : chunksOf (events.filterMap observed) = chunksOf events := by
  rw [chunksOf, List.filterMap_filterMap]
  refine List.filterMap_congr fun event _ => ?_
  rcases event with _ | _ | _ | _ | _ | _ | item | _
  all_goals first | rfl | cases item <;> rfl

end observer

abbrev Same {α : Type} (handled : Streaming α) (ideal : Handler α) : Prop :=
  Logged.Matches observed observed Failure.upstream handled ideal

abbrev CutBy {α : Type} (missed : List Event) (failure : Failure) (handled : Streaming α) (ideal : Handler α) :
    Prop := Logged.Cut observed observed missed failure handled ideal

/-- A stream that cannot be charged: an overflow keeps back everything after the last chunk, a counter that
should count down only the record. -/
inductive Unaccounted (request : ChatRequest) (handled : Streaming Unit) (ideal : Handler Unit) : Prop
  | overflow (entry : AuditEntry) (cut : CutBy [.backfilled request entry.response,
      .yielded (.metadata entry.response), .finalized entry] .overflow handled ideal)
  | negative (entry : AuditEntry) (cut : CutBy [.finalized entry] .negativeIncrement handled ideal)

section parts

variable (libraries services request)

theorem same_routeStream (original : ChatRequest) : Same (routeStream services request)
    (GatewayService.routeStream (environment libraries services original) request) := by
  refine ⟨?_, rfl⟩
  unfold routeStream GatewayService.routeStream
  dsimp only [environment]
  rw [List.filterMap_append]
  cases (RoutingService.stream services.base.registry services.base.settings services.base.stream
    request).served with
  | none => simp
  | some served => simp [observed]

theorem same_countTokens (original : ChatRequest) (chunks : List String)
    (selection : Option (Provider × ChatRequest)) :
    Same (countTokens services chunks selection)
      (GatewayService.attributed (environment libraries services original) chunks selection) := by
  cases selection with
  | none => exact ⟨rfl, rfl⟩
  | some selected =>
    obtain ⟨provider, sent⟩ := selected
    change Same _ (GatewayService.attributed services.base chunks (some (provider, sent)))
    unfold countTokens GatewayService.attributed
    dsimp only
    split <;> exact ⟨rfl, rfl⟩

theorem same_streamHit {status : CacheStatus} (hit : status = .exactHit ∨ status = .semanticHit)
    (original : ChatRequest) (cached : ChatResponse) : Same (streamHit services request cached status)
      (GatewayService.streamHit (environment libraries services original) request cached status) := by
  rcases hit with rfl | rfl <;> exact ⟨rfl, rfl⟩

end parts

section finalize

variable {response : ChatResponse} {costUsd : PyFloat}

theorem finalize_of_notNegative (notNegative : costUsd.isNegative = false) :
    finalize services request response costUsd =
      ⟨[.finalized ⟨.chatCompletionsStream, services.base.tenantId, services.base.apiKeyId, request, response⟩],
        .ok ()⟩ := by
  rw [finalize, recordRequestMetrics, notNegative]
  rfl

theorem finalize_of_negative (negative : costUsd.isNegative = true) :
    finalize services request response costUsd = ⟨[], .error .negativeIncrement⟩ := by
  rw [finalize, recordRequestMetrics, negative]
  rfl

end finalize

/-- What a stream is charged for: its usage under the provider that the callback named. -/
def charged (services : Services ν) (request : ChatRequest) (chunks : List String) (usage : TokenUsage)
    (provider : String) : ChatResponse :=
  GatewayService.assembled services.base request .miss chunks provider usage 0

section finish

variable {original : ChatRequest} {chunks : List String} {selection : Option (Provider × ChatRequest)}

/-- The end of a stream that can be charged. -/
theorem same_finishStream (expected : Expected services) (pricing : Pricing)
    (chargeable : ∀ usage provider,
      (GatewayService.attributed (environment libraries services original) chunks selection).outcome =
        .ok (usage, provider) → Chargeable libraries services
          (charged services request chunks usage provider)) :
    Same (finishStream libraries services request .miss chunks selection)
      (GatewayService.finishStream pricing (environment libraries services original) request .miss chunks
        selection) := by
  refine (same_countTokens libraries services original chunks selection).bind fun ⟨usage,
    provider⟩ counted => ?_
  have affordable := chargeable usage provider counted
  dsimp only
  rw [calculateCostUsd_eq expected]
  cases seen : pricesSeen libraries services ⟨provider, request.model⟩ with
  | none =>
    dsimp only [silently]
    rw [Logged.bind_ok]
    simp only [finalize_of_notNegative zero_notNegative]
    exact ⟨rfl, rfl⟩
  | some prices =>
    obtain ⟨cost, computed, notNegative⟩ := affordable prices seen
    replace computed : costOf libraries.arithmetic prices usage = some cost := computed
    dsimp only
    rw [computed]
    dsimp only [silently]
    rw [Logged.bind_ok]
    simp only [finalize_of_notNegative notNegative]
    exact ⟨rfl, rfl⟩

/-- The end of one that cannot. -/
theorem unaccounted_finishStream (expected : Expected services) (pricing : Pricing) {usage : TokenUsage}
    {provider : String}
    (counted : (GatewayService.attributed (environment libraries services original) chunks selection).outcome =
      .ok (usage, provider))
    (unchargeable : ¬ Chargeable libraries services (charged services request chunks usage provider)) :
    Unaccounted request (finishStream libraries services request .miss chunks selection)
      (GatewayService.finishStream pricing (environment libraries services original) request .miss chunks
        selection) := by
  have same := same_countTokens libraries services original chunks selection
  simp only [Chargeable, Option.mem_def, not_forall, not_exists, not_and, Bool.not_eq_false] at unchargeable
  obtain ⟨prices, seen, costs⟩ := unchargeable
  replace seen : pricesSeen libraries services ⟨provider, request.model⟩ = some prices := seen
  let entry : AuditEntry := ⟨.chatCompletionsStream, services.base.tenantId, services.base.apiKeyId, request,
    charged services request chunks usage provider⟩
  cases computed : costOf libraries.arithmetic prices usage with
  | none =>
    refine .overflow entry (same.bind_cut counted ?_)
    dsimp only
    rw [calculateCostUsd_eq expected, seen]
    dsimp only
    rw [computed]
    exact ⟨rfl, rfl, ⟨_, rfl⟩⟩
  | some cost =>
    refine .negative entry (same.bind_cut counted ?_)
    dsimp only
    rw [calculateCostUsd_eq expected, seen]
    dsimp only
    rw [computed]
    dsimp only [silently]
    rw [Logged.bind_ok]
    simp only [finalize_of_negative (costs cost computed)]
    exact ⟨rfl, rfl, ⟨_, rfl⟩⟩

end finish

/-- Neither cache answers the routed request, and it is not bypassed. -/
def Streamed (libraries : Libraries) (services : Services ν) (request : ChatRequest) : Prop :=
  (routed libraries services request).cacheBypass = false ∧
    exactHit libraries services (routed libraries services request) 0 = none ∧
      semanticHit libraries services (routed libraries services request) = none

/-- The price seen for what the upstream has streamed can be charged. -/
def StreamChargeable (libraries : Libraries) (services : Services ν) (request : ChatRequest) : Prop :=
  Streamed libraries services request → ∀ chunks selection usage provider,
    (GatewayService.routeStream (environment libraries services request)
        (routed libraries services request)).outcome = .ok (chunks, selection) →
      (GatewayService.attributed (environment libraries services request) chunks selection).outcome =
        .ok (usage, provider) →
      Chargeable libraries services (charged services (routed libraries services request) chunks usage provider)

/-- A stream that can be charged is the one that the answers of the services call for, up to its cost. -/
theorem handleChatCompletionStream_same (expected : Expected services) (pricing : Pricing)
    (chargeable : StreamChargeable libraries services request) :
    Same (handleChatCompletionStream libraries services request)
      (GatewayService.handleChatCompletionStream pricing (environment libraries services request) request) := by
  have route : GatewayService.applyAdapterRoute (environment libraries services request) request =
      routed libraries services request := rfl
  rw [handleChatCompletionStream, applyAdapterRoute_eq]
  dsimp only [silently]
  rw [Logged.bind_ok, lookup_eq expected request]
  have streamed := same_routeStream libraries services (routed libraries services request) request
  rcases CacheService.lookup_cases (environment libraries services request)
    (routed libraries services request) with
    ⟨bypass, bypassed⟩ | ⟨notBypassed, ⟨hit, found, exact⟩ | ⟨hit, found, semantic⟩ | ⟨unhit, unhit', missed⟩⟩
  · rw [bypassed, GatewayService.handleChatCompletionStream_of_unhit (route ▸ bypassed), route]
    exact streamed.bind fun _ _ => Logged.Matches.pure ()
  · rw [exact, GatewayService.handleChatCompletionStream_of_hit (route ▸ exact), route]
    exact same_streamHit libraries services _ (.inl rfl) request hit
  · rw [semantic, GatewayService.handleChatCompletionStream_of_hit (route ▸ semantic), route]
    -- only the write back to the exact cache is logged besides
    obtain ⟨seen, ended⟩ :=
      same_streamHit libraries services (routed libraries services request) (.inr rfl) request hit
    exact ⟨seen, ended⟩
  · rw [missed, GatewayService.handleChatCompletionStream_of_unhit (route ▸ missed), route]
    refine streamed.bind fun ⟨chunks, selection⟩ ended => ?_
    exact same_finishStream expected pricing fun usage provider counted =>
      chargeable ⟨notBypassed, unhit, unhit'⟩ chunks selection usage provider ended counted

theorem handleChatCompletionStream_unaccounted (expected : Expected services) (pricing : Pricing)
    (unchargeable : ¬ StreamChargeable libraries services request) :
    Unaccounted (routed libraries services request) (handleChatCompletionStream libraries services request)
      (GatewayService.handleChatCompletionStream pricing (environment libraries services request) request) := by
  simp only [StreamChargeable, not_forall] at unchargeable
  obtain ⟨⟨notBypassed, unhit, unhit'⟩, chunks, selection, usage, provider, ended, counted, unchargeable⟩ :=
    unchargeable
  have route : GatewayService.applyAdapterRoute (environment libraries services request) request =
      routed libraries services request := rfl
  have missed :
      CacheService.lookup (environment libraries services request) (routed libraries services request) =
      ⟨[], .ok (none, .miss)⟩ := by
    unfold CacheService.lookup environment
    rw [notBypassed]
    dsimp only
    rw [unhit, unhit']
    rfl
  have streamed := same_routeStream libraries services (routed libraries services request) request
  rw [handleChatCompletionStream, applyAdapterRoute_eq]
  dsimp only [silently]
  rw [Logged.bind_ok, lookup_eq expected request, missed,
    GatewayService.handleChatCompletionStream_of_unhit (route ▸ missed), route]
  cases unaccounted_finishStream expected pricing counted unchargeable with
  | overflow entry cut => exact .overflow entry (streamed.bind_cut ended cut)
  | negative entry cut => exact .negative entry (streamed.bind_cut ended cut)

/-- What the consumer of a stream is owed under any faults of the stores. -/
structure Sustained (libraries : Libraries) (services : Services ν) (request : ChatRequest)
    (handled : Streaming Unit) (ideal : Handler Unit) : Prop where
  chunks : chunksOf handled.events = chunksOf ideal.events
  kept : StreamChargeable libraries services request → Same handled ideal
  cut : ¬ StreamChargeable libraries services request →
    Unaccounted (routed libraries services request) handled ideal

theorem chunksOf_eq_of_observed {events others late : List Event}
    (observed : events.filterMap observed ++ late = others.filterMap observed) (quiet : chunksOf late = []) :
    chunksOf events = chunksOf others := by
  rw [← chunksOf_observed events, ← chunksOf_observed others, ← observed]
  exact (List.append_nil _).symm.trans (by rw [← quiet]; exact List.filterMap_append.symm)

/-- No fault of a store changes a chunk of a stream, and nothing but its cost keeps the rest back. -/
theorem handleChatCompletionStream_sustained (expected : Expected services) (pricing : Pricing) :
    Sustained libraries services request (handleChatCompletionStream libraries services request)
      (GatewayService.handleChatCompletionStream pricing (environment libraries services request) request) where
  chunks := by
    by_cases chargeable : StreamChargeable libraries services request
    · have same := handleChatCompletionStream_same expected pricing chargeable
      exact chunksOf_eq_of_observed ((List.append_nil _).trans same.observed) rfl
    · cases handleChatCompletionStream_unaccounted expected pricing chargeable with
      | overflow entry cut => exact chunksOf_eq_of_observed cut.observed rfl
      | negative entry cut => exact chunksOf_eq_of_observed cut.observed rfl
  kept := handleChatCompletionStream_same expected pricing
  cut := handleChatCompletionStream_unaccounted expected pricing

/-- A negative price in Redis: the client has its text when the handler raises. -/
theorem sustained_negative : Sustained sampleLibraries negativeServices gptRequest
    (handleChatCompletionStream sampleLibraries negativeServices gptRequest)
    (GatewayService.handleChatCompletionStream (fun _ => none)
      (environment sampleLibraries negativeServices gptRequest) gptRequest) ∧
      chunksOf (handleChatCompletionStream sampleLibraries negativeServices gptRequest).events = ["Hello"] ∧
      (handleChatCompletionStream sampleLibraries negativeServices gptRequest).outcome =
        .error .negativeIncrement := by
  have expected : Expected negativeServices := { expected_outage with pricingGet := nofun }
  have raised : (handleChatCompletionStream sampleLibraries negativeServices gptRequest).outcome =
      .error .negativeIncrement := by decide +kernel
  refine ⟨handleChatCompletionStream_sustained expected _, ?_, raised⟩
  decide +kernel

end LlmopsGateway.Faults
