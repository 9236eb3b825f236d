import LlmopsGateway.Soundness.AttemptResolution
import LlmopsGateway.Soundness.HandlerRuns

/-! # Who served a completion, and what is billed for it

After the same failed attempts both handlers are served by the same provider `p` with the same
model `m`. The non-streaming handler always prices, returns and writes back `p` and `m`. The
streaming one takes `p` from the selection its callback captured but the model from the request
it was given, so the two agree exactly when `p` was sent the requested model itself, and the
tokens of the stream can be counted.
-/

namespace LlmopsGateway

open Machine RoutingService

/-- The identifiers a log looks a price up under. -/
def priceLookups (events : List Event) : List ModelIdentifier :=
  events.filterMap fun
    | .priced model _ => some model
    | _ => none

/-- The responses a log writes back to the caches. -/
def backfills (events : List Event) : List ChatResponse :=
  events.filterMap fun
    | .backfilled _ response => some response
    | _ => none

/-- The metadata items of a streamed reply. -/
def metadataItems (events : List Event) : List ChatResponse :=
  events.filterMap fun
    | .yielded (.metadata response) => some response
    | _ => none

/-- One price lookup, one response written back and one delivered, all under the identifier. -/
structure AttributedTo (identifier : ModelIdentifier) (events : List Event)
    (delivered : List ChatResponse) : Prop where
  priced : priceLookups events = [identifier]
  backfilled : (backfills events).map ChatResponse.identifier = [identifier]
  delivered : delivered.map ChatResponse.identifier = [identifier]

/-- Neither a cache nor a request in flight answers. -/
structure Missed (env : Environment) (request : ChatRequest) : Prop where
  notBypassed : request.cacheBypass = false
  exact : env.exactGet request = none
  semantic : env.semanticGet request = none
  notJoined : env.lockAcquired = true ∨ env.coalesced = none

/-- The attempts before the first successful one fail, streaming or not; that one echoes its model
and streams at least one chunk. -/
structure FirstServed (env : Environment) (request : ChatRequest) (failed rest : List Attempt)
    (provider : Provider) (model : String) (chunks : List String) : Prop where
  resolved : resolveAttempts env.registry env.settings request = .ok (failed ++ (provider, model) :: rest)
  refused : AllRefused env.complete request failed
  silent : AllSilent env.stream request failed
  completed : ∃ response, env.complete provider (attemptRequest request model) = .ok response ∧
    response.identifier = ⟨provider.name, model⟩
  streamed : env.stream provider (attemptRequest request model) = ⟨chunks, none⟩
  nonempty : chunks ≠ []

theorem Missed.lookup_eq {env : Environment} {request : ChatRequest} (missed : Missed env request) :
    CacheService.lookup env request = ⟨[], .ok (none, .miss)⟩ := by
  unfold CacheService.lookup
  rw [missed.notBypassed, missed.exact, missed.semantic]
  rfl

namespace GatewayService

variable {pricing : Pricing} {env : Environment} {request : ChatRequest} {failed rest : List Attempt}
  {provider : Provider} {model : String} {chunks : List String}

/-- The non-streaming handler bills the attempt that served. -/
theorem handleChatCompletion_attributed (pricing : Pricing)
    (missed : Missed env (applyAdapterRoute env request))
    (served : FirstServed env (applyAdapterRoute env request) failed rest provider model chunks) :
    AttributedTo ⟨provider.name, model⟩ (handleChatCompletion pricing env request).events
      (handleChatCompletion pricing env request).outcome.toOption.toList := by
  obtain ⟨response, answered, echoed⟩ := served.completed
  have completed := complete_of_served served.resolved served.refused answered
  rw [handleChatCompletion_of_missed missed.lookup_eq]
  rcases completeMissed_cases pricing env (applyAdapterRoute env request) with joined | ⟨-, called⟩
  · obtain ⟨response, lost, joined, -⟩ := joined
    rcases missed.notJoined with won | alone
    · exact absurd (won.symm.trans lost) nofun
    · exact absurd (alone.symm.trans joined) nofun
  · rw [called, completeUpstream_of_ok _ _ completed, servedLog, echoed]
    refine ⟨?_, ?_, ?_⟩
    · cases env.lockAcquired <;> rfl
    · rw [← echoed]
      cases env.lockAcquired <;> rfl
    · rw [← echoed]
      rfl

/-- The streaming handler bills the provider that served under the model it was asked for, provided it
can count the tokens. -/
theorem handleChatCompletionStream_attributed_iff (pricing : Pricing)
    (missed : Missed env (applyAdapterRoute env request))
    (served : FirstServed env (applyAdapterRoute env request) failed rest provider model chunks) :
    AttributedTo ⟨provider.name, model⟩ (handleChatCompletionStream pricing env request).events
        (metadataItems (handleChatCompletionStream pricing env request).events) ↔
      model = (applyAdapterRoute env request).model ∧
        env.countable provider (attemptRequest (applyAdapterRoute env request) model)
          (String.join chunks) = true := by
  have streams : Streams env.registry env.settings env.stream (applyAdapterRoute env request)
      provider model chunks := ⟨failed, rest, served.resolved, served.silent, served.streamed⟩
  -- the chunks passed on are no price lookups, backfills or metadata
  rcases countable : env.countable provider (attemptRequest (applyAdapterRoute env request) model)
    (String.join chunks)
  · have logged := handleChatCompletionStream_of_uncountable pricing missed.lookup_eq streams
      served.nonempty countable
    refine iff_of_false (fun attributed => ?_) (fun ⟨_, counted⟩ => Bool.false_ne_true counted)
    have priced := attributed.priced
    simp [logged, priceLookups, List.filterMap_append] at priced
  · have logged := handleChatCompletionStream_of_missed pricing missed.lookup_eq streams
      (attributed_of_selected served.nonempty countable)
    have priced : priceLookups (handleChatCompletionStream pricing env request).events =
        [⟨provider.name, (applyAdapterRoute env request).model⟩] := by
      simp [logged, priceLookups, List.filterMap_append]
    have backfilled : (backfills (handleChatCompletionStream pricing env request).events).map
        ChatResponse.identifier = [⟨provider.name, (applyAdapterRoute env request).model⟩] := by
      simp [logged, backfills, List.filterMap_append, streamedResponse, assembled, ChatResponse.identifier]
    have delivered : (metadataItems (handleChatCompletionStream pricing env request).events).map
        ChatResponse.identifier = [⟨provider.name, (applyAdapterRoute env request).model⟩] := by
      simp [logged, metadataItems, List.filterMap_append, streamedResponse, assembled,
        ChatResponse.identifier]
    constructor
    · intro attributed
      have same := attributed.priced.symm.trans priced
      exact ⟨by simpa using same, rfl⟩
    · rintro ⟨rfl, -⟩
      exact ⟨priced, backfilled, delivered⟩

/-- Both handlers bill the attempt that served exactly when it was sent the requested model and its
tokens can be counted. -/
theorem attributed_iff (pricing : Pricing)
    (missed : Missed env (applyAdapterRoute env request))
    (served : FirstServed env (applyAdapterRoute env request) failed rest provider model chunks) :
    (AttributedTo ⟨provider.name, model⟩ (handleChatCompletion pricing env request).events
        (handleChatCompletion pricing env request).outcome.toOption.toList ∧
      AttributedTo ⟨provider.name, model⟩ (handleChatCompletionStream pricing env request).events
        (metadataItems (handleChatCompletionStream pricing env request).events)) ↔
      ServesOwnModel env.registry env.settings (applyAdapterRoute env request) provider ∧
        env.countable provider (attemptRequest (applyAdapterRoute env request) model)
          (String.join chunks) = true := by
  have member : (provider, model) ∈ failed ++ (provider, model) :: rest :=
    List.mem_append_right _ (List.mem_cons_self ..)
  rw [← model_eq_iff served.resolved member,
    ← handleChatCompletionStream_attributed_iff pricing missed served]
  exact and_iff_right (handleChatCompletion_attributed pricing missed served)

section outage

/-- Every provider answers in one word, unless it is `openai` and down. -/
def outageEnv (down : Bool) : Environment where
  traceId := "trace"
  tenantId := "tenant"
  registry := .ofKeys true true
  settings := {}
  complete := fun provider request =>
    if down && provider.name = "openai" then .error (.provider (.connection "refused"))
    else .ok
      { id := "answer"
        model := request.model
        provider := provider.name
        message := ⟨.assistant, "Hello"⟩
        usage := ⟨10, 20⟩
        costUsd := 0
        traceId := ""
        createdAt := 0
        latencyMs := 0 }
  stream := fun provider _ =>
    if down && provider.name = "openai" then ⟨[], some (.provider (.connection "refused"))⟩
    else ⟨["Hello"], none⟩
  countTokens := fun _ _ _ => ⟨10, 20⟩
  uuid := "uuid"
  now := 0
  latencyMs := 0

theorem missed_outage (down : Bool) : Missed (outageEnv down) gptRequest :=
  ⟨rfl, rfl, rfl, .inl rfl⟩

theorem firstServed_openai : FirstServed (outageEnv false) gptRequest []
    [(Adapter.anthropic.provider, "claude-3-5-sonnet-20241022")] Adapter.openai.provider "gpt-4o" ["Hello"] :=
  ⟨resolveAttempts_gptRequest, nofun, nofun, ⟨_, rfl, rfl⟩, rfl, by decide⟩

theorem firstServed_anthropic : FirstServed (outageEnv true) gptRequest
    [(Adapter.openai.provider, "gpt-4o")] [] Adapter.anthropic.provider "claude-3-5-sonnet-20241022"
    ["Hello"] where
  resolved := resolveAttempts_gptRequest
  refused attempt member := by
    obtain rfl := List.mem_singleton.mp member
    exact ⟨_, rfl⟩
  silent attempt member := by
    obtain rfl := List.mem_singleton.mp member
    exact ⟨_, rfl⟩
  completed := ⟨_, rfl, rfl⟩
  streamed := rfl
  nonempty := by decide

/-- With both providers up, `openai` serves `gpt-4o` and both handlers bill it so. -/
theorem attributed_openai :
    (AttributedTo ⟨Adapter.openai.provider.name, "gpt-4o"⟩
        (handleChatCompletion (fun _ => none) (outageEnv false) gptRequest).events
        (handleChatCompletion (fun _ => none) (outageEnv false) gptRequest).outcome.toOption.toList ∧
      AttributedTo ⟨Adapter.openai.provider.name, "gpt-4o"⟩
        (handleChatCompletionStream (fun _ => none) (outageEnv false) gptRequest).events
        (metadataItems (handleChatCompletionStream (fun _ => none) (outageEnv false) gptRequest).events)) ↔
      ServesOwnModel (outageEnv false).registry (outageEnv false).settings
          (applyAdapterRoute (outageEnv false) gptRequest) Adapter.openai.provider ∧
        (outageEnv false).countable Adapter.openai.provider
          (attemptRequest (applyAdapterRoute (outageEnv false) gptRequest) "gpt-4o")
          (String.join ["Hello"]) = true :=
  attributed_iff (fun _ => none) (missed_outage false) firstServed_openai

/-- With `openai` down, `anthropic` streams its equivalent and is billed for `gpt-4o`. -/
theorem attributed_fallback :
    Missed (outageEnv true) (applyAdapterRoute (outageEnv true) gptRequest) ∧
    FirstServed (outageEnv true) (applyAdapterRoute (outageEnv true) gptRequest)
      [(Adapter.openai.provider, "gpt-4o")] [] Adapter.anthropic.provider "claude-3-5-sonnet-20241022"
      ["Hello"] ∧
    ¬ (AttributedTo ⟨Adapter.anthropic.provider.name, "claude-3-5-sonnet-20241022"⟩
        (handleChatCompletion (fun _ => none) (outageEnv true) gptRequest).events
        (handleChatCompletion (fun _ => none) (outageEnv true) gptRequest).outcome.toOption.toList ∧
      AttributedTo ⟨Adapter.anthropic.provider.name, "claude-3-5-sonnet-20241022"⟩
        (handleChatCompletionStream (fun _ => none) (outageEnv true) gptRequest).events
        (metadataItems (handleChatCompletionStream (fun _ => none) (outageEnv true) gptRequest).events)) := by
  refine ⟨missed_outage true, firstServed_anthropic, fun ⟨_, streamed⟩ => ?_⟩
  obtain ⟨model, -⟩ :=
    (handleChatCompletionStream_attributed_iff _ (missed_outage true) firstServed_anthropic).mp streamed
  exact absurd model (by decide)

end outage

end GatewayService

end LlmopsGateway
