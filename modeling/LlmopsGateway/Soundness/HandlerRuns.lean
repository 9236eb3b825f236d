import LlmopsGateway.Model.Gateway
import LlmopsGateway.Soundness.ServedAttempt

/-! # What the handlers log

The event log and the outcome of the two handlers on each of their exits. Later results about the
handlers read these runs and do not unfold the handlers again.
-/

namespace LlmopsGateway

open Machine

namespace CacheService

/-- A lookup bypasses the caches, hits one of them, or misses both. -/
theorem lookup_cases (env : Environment) (request : ChatRequest) :
    request.cacheBypass = true ∧ lookup env request = ⟨[], .ok (none, .bypassed)⟩ ∨
    request.cacheBypass = false ∧
      ((∃ hit, env.exactGet request = some hit ∧
          lookup env request = ⟨[], .ok (some hit, .exactHit)⟩) ∨
        (∃ hit, env.semanticGet request = some hit ∧
          lookup env request = ⟨[.promoted request hit], .ok (some hit, .semanticHit)⟩) ∨
        env.exactGet request = none ∧ env.semanticGet request = none ∧
          lookup env request = ⟨[], .ok (none, .miss)⟩) := by
  unfold lookup
  rcases bypass : request.cacheBypass
  · right
    rcases exact : env.exactGet request with _ | hit
    · rcases semantic : env.semanticGet request with _ | hit
      · exact ⟨rfl, .inr (.inr ⟨rfl, rfl, rfl⟩)⟩
      · exact ⟨rfl, .inr (.inl ⟨hit, rfl, rfl⟩)⟩
    · exact ⟨rfl, .inl ⟨hit, rfl, rfl⟩⟩
  · exact .inl ⟨rfl, rfl⟩

/-- The status tells whether the caches were bypassed. -/
theorem cacheBypass_iff {env : Environment} {request : ChatRequest} {events : List Event}
    {hit : Option ChatResponse} {status : CacheStatus}
    (looked : lookup env request = ⟨events, .ok (hit, status)⟩) :
    request.cacheBypass = true ↔ status = .bypassed := by
  rcases lookup_cases env request with
    ⟨bypass, found⟩ | ⟨notBypassed, ⟨hit, -, found⟩ | ⟨hit, -, found⟩ | ⟨-, -, found⟩⟩
  · cases found.symm.trans looked
    exact iff_of_true bypass rfl
  all_goals
    cases found.symm.trans looked
    exact iff_of_false (by simp [notBypassed]) nofun

theorem cacheBypass_of_hit {env : Environment} {request : ChatRequest} {events : List Event}
    {hit : ChatResponse} {status : CacheStatus}
    (looked : lookup env request = ⟨events, .ok (some hit, status)⟩) : request.cacheBypass = false := by
  rcases lookup_cases env request with ⟨-, found⟩ | ⟨notBypassed, -⟩
  · cases found.symm.trans looked
  · exact notBypassed

end CacheService

namespace GatewayService

variable {pricing : Pricing} {env : Environment} {request : ChatRequest}

/-- The response with the price of its own usage. -/
def costed (pricing : Pricing) (response : ChatResponse) : ChatResponse :=
  { response with costUsd := calculateCostUsd pricing response.identifier response.usage }

/-- The log from the upstream call on, when it returns. -/
def servedLog (pricing : Pricing) (env : Environment) (request : ChatRequest) (status : CacheStatus)
    (wonLock : Bool) (response : ChatResponse) : List Event :=
  .completed response.identifier response.usage ::
    (((if wonLock then [.lockReleased] else []) ++ .priced response.identifier response.usage ::
      (if status = .bypassed then [] else [.backfilled request (costed pricing response)])) ++
        [.finalized ⟨.chatCompletions, env.tenantId, env.apiKeyId, request,
          stamp env request (costed pricing response) status⟩])

theorem completeUpstream_of_ok {response : ChatResponse} (status : CacheStatus) (wonLock : Bool)
    (served : RoutingService.complete env.registry env.settings env.complete request = .ok response) :
    completeUpstream pricing env request status wonLock =
      ⟨servedLog pricing env request status wonLock response,
        .ok (stamp env request (costed pricing response) status)⟩ := by
  unfold completeUpstream routeCompletion
  rw [served]
  cases status <;> cases wonLock <;> rfl

theorem completeUpstream_of_error {error : Raised} (status : CacheStatus) (wonLock : Bool)
    (failed : RoutingService.complete env.registry env.settings env.complete request = .error error) :
    completeUpstream pricing env request status wonLock =
      ⟨if wonLock then [.lockReleased] else [], .error error⟩ := by
  unfold completeUpstream routeCompletion
  rw [failed]
  rfl

/-- An upstream stream, as the handler passes it on. -/
theorem routeStream_of_served {provider : Provider} {model : String} {chunks : List String}
    (streams : RoutingService.Streams env.registry env.settings env.stream request provider model chunks) :
    routeStream env request =
      ⟨chunks.map (fun text => .yielded (.chunk text)) ++
        [.completed ⟨provider.name, model⟩
          (env.countTokens provider (RoutingService.attemptRequest request model) (String.join chunks))],
        .ok (chunks, RoutingService.selected provider
          (RoutingService.attemptRequest request model) chunks)⟩ := by
  unfold routeStream
  rw [streams.stream_eq]
  simp [RoutingService.servedRun, Except.map]

/-- A stream that nothing serves ends in an exception, and nothing was completed. -/
theorem routeStream_of_unserved {error : Raised}
    (unserved : (RoutingService.stream env.registry env.settings env.stream request).served = none)
    (ended : (RoutingService.stream env.registry env.settings env.stream request).outcome = .error error) :
    ∃ chunks : List String, routeStream env request =
      ⟨chunks.map fun text => .yielded (.chunk text), .error error⟩ := by
  refine ⟨(RoutingService.stream env.registry env.settings env.stream request).chunks, ?_⟩
  unfold routeStream
  dsimp only
  rw [unserved, ended]
  simp [Except.map]

theorem attributed_of_selected {chunks : List String} {provider : Provider} {sent : ChatRequest}
    (nonempty : chunks ≠ []) (countable : env.countable provider sent (String.join chunks) = true) :
    attributed env chunks (RoutingService.selected provider sent chunks) =
      ⟨[], .ok (env.countTokens provider sent (String.join chunks), provider.name)⟩ := by
  rw [RoutingService.selected, if_neg nonempty, attributed, if_pos countable]
  rfl

theorem attributed_of_uncountable {chunks : List String} {provider : Provider} {sent : ChatRequest}
    (nonempty : chunks ≠ []) (uncountable : env.countable provider sent (String.join chunks) = false) :
    attributed env chunks (RoutingService.selected provider sent chunks) = ⟨[], .error .library⟩ := by
  rw [RoutingService.selected, if_neg nonempty, attributed, uncountable]
  rfl

/-- The response of a stream priced under the provider that the callback named. -/
def streamedResponse (pricing : Pricing) (env : Environment) (request : ChatRequest)
    (status : CacheStatus) (chunks : List String) (usage : TokenUsage) (provider : String) : ChatResponse :=
  assembled env request status chunks provider usage
    (calculateCostUsd pricing ⟨provider, request.model⟩ usage)

theorem finishStream_of_attributed {chunks : List String} {selection : Option (Provider × ChatRequest)}
    {usage : TokenUsage} {provider : String} (status : CacheStatus)
    (captured : attributed env chunks selection = ⟨[], .ok (usage, provider)⟩) :
    finishStream pricing env request status chunks selection =
      ⟨[.priced ⟨provider, request.model⟩ usage,
        .backfilled request (streamedResponse pricing env request status chunks usage provider),
        .yielded (.metadata (streamedResponse pricing env request status chunks usage provider)),
        .finalized ⟨.chatCompletionsStream, env.tenantId, env.apiKeyId, request,
          streamedResponse pricing env request status chunks usage provider⟩], .ok ()⟩ := by
  unfold finishStream
  rw [captured]
  rfl

section routing

variable (full : truthy request.adapterId = true ∧ truthy request.modelAlias = true)
  (free : ¬ (truthy request.adapterId = true ∧ truthy request.modelAlias = true))

include full in
theorem applyAdapterRoute_of_full : applyAdapterRoute env request = request :=
  if_pos ((Bool.and_eq_true _ _).mpr full)

include free in
theorem applyAdapterRoute_of_none
    (found : env.resolveWithCanary ⟨env.tenantId, request.model, routingKey env request,
      request.adapterStage⟩ = none) :
    applyAdapterRoute env request = request := by
  rw [applyAdapterRoute, if_neg (mt (Bool.and_eq_true _ _).mp free), found]

include free in
theorem applyAdapterRoute_of_some {row : AdapterRoute}
    (found : env.resolveWithCanary ⟨env.tenantId, request.model, routingKey env request,
      request.adapterStage⟩ = some row) :
    applyAdapterRoute env request =
      { request with
        modelAlias := some request.model
        model := row.baseModel
        adapterId := some row.adapterId
        adapterStage := some row.stage } := by
  rw [applyAdapterRoute, if_neg (mt (Bool.and_eq_true _ _).mp free), found]

end routing

/-- Routing to an adapter does not change whether a request bypasses the cache. -/
theorem cacheBypass_applyAdapterRoute (env : Environment) (request : ChatRequest) :
    (applyAdapterRoute env request).cacheBypass = request.cacheBypass := by
  unfold applyAdapterRoute
  split
  · rfl
  · split <;> rfl

theorem stream_applyAdapterRoute (env : Environment) (request : ChatRequest) :
    (applyAdapterRoute env request).stream = request.stream := by
  unfold applyAdapterRoute
  split
  · rfl
  · split <;> rfl

section exits

variable {events : List Event} {hit : ChatResponse} {status : CacheStatus}

theorem handleChatCompletion_of_hit
    (looked : CacheService.lookup env (applyAdapterRoute env request) =
      ⟨events, .ok (some hit, status)⟩) :
    handleChatCompletion pricing env request =
      ⟨events ++ [.finalized ⟨.chatCompletions, env.tenantId, env.apiKeyId, applyAdapterRoute env request,
        stamp env (applyAdapterRoute env request) hit status⟩],
        .ok (stamp env (applyAdapterRoute env request) hit status)⟩ := by
  unfold handleChatCompletion
  dsimp only
  rw [looked]
  rfl

theorem handleChatCompletion_of_bypassed
    (looked : CacheService.lookup env (applyAdapterRoute env request) = ⟨[], .ok (none, .bypassed)⟩) :
    handleChatCompletion pricing env request =
      completeUpstream pricing env (applyAdapterRoute env request) .bypassed false := by
  unfold handleChatCompletion
  dsimp only
  rw [looked]
  rfl

theorem handleChatCompletion_of_missed
    (looked : CacheService.lookup env (applyAdapterRoute env request) = ⟨[], .ok (none, .miss)⟩) :
    handleChatCompletion pricing env request =
      completeMissed pricing env (applyAdapterRoute env request) .miss := by
  unfold handleChatCompletion
  dsimp only
  rw [looked]
  rfl

/-- A missed request waits for the winner's answer, or calls upstream with or without the lock. -/
theorem completeMissed_cases (pricing : Pricing) (env : Environment) (request : ChatRequest) :
    (∃ response, env.lockAcquired = false ∧ env.coalesced = some response ∧
      completeMissed pricing env request .miss =
        ⟨[.lockTried false, .finalized ⟨.chatCompletions, env.tenantId, env.apiKeyId, request,
          stamp env request response .exactHit⟩], .ok (stamp env request response .exactHit)⟩) ∨
    (env.lockAcquired = true ∨ env.coalesced = none) ∧
      completeMissed pricing env request .miss =
        ⟨.lockTried env.lockAcquired :: (completeUpstream pricing env request .miss env.lockAcquired).events,
          (completeUpstream pricing env request .miss env.lockAcquired).outcome⟩ := by
  unfold completeMissed
  rcases won : env.lockAcquired
  · rcases joined : env.coalesced with _ | response
    · exact .inr ⟨.inr rfl, rfl⟩
    · exact .inl ⟨response, rfl, rfl, rfl⟩
  · exact .inr ⟨.inl rfl, rfl⟩

theorem handleChatCompletionStream_of_hit
    (looked : CacheService.lookup env (applyAdapterRoute env request) =
      ⟨events, .ok (some hit, status)⟩) :
    handleChatCompletionStream pricing env request =
      ⟨events ++ [.yielded (.chunk hit.message.content),
          .yielded (.metadata (stamp env (applyAdapterRoute env request) hit status))] ++
        [.finalized ⟨.chatCompletionsStream, env.tenantId, env.apiKeyId, applyAdapterRoute env request,
          stamp env (applyAdapterRoute env request) hit status⟩], .ok ()⟩ := by
  unfold handleChatCompletionStream
  dsimp only
  rw [looked, List.append_assoc]
  rfl

/-- A stream without a hit passes the upstream stream on, and stops there when it is bypassed. -/
theorem handleChatCompletionStream_of_unhit
    (looked : CacheService.lookup env (applyAdapterRoute env request) = ⟨[], .ok (none, status)⟩) :
    handleChatCompletionStream pricing env request =
      (routeStream env (applyAdapterRoute env request) >>= fun (chunks, selection) =>
        if status = .bypassed then pure ()
        else finishStream pricing env (applyAdapterRoute env request) status chunks selection) := by
  unfold handleChatCompletionStream
  dsimp only
  rw [looked]
  rfl

variable {provider : Provider} {model : String} {chunks : List String}

/-- A bypassed stream leaves only its chunks and the completion. -/
theorem handleChatCompletionStream_of_bypassed
    (looked : CacheService.lookup env (applyAdapterRoute env request) = ⟨[], .ok (none, .bypassed)⟩)
    (streams : RoutingService.Streams env.registry env.settings env.stream (applyAdapterRoute env request)
      provider model chunks) :
    handleChatCompletionStream pricing env request =
      ⟨(chunks.map fun text => .yielded (.chunk text)) ++
        [.completed ⟨provider.name, model⟩ (env.countTokens provider
          (RoutingService.attemptRequest (applyAdapterRoute env request) model) (String.join chunks))],
        .ok ()⟩ := by
  rw [handleChatCompletionStream_of_unhit looked, routeStream_of_served streams, Logged.bind_ok]
  dsimp only
  rw [if_pos rfl, Logged.pure_eq, List.append_nil]

variable (pricing) in
/-- A missed stream whose tokens cannot be counted ends before its price is looked up. -/
theorem handleChatCompletionStream_of_uncountable
    (looked : CacheService.lookup env (applyAdapterRoute env request) = ⟨[], .ok (none, .miss)⟩)
    (streams : RoutingService.Streams env.registry env.settings env.stream (applyAdapterRoute env request)
      provider model chunks)
    (nonempty : chunks ≠ [])
    (uncountable : env.countable provider
      (RoutingService.attemptRequest (applyAdapterRoute env request) model) (String.join chunks) = false) :
    handleChatCompletionStream pricing env request =
      ⟨(chunks.map fun text => .yielded (.chunk text)) ++
        [.completed ⟨provider.name, model⟩ (env.countTokens provider
          (RoutingService.attemptRequest (applyAdapterRoute env request) model) (String.join chunks))],
        .error .library⟩ := by
  rw [handleChatCompletionStream_of_unhit looked, routeStream_of_served streams, Logged.bind_ok]
  dsimp only
  rw [if_neg nofun, finishStream, attributed_of_uncountable nonempty uncountable, Logged.bind_error,
    List.append_nil]

variable (pricing) in
/-- A missed stream, priced with whatever the selection attributes it to. -/
theorem handleChatCompletionStream_of_missed {usage : TokenUsage} {name : String}
    (looked : CacheService.lookup env (applyAdapterRoute env request) = ⟨[], .ok (none, .miss)⟩)
    (streams : RoutingService.Streams env.registry env.settings env.stream (applyAdapterRoute env request)
      provider model chunks)
    (captured : attributed env chunks (RoutingService.selected provider
      (RoutingService.attemptRequest (applyAdapterRoute env request) model) chunks) =
        ⟨[], .ok (usage, name)⟩) :
    handleChatCompletionStream pricing env request =
      ⟨(chunks.map fun text => .yielded (.chunk text)) ++
        .completed ⟨provider.name, model⟩ (env.countTokens provider
            (RoutingService.attemptRequest (applyAdapterRoute env request) model) (String.join chunks)) ::
          ([.priced ⟨name, (applyAdapterRoute env request).model⟩ usage,
            .backfilled (applyAdapterRoute env request)
              (streamedResponse pricing env (applyAdapterRoute env request) .miss chunks usage name),
            .yielded (.metadata
              (streamedResponse pricing env (applyAdapterRoute env request) .miss chunks usage name))] ++
            [.finalized ⟨.chatCompletionsStream, env.tenantId, env.apiKeyId, applyAdapterRoute env request,
              streamedResponse pricing env (applyAdapterRoute env request) .miss chunks usage name⟩]),
        .ok ()⟩ := by
  rw [handleChatCompletionStream_of_unhit looked, routeStream_of_served streams, Logged.bind_ok]
  dsimp only
  rw [if_neg nofun, finishStream_of_attributed _ captured, List.append_assoc]
  rfl

end exits

/-- The ways out of `handle_chat_completion`. -/
inductive CompletionExit (pricing : Pricing) (env : Environment) (request : ChatRequest) :
    Handler ChatResponse → Prop
  | hit {hit status events} (looked : CacheService.lookup env (applyAdapterRoute env request) =
        ⟨events, .ok (some hit, status)⟩)
      (written : ∀ event ∈ events, event = .promoted (applyAdapterRoute env request) hit) :
      CompletionExit pricing env request ⟨events ++ [.finalized ⟨.chatCompletions, env.tenantId, env.apiKeyId,
        applyAdapterRoute env request, stamp env (applyAdapterRoute env request) hit status⟩],
        .ok (stamp env (applyAdapterRoute env request) hit status)⟩
  | joined {response}
    (looked : CacheService.lookup env (applyAdapterRoute env request) = ⟨[], .ok (none, .miss)⟩)
      (lost : env.lockAcquired = false) (answered : env.coalesced = some response) :
      CompletionExit pricing env request ⟨[.lockTried false, .finalized ⟨.chatCompletions, env.tenantId,
        env.apiKeyId, applyAdapterRoute env request,
          stamp env (applyAdapterRoute env request) response .exactHit⟩],
        .ok (stamp env (applyAdapterRoute env request) response .exactHit)⟩
  | served {status won response} (tried : List Event)
      (looked : CacheService.lookup env (applyAdapterRoute env request) = ⟨[], .ok (none, status)⟩)
      (locked : ∀ event ∈ tried, event = .lockTried won)
      (completed : RoutingService.complete env.registry env.settings env.complete
        (applyAdapterRoute env request) =
        .ok response) :
      CompletionExit pricing env request
        ⟨tried ++ servedLog pricing env (applyAdapterRoute env request) status won response,
          .ok (stamp env (applyAdapterRoute env request) (costed pricing response) status)⟩
  | failed {events error} (locked : ∀ event ∈ events, event = .lockReleased ∨ ∃ won, event = .lockTried won) :
      CompletionExit pricing env request ⟨events, .error error⟩

theorem completionExit (pricing : Pricing) (env : Environment) (request : ChatRequest) :
    CompletionExit pricing env request (handleChatCompletion pricing env request) := by
  rcases CacheService.lookup_cases env (applyAdapterRoute env request) with
    ⟨-, bypassed⟩ | ⟨-, ⟨hit, -, exact⟩ | ⟨hit, -, semantic⟩ | ⟨-, -, missed⟩⟩
  · rw [handleChatCompletion_of_bypassed bypassed]
    rcases completed : RoutingService.complete env.registry env.settings env.complete
      (applyAdapterRoute env request) with error | response
    · rw [completeUpstream_of_error _ _ completed]
      exact .failed (by simp)
    · rw [completeUpstream_of_ok _ _ completed]
      exact .served [] bypassed (by simp) completed
  · rw [handleChatCompletion_of_hit exact]
    exact .hit exact (by simp)
  · rw [handleChatCompletion_of_hit semantic]
    exact .hit semantic (by simp)
  · rw [handleChatCompletion_of_missed missed]
    rcases completeMissed_cases pricing env (applyAdapterRoute env request) with
      ⟨response, lost, answered, joined⟩ | ⟨-, called⟩
    · rw [joined]
      exact .joined missed lost answered
    · rw [called]
      rcases completed : RoutingService.complete env.registry env.settings env.complete
        (applyAdapterRoute env request) with error | response
      · rw [completeUpstream_of_error _ _ completed]
        refine .failed fun event member => ?_
        rcases List.mem_cons.mp member with rfl | member
        · exact .inr ⟨_, rfl⟩
        · exact .inl (by simp_all)
      · rw [completeUpstream_of_ok _ _ completed]
        exact .served [_] missed (by simp) completed

/-- The ways out of `handle_chat_completion_stream`. -/
inductive StreamExit (pricing : Pricing) (env : Environment) (request : ChatRequest) : Handler Unit → Prop
  | hit {hit status events} (looked : CacheService.lookup env (applyAdapterRoute env request) =
        ⟨events, .ok (some hit, status)⟩)
      (written : ∀ event ∈ events, event = .promoted (applyAdapterRoute env request) hit) :
      StreamExit pricing env request ⟨events ++ [.yielded (.chunk hit.message.content),
          .yielded (.metadata (stamp env (applyAdapterRoute env request) hit status))] ++
        [.finalized ⟨.chatCompletionsStream, env.tenantId, env.apiKeyId, applyAdapterRoute env request,
          stamp env (applyAdapterRoute env request) hit status⟩], .ok ()⟩
  | bypassed {provider model chunks}
      (looked : CacheService.lookup env (applyAdapterRoute env request) = ⟨[], .ok (none, .bypassed)⟩)
      (streams : RoutingService.Streams env.registry env.settings env.stream (applyAdapterRoute env request)
        provider model chunks) :
      StreamExit pricing env request ⟨(chunks.map fun text => .yielded (.chunk text)) ++
        [.completed ⟨provider.name, model⟩ (env.countTokens provider
          (RoutingService.attemptRequest (applyAdapterRoute env request) model) (String.join chunks))], .ok ()⟩
  | missed {provider model chunks usage name}
      (looked : CacheService.lookup env (applyAdapterRoute env request) = ⟨[], .ok (none, .miss)⟩)
      (streams : RoutingService.Streams env.registry env.settings env.stream (applyAdapterRoute env request)
        provider model chunks) :
      StreamExit pricing env request ⟨(chunks.map fun text => .yielded (.chunk text)) ++
        .completed ⟨provider.name, model⟩ (env.countTokens provider
            (RoutingService.attemptRequest (applyAdapterRoute env request) model) (String.join chunks)) ::
          ([.priced ⟨name, (applyAdapterRoute env request).model⟩ usage,
            .backfilled (applyAdapterRoute env request)
              (streamedResponse pricing env (applyAdapterRoute env request) .miss chunks usage name),
            .yielded (.metadata
              (streamedResponse pricing env (applyAdapterRoute env request) .miss chunks usage name))] ++
            [.finalized ⟨.chatCompletionsStream, env.tenantId, env.apiKeyId, applyAdapterRoute env request,
              streamedResponse pricing env (applyAdapterRoute env request) .miss chunks usage name⟩]), .ok ()⟩
  | failed {events error} (cut : ∀ event ∈ events, (∃ text, event = .yielded (.chunk text)) ∨
        ∃ model usage, event = .completed model usage) :
      StreamExit pricing env request ⟨events, .error error⟩

theorem streamExit (pricing : Pricing) (env : Environment) (request : ChatRequest) :
    StreamExit pricing env request (handleChatCompletionStream pricing env request) := by
  have unserved {status : CacheStatus}
      (looked : CacheService.lookup env (applyAdapterRoute env request) = ⟨[], .ok (none, status)⟩)
      (none : (RoutingService.stream env.registry env.settings env.stream
        (applyAdapterRoute env request)).served = none)
      {error : Raised} (ended : (RoutingService.stream env.registry env.settings env.stream
        (applyAdapterRoute env request)).outcome = .error error) :
      StreamExit pricing env request (handleChatCompletionStream pricing env request) := by
    obtain ⟨chunks, routed⟩ := routeStream_of_unserved none ended
    rw [handleChatCompletionStream_of_unhit looked, routed, Logged.bind_error]
    exact .failed (by simp)
  rcases CacheService.lookup_cases env (applyAdapterRoute env request) with
    ⟨-, bypassed⟩ | ⟨-, ⟨hit, -, exact⟩ | ⟨hit, -, semantic⟩ | ⟨-, -, missed⟩⟩
  · rcases RoutingService.stream_cases env.registry env.settings env.stream (applyAdapterRoute env request) with
      ⟨provider, model, chunks, streams⟩ | ⟨none, error, ended⟩
    · rw [handleChatCompletionStream_of_bypassed bypassed streams]
      exact .bypassed bypassed streams
    · exact unserved bypassed none ended
  · rw [handleChatCompletionStream_of_hit exact]
    exact .hit exact (by simp)
  · rw [handleChatCompletionStream_of_hit semantic]
    exact .hit semantic (by simp)
  · rcases RoutingService.stream_cases env.registry env.settings env.stream (applyAdapterRoute env request) with
      ⟨provider, model, chunks, streams⟩ | ⟨none, error, ended⟩
    · by_cases silent : chunks = []
      · subst silent
        rw [handleChatCompletionStream_of_missed pricing missed streams
          (show attributed env [] _ = ⟨[], .ok (⟨0, 0⟩, "unknown")⟩ from rfl)]
        exact .missed missed streams
      · rcases countable : env.countable provider
          (RoutingService.attemptRequest (applyAdapterRoute env request) model) (String.join chunks)
        · rw [handleChatCompletionStream_of_uncountable pricing missed streams silent countable]
          refine .failed fun event member => ?_
          rcases List.mem_append.mp member with member | member
          · obtain ⟨text, -, rfl⟩ := List.mem_map.mp member
            exact .inl ⟨text, rfl⟩
          · exact .inr ⟨_, _, List.mem_singleton.mp member⟩
        · rw [handleChatCompletionStream_of_missed pricing missed streams
            (attributed_of_selected silent countable)]
          exact .missed missed streams
    · exact unserved missed none ended

end GatewayService

end LlmopsGateway
