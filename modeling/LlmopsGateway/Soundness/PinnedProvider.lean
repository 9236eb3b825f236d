import LlmopsGateway.Soundness.OneHop

/-! # Pinned providers and the caches

Routing sends a pinned request to its provider alone. The keys of both cache layers leave the pin out, so
a cached answer may be another provider's. It is the pinned one's throughout a history in which, whenever
a pinned request reads a store, all that was generated so far for requests it could be matched to came
from the pinned provider.
-/

namespace LlmopsGateway

open Machine GatewayService

/-- Two responses that differ in nothing but what `_stamp`, the price and the caches set. -/
structure ChatResponse.SameAnswer (response other : ChatResponse) : Prop where
  id : response.id = other.id
  model : response.model = other.model
  provider : response.provider = other.provider
  message : response.message = other.message
  usage : response.usage = other.usage
  createdAt : response.createdAt = other.createdAt

/-- What a client gets: the text, and the responses that come with it. -/
structure Delivery where
  text : String
  responses : List ChatResponse

/-- It is this response that was delivered. -/
def Delivery.Of (delivery : Delivery) (response : ChatResponse) : Prop :=
  delivery.text = response.message.content ∧ ∀ stamped ∈ delivery.responses, response.SameAnswer stamped

/-- The text deltas of a streamed reply. -/
def chunkItems (events : List Event) : List String :=
  events.filterMap fun
    | .yielded (.chunk text) => some text
    | _ => none

namespace Visit

variable (pricing : Pricing) (visit : Visit)

/-- What a handler that returns has delivered. -/
def delivery : Option Delivery :=
  if visit.request.stream then
    match handleChatCompletionStream pricing visit.env visit.request with
    | ⟨events, .ok ()⟩ => some ⟨String.join (chunkItems events), metadataItems events⟩
    | ⟨_, .error _⟩ => none
  else
    match handleChatCompletion pricing visit.env visit.request with
    | ⟨_, .ok response⟩ => some ⟨response.message.content, [response]⟩
    | ⟨_, .error _⟩ => none

/-- The request went upstream, and what was delivered is what came back. -/
def Upstream (delivery : Delivery) : Prop :=
  (∃ model usage, .completed model usage ∈ (visit.handle pricing).events) ∧
    if visit.request.stream then
      ∃ provider model chunks, RoutingService.Streams visit.env.registry visit.env.settings visit.env.stream
        visit.routed provider model chunks ∧ delivery.text = String.join chunks
    else
      ∃ response,
        RoutingService.complete visit.env.registry visit.env.settings visit.env.complete visit.routed =
        .ok response ∧ delivery.Of response

/-- What is delivered to a pinned request was produced by its provider, in its own upstream call or in one
whose answer was scheduled for the caches before. -/
def PinHonoured (jobs : List Job) : Prop :=
  ∀ pin delivery, visit.request.providerOverride = some pin → visit.delivery pricing = some delivery →
    visit.producer = some pin ∧ visit.Upstream pricing delivery ∨
      ∃ job ∈ jobs, job.tenantId = visit.env.tenantId ∧ job.Fresh pricing ∧ job.visit.producer = some pin ∧
        delivery.Of job.response

end Visit

namespace History

open CacheLayer (Deployment Matched Result Caller)

variable {κ ν : Type}

/-- The request whose answer a call reads from a store next. -/
def reads : CacheLayer.Phase → Option ChatRequest
  | .exactGet request => some request
  | .semanticGet request => some request
  | .waiting request _ _ => some request
  | _ => none

/-- An answer that the entry of a request may hold: its own request has the same key, or one with that key
was matched to it. -/
def Shared (deployment : Deployment ν) (state : State κ ν) (tenantId : String) (request : ChatRequest)
    (job : Job) : Prop :=
  deployment.cacheKey job.request = deployment.cacheKey request ∨
    Matched deployment state.cache.results tenantId (deployment.cacheKey request) job.request job.response

/-- An answer that the next read of a call may find. -/
def Readable (deployment : Deployment ν) (state : State κ ν) (tenantId : String) (job : Job) :
    CacheLayer.Phase → Prop
  | .exactGet request => Shared deployment state tenantId request job
  | .semanticGet request => deployment.Similar tenantId request job.request
  | .waiting request _ _ => Shared deployment state tenantId request job
  | _ => False

/-- What a read of a pinned request may find was produced by its provider, and no pin is empty. -/
def Unmixed (deployment : Deployment ν) (state : State κ ν) : Label κ → Prop
  | .cache (.call caller _ _) => ∀ request pin, reads (state.cache.calls caller) = some request →
      request.providerOverride = some pin → ∀ job ∈ state.jobs, job.tenantId = caller.tenantId →
        Readable deployment state caller.tenantId job (state.cache.calls caller) → job.visit.producer = some pin
  | .cache _ => True
  | .handle arrival => arrival.visit.request.providerOverride ≠ some ""

end History

section routing

variable {registry : ProviderRegistry} {settings : RoutingSettings} {request : ChatRequest} {pin : String}
  (pinned : request.providerOverride = some pin) (named : pin ≠ "")

include pinned named

/-- A pinned request has one attempt, with the provider of that name. -/
theorem RoutingService.resolveAttempts_of_pinned {attempts : List Attempt}
    (resolved : resolveAttempts registry settings request = .ok attempts) :
    ∃ provider, provider.name = pin ∧ attempts = [(provider, request.model)] := by
  have pins : RoutingService.pinned request = some pin := by
    rw [RoutingService.pinned, pinned, Option.filter_some, if_pos (by simpa using named)]
  rw [resolveAttempts, pins] at resolved
  dsimp only [ProviderRegistry.get] at resolved
  rcases found : registry.tryGet pin with _ | provider
  · rw [found] at resolved
    cases resolved
  · rw [found] at resolved
    exact ⟨provider, name_of_tryGet found, (Except.ok.inj resolved).symm⟩

theorem RoutingService.server_of_pinned {serve : Provider → ChatRequest → Except Raised ChatResponse}
    {response : ChatResponse} (completed : complete registry settings serve request = .ok response) :
    (server registry settings serve request).map Provider.name = some pin := by
  rw [complete] at completed
  rcases resolved : resolveAttempts registry settings request with error | attempts
  · rw [resolved] at completed
    cases completed
  · obtain ⟨provider, name, rfl⟩ := resolveAttempts_of_pinned pinned named resolved
    rw [resolved] at completed
    rw [server, resolved]
    dsimp only [completeFrom, serverFrom] at completed ⊢
    cases answered : serve provider (attemptRequest request request.model) with
    | ok served => exact congrArg some name
    | error raised =>
      rw [answered] at completed
      cases raised <;> cases completed

theorem RoutingService.served_of_pinned {script : Provider → ChatRequest → StreamScript} {provider : Provider}
    {model : String} {chunks : List String}
    (streams : Streams registry settings script request provider model chunks) :
    (stream registry settings script request).served.map (·.1.name) = some pin := by
  rw [streams.stream_eq]
  obtain ⟨failed, rest, resolved, -, -⟩ := streams
  obtain ⟨only, name, single⟩ := resolveAttempts_of_pinned pinned named resolved
  have member : (provider, model) ∈ [(only, request.model)] :=
    single ▸ List.mem_append_right _ (List.mem_cons_self ..)
  obtain ⟨rfl, -⟩ := Prod.mk.inj (List.mem_singleton.mp member)
  exact congrArg some name

end routing

theorem chunkItems_append (first second : List Event) :
    chunkItems (first ++ second) = chunkItems first ++ chunkItems second := List.filterMap_append

theorem metadataItems_append (first second : List Event) :
    metadataItems (first ++ second) = metadataItems first ++ metadataItems second := List.filterMap_append

theorem chunkItems_chunks (chunks : List String) :
    chunkItems (chunks.map fun text => .yielded (.chunk text)) = chunks := by
  simp [chunkItems]

theorem GatewayService.providerOverride_applyAdapterRoute (env : Environment) (request : ChatRequest) :
    (applyAdapterRoute env request).providerOverride = request.providerOverride := by
  unfold applyAdapterRoute
  split
  · rfl
  · split <;> rfl

namespace History

open CacheLayer (Deployment Result Caller)

variable {κ ν : Type} {pricing : Pricing} {deployment : Deployment ν} {state next final : State κ ν}

/-- Every answer that a pinned request was given comes from its provider. -/
def PinsKept (state : State κ ν) : Prop :=
  ∀ caller result request hit pin, state.cache.results caller = some result →
    result.answer = some (request, hit) →
    request.providerOverride = some pin → ∃ job ∈ state.jobs, job.tenantId = caller.tenantId ∧
      job.visit.producer = some pin ∧ ∃ status, hit = { job.response with cacheStatus := status }

/-- A command gives a pinned request an answer of its provider, if all it could be given are. -/
theorem pinned_of_performs (above : deployment.AboveThreshold) (roundTrips : deployment.RoundTrips)
    (sound : Sound pricing deployment state) {caller : Caller κ}
    {store : CacheLayer.Store} {reply : Coalescing.Reply}
    (unmixed : Unmixed deployment state (.cache (.call caller store reply))) {effect : CacheLayer.Effect ν}
    (performs : CacheLayer.Performs deployment state.cache caller.tenantId (state.cache.calls caller) effect)
    {result : Result} {request : ChatRequest} {hit : ChatResponse} {pin : String}
    (returns : effect.result = some result)
    (answer : result.answer = some (request, hit)) (pinned : request.providerOverride = some pin) :
    ∃ job ∈ state.jobs, job.tenantId = caller.tenantId ∧ job.visit.producer = some pin ∧
      ∃ status, hit = { job.response with cacheStatus := status } := by
  have only := unmixed request pin
  generalize state.cache.calls caller = phase at performs only
  -- an answer of the exact cache, read by a lookup or by a waiting call
  have exact {asked : ChatRequest} {found : ChatResponse} {reply : Coalescing.Reply}
      (reading : reads phase = some asked)
      (readable : ∀ job, Shared deployment state caller.tenantId asked job →
        Readable deployment state caller.tenantId job phase)
      (read : CacheLayer.exactCacheGet deployment state.cache asked caller.tenantId reply = some found)
      (same : (asked, found) = (request, hit)) : ∃ job ∈ state.jobs, job.tenantId = caller.tenantId ∧
        job.visit.producer = some pin ∧ ∃ status, hit = { job.response with cacheStatus := status } := by
    obtain ⟨rfl, rfl⟩ := Prod.mk.inj same
    obtain ⟨-, -, ⟨job, member, tenants, rfl, rfl⟩, stamped, hop⟩ :=
      sound.traced.descends_of_exactCacheGet roundTrips read
    exact ⟨job, member, tenants, only reading pinned job member tenants (readable job hop), stamped⟩
  cases performs with
  | exactHit read =>
    obtain rfl := Option.some.inj returns
    exact exact rfl (fun _ shared => shared) read (Option.some.inj answer)
  | waitHit read =>
    obtain rfl := Option.some.inj returns
    exact exact rfl (fun _ shared => shared) read (Option.some.inj answer)
  | semanticHit read =>
    obtain rfl := Option.some.inj returns
    obtain ⟨rfl, rfl⟩ := Prod.mk.inj (Option.some.inj answer)
    obtain ⟨-, -, ⟨job, member, tenants, rfl, rfl⟩, stamped, similar⟩ :=
      sound.traced.similar_of_semanticCacheGet above roundTrips read
    exact ⟨job, member, tenants, only rfl pinned job member tenants similar, .semanticHit, stamped⟩
  | semanticMiss | acquire =>
    obtain rfl := Option.some.inj returns
    cases answer
  | exactMiss | storeExact | storePoint | release => cases returns
  | waitMiss =>
    exact nomatch ((CacheLayer.sleep_quiet ..).silent returns).symm.trans answer

section answered

variable {arrival : Arrival κ}

theorem Arrival.looked (answered : arrival.answered state.cache = true) {hit : Option ChatResponse}
    {status : CacheStatus} {events : List Event}
    (looked : CacheService.lookup arrival.visit.env arrival.visit.routed = ⟨events, .ok (hit, status)⟩) :
    state.cache.results ⟨arrival.tenantId, arrival.lookup⟩ =
      some (.looked arrival.visit.routed hit status) := by
  rw [Arrival.answered, looked] at answered
  simp only [Bool.and_eq_true, decide_eq_true_eq] at answered
  exact answered.1

theorem Arrival.waited (answered : arrival.answered state.cache = true) {events : List Event}
    (looked : CacheService.lookup arrival.visit.env arrival.visit.routed = ⟨events, .ok (none, .miss)⟩)
    (completion : ¬ arrival.visit.request.stream = true) (lost : arrival.visit.env.lockAcquired = false) :
    state.cache.results ⟨arrival.tenantId, arrival.wait⟩ =
      some (.waited arrival.visit.routed arrival.visit.env.coalesced) := by
  rw [Arrival.answered, looked] at answered
  simp [completion, lost] at answered
  exact answered.2.2

/-- A response from the tasks so far, of the pinned provider. -/
theorem delivered_of_kept (kept : PinsKept state) (sound : Sound pricing deployment state)
    {result : Result} {id : κ}
    {pin : String} {hit : ChatResponse} (pinned : arrival.visit.request.providerOverride = some pin)
    (recorded : state.cache.results ⟨arrival.tenantId, id⟩ = some result)
    (answer : result.answer = some (arrival.visit.routed, hit)) (status : CacheStatus) {delivery : Delivery}
    (delivered : delivery = ⟨hit.message.content, [stamp arrival.visit.env arrival.visit.routed hit status]⟩) :
    ∃ job ∈ state.jobs, job.tenantId = arrival.visit.env.tenantId ∧ job.Fresh pricing ∧
      job.visit.producer = some pin ∧ delivery.Of job.response := by
  obtain ⟨job, member, tenants, producer, status', rfl⟩ := kept _ result _ _ pin recorded answer
    ((providerOverride_applyAdapterRoute ..).trans pinned)
  subst delivered
  refine ⟨job, member, tenants, sound.fresh job member, producer, rfl, fun stamped member => ?_⟩
  obtain rfl := List.mem_singleton.mp member
  exact ⟨rfl, rfl, rfl, rfl, rfl, rfl⟩

theorem stream_honoured (kept : PinsKept state) (sound : Sound pricing deployment state)
    (answered : arrival.answered state.cache = true) (streamed : arrival.visit.request.stream = true)
    (named : arrival.visit.request.providerOverride ≠ some "") :
    arrival.visit.PinHonoured pricing state.jobs := by
  intro pin delivery pinned delivered
  have sends : arrival.visit.routed.providerOverride = some pin :=
    (providerOverride_applyAdapterRoute ..).trans pinned
  have proper : pin ≠ "" := fun blank => named (blank ▸ pinned)
  have exits := streamExit pricing arrival.visit.env arrival.visit.request
  have logged : arrival.visit.handle pricing =
      handleChatCompletionStream pricing arrival.visit.env arrival.visit.request := if_pos streamed
  rw [Visit.delivery, if_pos streamed] at delivered
  rw [Visit.Upstream, logged, Visit.producer, if_pos streamed, if_pos streamed]
  generalize handleChatCompletionStream pricing arrival.visit.env arrival.visit.request =
    handled at delivered exits
  cases exits with
  | hit looked written =>
    rename_i hit status events
    have recorded := arrival.looked answered looked
    obtain rfl := Option.some.inj delivered
    refine .inr (delivered_of_kept kept sound pinned recorded rfl status ?_)
    have texts : chunkItems events = [] :=
      List.filterMap_eq_nil_iff.mpr fun event member => by rw [written event member]
    have metadata : metadataItems events = [] :=
      List.filterMap_eq_nil_iff.mpr fun event member => by rw [written event member]
    rw [chunkItems_append, chunkItems_append, metadataItems_append, metadataItems_append, texts, metadata]
    simp [chunkItems, metadataItems, String.join, Visit.routed]
  | bypassed looked streams =>
    obtain rfl := Option.some.inj delivered
    refine .inl ⟨RoutingService.served_of_pinned sends proper streams,
      ⟨_, _, List.mem_append_right _ (List.mem_singleton.mpr rfl)⟩,
      _, _, _, streams, ?_⟩
    rw [chunkItems_append, chunkItems_chunks]
    simp [chunkItems]
  | missed looked streams =>
    obtain rfl := Option.some.inj delivered
    refine .inl ⟨RoutingService.served_of_pinned sends proper streams,
      ⟨_, _, List.mem_append_right _ (List.mem_cons_self ..)⟩,
      _, _, _, streams, ?_⟩
    rw [chunkItems_append, chunkItems_chunks]
    simp [chunkItems]
  | failed => cases delivered

theorem completion_honoured (kept : PinsKept state) (sound : Sound pricing deployment state)
    (answered : arrival.answered state.cache = true) (completion : ¬ arrival.visit.request.stream = true)
    (named : arrival.visit.request.providerOverride ≠ some "") :
    arrival.visit.PinHonoured pricing state.jobs := by
  intro pin delivery pinned delivered
  have sends : arrival.visit.routed.providerOverride = some pin :=
    (providerOverride_applyAdapterRoute ..).trans pinned
  have proper : pin ≠ "" := fun blank => named (blank ▸ pinned)
  have exits := completionExit pricing arrival.visit.env arrival.visit.request
  rw [Visit.delivery, if_neg completion] at delivered
  rw [Visit.Upstream, Visit.events_of_completion completion, Visit.producer, if_neg completion,
    if_neg completion]
  generalize handleChatCompletion pricing arrival.visit.env arrival.visit.request = handled at delivered exits
  cases exits with
  | hit looked written =>
    obtain rfl := Option.some.inj delivered
    exact .inr (delivered_of_kept kept sound pinned (arrival.looked answered looked) rfl _ rfl)
  | joined looked lost joined =>
    obtain rfl := Option.some.inj delivered
    have recorded := arrival.waited answered looked completion lost
    rw [joined] at recorded
    exact .inr (delivered_of_kept kept sound pinned recorded rfl _ rfl)
  | served tried looked locked completed =>
    obtain rfl := Option.some.inj delivered
    refine .inl ⟨RoutingService.server_of_pinned sends proper completed,
      ⟨_, _, List.mem_append_right _ (List.mem_cons_self ..)⟩, _, completed, rfl, fun stamped member => ?_⟩
    obtain rfl := List.mem_singleton.mp member
    exact ⟨rfl, rfl, rfl, rfl, rfl, rfl⟩
  | failed => cases delivered

end answered

variable [DecidableEq κ]

theorem PinsKept.step (above : deployment.AboveThreshold) (roundTrips : deployment.RoundTrips)
    (sound : Sound pricing deployment state) (kept : PinsKept state) {label : Label κ}
    (unmixed : Unmixed deployment state label) (stepped : step pricing deployment state label = some next) :
    PinsKept next := by
  intro caller result request hit pin recorded answer pinned
  rcases step_cases stepped with ⟨inner, cache, rfl, -, advanced, rfl⟩ | ⟨arrival, rfl, -, rfl⟩
  · rcases CacheLayer.step_cases advanced with ⟨ms, rfl, rfl⟩ | ⟨other, operation, rfl, idle, rfl⟩ |
        ⟨other, store, reply, effect, rfl, performs, rfl⟩
    · exact kept caller result request hit pin recorded answer pinned
    · rcases CacheLayer.proceed_results_cases recorded with before | ⟨rfl, returns⟩
      · exact kept caller result request hit pin before answer pinned
      · rcases CacheLayer.begin_quiet deployment state.cache operation with quiet | ⟨asked, response, rfl⟩
        · exact nomatch (quiet.silent returns).symm.trans answer
        · cases returns
    · rcases CacheLayer.proceed_results_cases recorded with before | ⟨rfl, returns⟩
      · exact kept caller result request hit pin before answer pinned
      · exact pinned_of_performs above roundTrips sound unmixed performs returns answer pinned
  · obtain ⟨job, member, tenants, producer, same⟩ := kept caller result request hit pin recorded answer pinned
    exact ⟨job, List.mem_append_left _ member, tenants, producer, same⟩

/-- A handler that returns honours its pin. -/
def Honours (pricing : Pricing) (state : State κ ν) : Label κ → Prop
  | .cache _ => True
  | .handle arrival => arrival.answered state.cache = true → arrival.visit.PinHonoured pricing state.jobs

/-- Pins are honoured throughout a history in which nothing that a pinned request could be given comes from
another provider. -/
theorem run_pinsHonoured (pricing : Pricing) (fixed : deployment.FixedLength)
    (above : deployment.AboveThreshold) (roundTrips : deployment.RoundTrips) {labels : List (Label κ)}
    (unmixed : Along (step pricing deployment) (Unmixed deployment) {} labels) :
    Along (step pricing deployment) (Honours pricing) ({} : State κ ν) labels := by
  have start : Sound pricing deployment ({} : State κ ν) ∧ PinsKept ({} : State κ ν) := by
    refine ⟨.initial, fun _ _ _ _ _ recorded => ?_⟩
    cases recorded
  refine (along_congr (fun state => Sound pricing deployment state ∧ PinsKept state) ?_ ?_ start unmixed).mpr
    (along_true _ labels)
  · rintro state label ⟨sound, kept⟩ here
    refine iff_true_intro ?_
    cases label with
    | cache inner => trivial
    | handle arrival =>
      intro answered
      by_cases streamed : arrival.visit.request.stream = true
      · exact stream_honoured kept sound answered streamed here
      · exact completion_honoured kept sound answered streamed here
  · rintro state label next ⟨sound, kept⟩ here - stepped
    exact ⟨sound.step fixed above roundTrips stepped, kept.step above roundTrips sound here stepped⟩

section sample

open CacheLayer (greeting answer sampleDeployment)

/-- `greeting` again, pinned, when its answer is in the exact cache. -/
def pinnedVisit (pin : String) : Visit :=
  ⟨{ outageEnv false with exactGet := fun _ => some (answer .exactHit) },
    { greeting with providerOverride := some pin }⟩

def pinnedArrival (pin : String) : Arrival ℕ := ⟨pinnedVisit pin, 4, 5, 6⟩

/-- The answer to `greeting` is written back, and then found by the pinned request. -/
def pinnedLookup (pin : String) : List (Label ℕ) := greeted ++
  [.cache (.start (tenantCall 4) (.lookup (pinnedVisit pin).request)), .cache (.call (tenantCall 4) .redis .ok)]

/-- All answers so far come from the provider of the pin. -/
def samePin (state : State κ ν) : Label κ → Bool
  | .cache (.call caller _ _) =>
    match reads (state.cache.calls caller) with
    | none => true
    | some request => request.providerOverride.all fun pin => state.jobs.all fun job =>
      job.visit.producer = some pin
  | .cache _ => true
  | .handle arrival => arrival.visit.request.providerOverride ≠ some ""

omit [DecidableEq κ] in
theorem unmixed_of_samePin (deployment : Deployment ν) (state : State κ ν) (label : Label κ)
    (same : samePin state label = true) : Unmixed deployment state label := by
  cases label with
  | handle arrival =>
    have named : arrival.visit.request.providerOverride ≠ some "" := of_decide_eq_true same
    exact named
  | cache inner =>
    cases inner with
    | tick | start => trivial
    | call caller store reply =>
      intro request pin reading pinned job member _ _
      rw [samePin, reading] at same
      dsimp only at same
      rw [pinned, Option.all_some] at same
      exact of_decide_eq_true (List.all_eq_true.mp same job member)

/-- Pinned to the provider that answered before, the request is honoured by the cached answer. -/
theorem run_pinsHonoured_openai : sampleDeployment.FixedLength ∧ sampleDeployment.AboveThreshold ∧
    sampleDeployment.RoundTrips ∧
    Along (step (fun _ => none) sampleDeployment) (Unmixed sampleDeployment) ({} : State ℕ (ℚ × ℚ))
      (pinnedLookup "openai" ++ [.handle (pinnedArrival "openai")]) ∧
    Along (step (fun _ => none) sampleDeployment) (Honours fun _ => none) ({} : State ℕ (ℚ × ℚ))
      (pinnedLookup "openai" ++ [.handle (pinnedArrival "openai")]) := by
  have same : Along (step (fun _ => none) sampleDeployment) (fun state label => samePin state label = true)
      ({} : State ℕ (ℚ × ℚ)) (pinnedLookup "openai" ++ [.handle (pinnedArrival "openai")]) := by decide +kernel
  have unmixed := same.imp (unmixed_of_samePin sampleDeployment)
  exact ⟨CacheLayer.sampleDeployment_fixedLength, CacheLayer.sampleDeployment_aboveThreshold,
    CacheLayer.sampleDeployment_roundTrips, unmixed,
    run_pinsHonoured (fun _ => none) CacheLayer.sampleDeployment_fixedLength
      CacheLayer.sampleDeployment_aboveThreshold CacheLayer.sampleDeployment_roundTrips unmixed⟩

/-- With all stores answering, a request pinned to `anthropic` is handed what `openai` answered before. -/
theorem pinsHonoured_anthropic :
    (∃ state : State ℕ (ℚ × ℚ),
      run? (step (fun _ => none) sampleDeployment) {} (pinnedLookup "anthropic") = some state ∧
      (pinnedArrival "anthropic").answered state.cache = true ∧
      state.jobs.map (fun job => job.visit.producer) = [some "openai"]) ∧
      ¬ Along (step (fun _ => none) sampleDeployment) (Honours fun _ => none) ({} : State ℕ (ℚ × ℚ))
        (pinnedLookup "anthropic" ++ [.handle (pinnedArrival "anthropic")]) := by
  have reaches :
      (run? (step (fun _ => none) sampleDeployment) ({} : State ℕ (ℚ × ℚ)) (pinnedLookup "anthropic")).map
      (fun state =>
        ((pinnedArrival "anthropic").answered state.cache, state.jobs.map fun job => job.visit.producer)) =
        some (true, [some "openai"]) := by decide +kernel
  obtain ⟨state, ran, facts⟩ := Option.map_eq_some_iff.mp reaches
  obtain ⟨answered, producers⟩ := Prod.mk.inj facts
  refine ⟨⟨state, ran, answered, producers⟩, fun along => ?_⟩
  have delivered : (pinnedVisit "anthropic").delivery (fun _ => none) =
      some ⟨"Hello", [stamp (pinnedVisit "anthropic").env (pinnedVisit "anthropic").request (answer .exactHit)
        .exactHit]⟩ := rfl
  rcases (along.append_right ran).1 answered "anthropic" _ rfl delivered with
    ⟨-, ⟨model, usage, completed⟩, -⟩ | ⟨job, member, -, -, producer, -⟩
  · cases List.mem_singleton.mp completed
  · have other := List.mem_map_of_mem (f := fun job : Job => job.visit.producer) member
    rw [producers, producer] at other
    exact absurd (List.mem_singleton.mp other) (by decide)

end sample

end History

end LlmopsGateway
