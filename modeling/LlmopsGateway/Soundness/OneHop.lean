import LlmopsGateway.Model.History
import LlmopsGateway.Soundness.Attribution
import LlmopsGateway.Soundness.CacheProvenance

/-! # Cached answers do not drift

A handler schedules a backfill only of what its own upstream call gave, for the request it sent. With that
the provenance of the cache layer reaches back to the upstream calls: an answer that is looked up or waited
for is at most one match away from the request it was generated for.
-/

namespace LlmopsGateway

open Machine GatewayService

variable {pricing : Pricing}

/-- A response that the upstream call of this very request gave: what `complete` returned, with its price,
or the text of a stream. -/
def Job.Fresh (pricing : Pricing) (job : Job) : Prop :=
  job.request = job.visit.routed ∧
    if job.visit.request.stream then
      ∃ provider model chunks, RoutingService.Streams job.visit.env.registry job.visit.env.settings
        job.visit.env.stream job.request provider model chunks ∧
          job.response.message.content = String.join chunks
    else
      ∃ response, RoutingService.complete job.visit.env.registry job.visit.env.settings job.visit.env.complete
        job.request = .ok response ∧ job.response = costed pricing response

theorem backfilled_of_completion {env : Environment} {request sent : ChatRequest} {response : ChatResponse}
    (member : .backfilled sent response ∈ (handleChatCompletion pricing env request).events) :
    sent = applyAdapterRoute env request ∧
      ∃ upstream, RoutingService.complete env.registry env.settings env.complete sent = .ok upstream ∧
        response = costed pricing upstream := by
  have exits := completionExit pricing env request
  generalize handleChatCompletion pricing env request = handled at member exits
  cases exits with
  | hit looked written =>
    rcases List.mem_append.mp member with member | member
    · cases written _ member
    · cases List.mem_singleton.mp member
  | joined => simp at member
  | failed locked =>
    rcases locked _ member with released | ⟨won, tried⟩
    · cases released
    · cases tried
  | served tried looked locked completed =>
    rename_i upstream
    rcases List.mem_append.mp member with member | member
    · cases locked _ member
    · have written : sent = applyAdapterRoute env request ∧ response = costed pricing upstream := by
        rw [servedLog] at member
        split_ifs at member
        · simp at member
        · simpa using member
        · simp at member
        · simpa using member
      obtain ⟨rfl, rfl⟩ := written
      exact ⟨rfl, _, completed, rfl⟩

theorem backfilled_of_stream {env : Environment} {request sent : ChatRequest} {response : ChatResponse}
    (member : .backfilled sent response ∈ (handleChatCompletionStream pricing env request).events) :
    sent = applyAdapterRoute env request ∧
      ∃ provider model chunks,
        RoutingService.Streams env.registry env.settings env.stream sent provider model chunks ∧
        response.message.content = String.join chunks := by
  have exits := streamExit pricing env request
  generalize handleChatCompletionStream pricing env request = handled at member exits
  cases exits with
  | hit looked written =>
    rcases List.mem_append.mp member with member | member
    · rcases List.mem_append.mp member with member | member
      · cases written _ member
      · simp at member
    · cases List.mem_singleton.mp member
  | bypassed => simp at member
  | missed looked streams =>
    rename_i chunks usage name
    have written : sent = applyAdapterRoute env request ∧
        response = streamedResponse pricing env (applyAdapterRoute env request) .miss chunks usage name := by
      simpa using member
    obtain ⟨rfl, rfl⟩ := written
    exact ⟨rfl, _, _, _, streams, rfl⟩
  | failed cut =>
    rcases cut _ member with ⟨text, chunk⟩ | ⟨model, usage, completed⟩
    · cases chunk
    · cases completed

theorem Visit.events_of_completion {visit : Visit} (completion : ¬ visit.request.stream = true) :
    (visit.handle pricing).events = (handleChatCompletion pricing visit.env visit.request).events := by
  rw [Visit.handle, if_neg completion]
  rcases handleChatCompletion pricing visit.env visit.request with ⟨events, error | response⟩
  · rfl
  · exact List.append_nil _

/-- Every task a handler schedules has a fresh response. -/
theorem Visit.fresh_of_mem_jobs {visit : Visit} {job : Job} (member : job ∈ visit.jobs pricing) :
    job.visit = visit ∧ job.Fresh pricing := by
  obtain ⟨event, logged, scheduled⟩ := List.mem_filterMap.mp member
  cases event with
  | backfilled sent response =>
    obtain rfl := Option.some.inj scheduled
    refine ⟨rfl, ?_⟩
    unfold Job.Fresh
    by_cases streamed : visit.request.stream = true
    · rw [Visit.handle, if_pos streamed] at logged
      rw [if_pos streamed]
      exact backfilled_of_stream logged
    · rw [Visit.events_of_completion streamed] at logged
      rw [if_neg streamed]
      exact backfilled_of_completion logged
  | _ => cases scheduled

namespace History

open CacheLayer (Deployment Generated Traced Descends Matched Result Caller)

variable {κ ν : Type} {deployment : Deployment ν}

/-- What the tasks scheduled so far write back. -/
def generatedBy (jobs : List Job) : Generated := fun tenantId request response =>
  ∃ job ∈ jobs, job.tenantId = tenantId ∧ job.request = request ∧ job.response = response

variable {state next final : State κ ν}

theorem generatedBy_of_scheduled {jobs : List Job} {caller : Caller κ} {request : ChatRequest}
    {response : ChatResponse}
    (admitted : scheduled jobs (.start caller (.backfill request response)) = true) :
    generatedBy jobs caller.tenantId request response := by
  obtain ⟨job, member, same⟩ := List.any_eq_true.mp admitted
  simp only [Bool.and_eq_true, decide_eq_true_eq] at same
  exact ⟨job, member, same.1.1, same.1.2, same.2⟩

/-- The cache layer holds nothing but what was scheduled, and that was fresh. -/
structure Sound (pricing : Pricing) (deployment : Deployment ν) (state : State κ ν) : Prop where
  traced : Traced deployment (generatedBy state.jobs) state.cache
  fresh : ∀ job ∈ state.jobs, job.Fresh pricing

theorem Sound.initial : Sound pricing deployment ({} : State κ ν) where
  traced := .initial
  fresh _ member := absurd member List.not_mem_nil

variable [DecidableEq κ]

/-- What a step of the history can do. -/
theorem step_cases {label : Label κ} (stepped : step pricing deployment state label = some next) :
    (∃ inner cache, label = .cache inner ∧ scheduled state.jobs inner = true ∧
      CacheLayer.step deployment state.cache inner = some cache ∧ next = { state with cache }) ∨
    ∃ arrival, label = .handle arrival ∧ arrival.answered state.cache = true ∧
      next = { state with
        jobs := state.jobs ++ arrival.visit.jobs pricing
        handled := state.handled ++ [⟨arrival.tenantId, arrival.lookup⟩] } := by
  cases label with
  | cache inner =>
    rw [step] at stepped
    split_ifs at stepped with admitted
    split at stepped
    · cases stepped
    · rename_i cache advanced
      exact .inl ⟨inner, cache, rfl, admitted, advanced, (Option.some.inj stepped).symm⟩
  | handle arrival =>
    rw [step] at stepped
    split_ifs at stepped with admitted
    exact .inr ⟨arrival, rfl, admitted.2, (Option.some.inj stepped).symm⟩

theorem Sound.step (fixed : deployment.FixedLength) (above : deployment.AboveThreshold)
    (roundTrips : deployment.RoundTrips) (sound : Sound pricing deployment state) {label : Label κ}
    (stepped : step pricing deployment state label = some next) : Sound pricing deployment next := by
  rcases step_cases stepped with ⟨inner, cache, rfl, admitted, advanced, rfl⟩ | ⟨arrival, rfl, -, rfl⟩
  · refine ⟨sound.traced.step fixed above roundTrips ?_ advanced, sound.fresh⟩
    rintro caller request response rfl
    exact generatedBy_of_scheduled admitted
  · constructor
    · refine sound.traced.generate ?_
      rintro tenantId request response ⟨job, member, same⟩
      exact ⟨job, List.mem_append_left _ member, same⟩
    · intro job member
      rcases List.mem_append.mp member with member | member
      · exact sound.fresh job member
      · exact (Visit.fresh_of_mem_jobs member).2

/-- Every answer that a lookup or a wait returns was generated by an upstream call of the same tenant: for
a request with the same key, or for one that a request with the same key was matched to. -/
theorem run_oneHop (pricing : Pricing) (fixed : deployment.FixedLength) (above : deployment.AboveThreshold)
    (roundTrips : deployment.RoundTrips) {labels : List (Label κ)}
    (ran : run? (step pricing deployment) {} labels = some final) {caller : Caller κ} {result : Result}
    {request : ChatRequest} {hit : ChatResponse} (returned : final.cache.results caller = some result)
    (answer : result.answer = some (request, hit)) :
    ∃ job ∈ final.jobs, job.tenantId = caller.tenantId ∧ job.Fresh pricing ∧
      (∃ status, hit = { job.response with cacheStatus := status }) ∧
      (deployment.cacheKey job.request = deployment.cacheKey request ∨
        ∃ id matched, final.cache.results ⟨caller.tenantId, id⟩ =
            some (.looked matched (some { job.response with cacheStatus := .semanticHit }) .semanticHit) ∧
          deployment.cacheKey matched = deployment.cacheKey request ∧
          deployment.Similar caller.tenantId matched job.request) := by
  have sound := reachable_invariant (Sound pricing deployment)
    (fun _ _ _ sound stepped => sound.step fixed above roundTrips stepped) .initial ran
  obtain ⟨source, original, ⟨job, member, tenants, rfl, rfl⟩, same, hop⟩ :=
    sound.traced.answers caller result request hit returned answer
  exact ⟨job, member, tenants, sound.fresh job member, same, hop⟩

section sample

open CacheLayer (greeting answer sampleDeployment)

def tenantCall (id : ℕ) : Caller ℕ := ⟨"tenant", id⟩

/-- `greeting` misses, is answered by `openai` and written back. -/
def greeted : List (Label ℕ) :=
  [.cache (.start (tenantCall 0) (.lookup greeting)), .cache (.call (tenantCall 0) .redis .ok),
    .cache (.call (tenantCall 0) .qdrant .ok), .cache (.start (tenantCall 1) (.acquire greeting)),
    .cache (.call (tenantCall 1) .redis .ok), .handle ⟨⟨outageEnv false, greeting⟩, 0, 1, 2⟩,
    .cache (.start (tenantCall 3) (.backfill greeting (answer .miss))),
      .cache (.call (tenantCall 3) .redis .ok),
    .cache (.call (tenantCall 3) .qdrant .ok)]

def hello : ChatRequest := { model := "gpt-4o", messages := [⟨.user, "hello"⟩] }

/-- A request in other words is matched to `greeting`, and the same request is then found under its key. -/
def helloTwice : List (Label ℕ) :=
  [.cache (.start (tenantCall 4) (.lookup hello)), .cache (.call (tenantCall 4) .redis .ok),
    .cache (.call (tenantCall 4) .qdrant .ok), .cache (.call (tenantCall 4) .redis .ok),
    .cache (.start (tenantCall 5) (.lookup hello)), .cache (.call (tenantCall 5) .redis .ok)]

theorem run_oneHop_hello : sampleDeployment.FixedLength ∧ sampleDeployment.AboveThreshold ∧
    sampleDeployment.RoundTrips ∧ ∃ final : State ℕ (ℚ × ℚ),
      run? (step (fun _ => none) sampleDeployment) {} (greeted ++ helloTwice) = some final ∧
        final.cache.results (tenantCall 5) = some (.looked hello (some (answer .exactHit)) .exactHit) ∧
        ∃ job ∈ final.jobs, job.tenantId = "tenant" ∧ job.Fresh (fun _ => none) ∧
          (∃ status, answer .exactHit = { job.response with cacheStatus := status }) ∧
          (sampleDeployment.cacheKey job.request = sampleDeployment.cacheKey hello ∨
            ∃ id matched, final.cache.results ⟨"tenant", id⟩ =
                some (.looked matched (some { job.response with cacheStatus := .semanticHit }) .semanticHit) ∧
              sampleDeployment.cacheKey matched = sampleDeployment.cacheKey hello ∧
              sampleDeployment.Similar "tenant" matched job.request) := by
  have hits : (run? (step (fun _ => none) sampleDeployment) ({} : State ℕ (ℚ × ℚ)) (greeted ++ helloTwice)).map
      (fun final => final.cache.results (tenantCall 5)) =
        some (some (.looked hello (some (answer .exactHit)) .exactHit)) := by decide +kernel
  obtain ⟨final, ran, hit⟩ := Option.map_eq_some_iff.mp hits
  exact ⟨CacheLayer.sampleDeployment_fixedLength, CacheLayer.sampleDeployment_aboveThreshold,
    CacheLayer.sampleDeployment_roundTrips, final, ran, hit,
    run_oneHop (fun _ => none) CacheLayer.sampleDeployment_fixedLength
      CacheLayer.sampleDeployment_aboveThreshold CacheLayer.sampleDeployment_roundTrips ran hit rfl⟩

end sample

end History

end LlmopsGateway
