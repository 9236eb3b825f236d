import LlmopsGateway.Model.ProviderTraffic
import LlmopsGateway.Soundness.AttemptOrder
import LlmopsGateway.Soundness.Attribution
import LlmopsGateway.Soundness.HandlerRuns
import LlmopsGateway.Soundness.Throttle

/-! # What a tenant can put on the providers

A request that gets past the middleware takes a token of its tenant, is resolved to at most one attempt for each
registered provider, and each attempt calls upstream once and once more for each retry. So the upstream calls
that a tenant causes in a window are bounded by its limit and the refill, whatever the providers answer and
whatever keys, models and pins it uses.
-/

namespace LlmopsGateway

open Machine

namespace UpstreamEvent

variable {κ : Type}

theorem calls_append (first second : List (UpstreamEvent κ)) :
    calls (first ++ second) = calls first + calls second :=
  List.countP_append

theorem calls_chunks (chunks : List String) : calls (chunks.map (chunk : String → UpstreamEvent κ)) = 0 :=
  List.countP_eq_zero.mpr (List.forall_mem_map.mpr fun _ _ => Bool.false_ne_true)

end UpstreamEvent

open UpstreamEvent

namespace BaseLLMProvider

variable {κ α : Type} {name : String} {call : ℕ → Logged Raised (UpstreamEvent κ) α}

theorem calls_settled (played : Logged Raised (UpstreamEvent κ) α) :
    calls (settled name played).events = calls played.events := by
  unfold settled
  split
  · exact calls_append ..
  · exact calls_append ..
  · rfl

/-- A call, and one more for each retry. -/
theorem calls_retryLoop (once : ∀ n, calls (call n).events ≤ 1) (retries attempt : ℕ) :
    calls (retryLoop name call retries attempt).events ≤ retries + 1 := by
  have first (n : ℕ) : calls (settled name (call n)).events ≤ 1 := (calls_settled (call n)).trans_le (once n)
  induction retries generalizing attempt with
  | zero => exact first attempt
  | succ retries ih =>
    rw [retryLoop, Logged.recover]
    split
    · exact (first attempt).trans (Nat.le_add_left ..)
    · rw [calls_append, Nat.add_comm]
      refine Nat.add_le_add ?_ (first attempt)
      split
      · split_ifs
        · exact Nat.zero_le _
        · exact Nat.zero_le _
        · exact ih (attempt + 1)
      · exact Nat.zero_le _

theorem calls_guarded (once : ∀ n, calls (call n).events ≤ 1) (maxRetries : ℕ) (allowed : Bool) :
    calls (guarded name maxRetries allowed call).events ≤ maxRetries + 1 := by
  rw [guarded, Int.toNat_natCast]
  split_ifs
  · exact calls_retryLoop once maxRetries 0
  · exact Nat.zero_le _

end BaseLLMProvider

namespace Leg

theorem calls_complete (leg : CompleteLeg) (request : ChatRequest) :
    UpstreamEvent.calls (leg.complete request).events ≤ leg.maxRetries + 1 := by
  refine BaseLLMProvider.calls_guarded (fun n => ?_) leg.maxRetries leg.allowed
  exact Nat.le_refl 1

theorem calls_stream (leg : StreamLeg) (request : ChatRequest) :
    UpstreamEvent.calls (leg.stream request).events ≤ leg.maxRetries + 1 := by
  refine BaseLLMProvider.calls_guarded (fun n => ?_) leg.maxRetries leg.allowed
  have none : UpstreamEvent.calls ((leg.yields n).chunks.map (chunk : String → UpstreamEvent StreamLeg)) = 0 :=
    calls_chunks _
  change UpstreamEvent.calls ([.called leg (leg.sent request) n] ++ _) ≤ 1
  rw [calls_append, none]
  exact Nat.le_refl 1

end Leg

namespace RoutingService

variable {request : ChatRequest} {maxRetries : ℕ}

theorem calls_completeEach {legs : List CompleteLeg} (budget : ∀ leg ∈ legs, leg.maxRetries = maxRetries)
    (errors : List (String × ProviderError)) :
    calls (completeEach request errors legs).events ≤ legs.length * (maxRetries + 1) := by
  induction legs generalizing errors with
  | nil => exact Nat.zero_le _
  | cons leg rest ih =>
    obtain ⟨rfl, budget⟩ := List.forall_mem_cons.mp budget
    have first := leg.calls_complete request
    rw [completeEach, Logged.recover, List.length_cons, Nat.succ_mul, Nat.add_comm]
    split
    · exact first.trans (Nat.le_add_right ..)
    · rw [calls_append]
      refine Nat.add_le_add first ?_
      split
      · exact ih budget _
      · exact Nat.zero_le _

theorem calls_announce {κ : Type} (provider : Provider) (sent : ChatRequest) (events : List (UpstreamEvent κ)) :
    calls (announce provider sent events) = calls events := by
  induction events with
  | nil => rfl
  | cons event rest ih =>
    cases event with
    | chunk text => rfl
    | called | recordSuccess | recordFailure | selected =>
      change calls (_ :: announce provider sent rest) = _
      rw [calls, calls, List.countP_cons, List.countP_cons]
      exact congrArg (· + _) ih

theorem calls_streamEach {legs : List StreamLeg} (budget : ∀ leg ∈ legs, leg.maxRetries = maxRetries)
    (errors : List (String × ProviderError)) :
    calls (streamEach request errors legs).events ≤ legs.length * (maxRetries + 1) := by
  induction legs generalizing errors with
  | nil => exact Nat.zero_le _
  | cons leg rest ih =>
    obtain ⟨rfl, budget⟩ := List.forall_mem_cons.mp budget
    have first :
        calls (announce leg.provider (leg.sent request) (leg.stream request).events) ≤ leg.maxRetries + 1 :=
      (calls_announce ..).trans_le (leg.calls_stream request)
    rw [streamEach, Logged.recover, List.length_cons, Nat.succ_mul, Nat.add_comm]
    dsimp only
    split
    · exact first.trans (Nat.le_add_right ..)
    · rw [calls_append]
      refine Nat.add_le_add first ?_
      split
      · split_ifs
        · exact Nat.zero_le _
        · exact ih budget _
      · exact Nat.zero_le _

section attempts

variable {registry : ProviderRegistry} {settings : RoutingSettings} {attempts : List Attempt}

/-- Each attempt is with the registered provider of one of the names. -/
theorem attemptsFor_sublist {names : List String}
    (resolved : attemptsFor registry settings request names = .ok attempts) :
    (attempts.map fun attempt => attempt.1.name).Sublist names ∧
      ∀ attempt ∈ attempts, attempt.1 ∈ registry.providers := by
  induction names generalizing attempts with
  | nil =>
    obtain rfl := Except.ok.inj resolved
    exact ⟨.slnil, List.forall_mem_nil _⟩
  | cons name rest ih =>
    rw [attemptsFor] at resolved
    rcases first : attemptFor registry settings request name with error | found
    · rw [first] at resolved
      cases resolved
    rcases later : attemptsFor registry settings request rest with error | others
    · rw [first, later] at resolved
      cases resolved
    rw [first, later] at resolved
    obtain rfl := Except.ok.inj resolved
    obtain ⟨sublist, registered⟩ := ih later
    cases found with
    | none => exact ⟨sublist.cons name, registered⟩
    | some attempt =>
      have known : registry.tryGet name = some attempt.1 := by
        unfold attemptFor at first
        split at first
        · cases first
        · rename_i provider known
          split_ifs at first
          · obtain rfl := Option.some.inj (Except.ok.inj first)
            exact known
          · split at first
            · cases first
            · obtain ⟨model, -, rfl⟩ := Option.map_eq_some_iff.mp (Except.ok.inj first)
              exact known
      refine ⟨?_, List.forall_mem_cons.mpr ⟨List.mem_of_find?_eq_some known, registered⟩⟩
      rw [Option.toList_some, List.singleton_append, List.map_cons, name_of_tryGet known]
      exact sublist.cons_cons name

theorem orderedNames_nodup (registry : ProviderRegistry) (settings : RoutingSettings) (request : ChatRequest) :
    (orderedNames registry settings request).Nodup := by
  obtain ⟨fresh, names, occurrences⟩ := orderedNames_eq registry settings request
  have apart : fresh.Nodup := occurrences.ordered.imp fun before same =>
    absurd (same ▸ before) (Nat.lt_irrefl _)
  rw [names]
  refine List.nodup_append.mpr ⟨Option.toList_nodup _, apart, fun first here second there same => ?_⟩
  exact ((occurrences.mem_iff second).mp there).2 (same ▸ here)

/-- At most one attempt for each registered provider. -/
theorem length_attempts_le (resolved : resolveAttempts registry settings request = .ok attempts) :
    attempts.length ≤ registry.providers.length := by
  rw [resolveAttempts] at resolved
  cases override : pinned request with
  | none =>
    rw [override] at resolved
    obtain ⟨sublist, registered⟩ := attemptsFor_sublist resolved
    have apart := (orderedNames_nodup registry settings request).sublist sublist
    have among : (attempts.map fun attempt => attempt.1.name) ⊆ registry.providers.map Provider.name := by
      intro name listed
      obtain ⟨attempt, member, rfl⟩ := List.mem_map.mp listed
      exact List.mem_map_of_mem (registered attempt member)
    simpa only [List.length_map] using (apart.subperm among).length_le
  | some name =>
    rw [override] at resolved
    dsimp only [ProviderRegistry.get] at resolved
    split at resolved
    · cases resolved
    · rename_i provider found
      obtain rfl := Except.ok.inj resolved
      split at found
      · rename_i other known
        exact List.length_pos_of_mem (List.mem_of_find?_eq_some known)
      · cases found

end attempts

section loops

theorem attemptRequest_again (request : ChatRequest) (model : String) :
    attemptRequest (attemptRequest request model) model = attemptRequest request model :=
  if_pos (attemptRequest_model request model).symm

theorem complete_sent (leg : CompleteLeg) (request : ChatRequest) :
    leg.complete (attemptRequest request leg.model) = leg.complete request := by
  have same : leg.completion (attemptRequest request leg.model) = leg.completion request := by
    funext call
    rw [Leg.completion, Leg.completion, Leg.sent, Leg.sent, attemptRequest_again]
  rw [Leg.complete, same]
  rfl

theorem stream_sent (leg : StreamLeg) (request : ChatRequest) :
    leg.stream (attemptRequest request leg.model) = leg.stream request := by
  have same : leg.streaming (attemptRequest request leg.model) = leg.streaming request := by
    funext call
    rw [Leg.streaming, Leg.streaming, Leg.sent, Leg.sent, attemptRequest_again]
  rw [Leg.stream, same]
  rfl

/-- A completion returns and raises what the loops over the upstream calls do. -/
theorem completeFrom_eq_completeEach (meets : Attempt → Meeting (Except ProviderError ChatResponse))
    (attempts : List Attempt) (errors : List (String × ProviderError)) :
    completeFrom (fun provider sent =>
      ((Meeting.leg maxRetries meets (provider, sent.model)).complete sent).outcome)
        request errors attempts =
      (completeEach request errors (attempts.map (Meeting.leg maxRetries meets))).outcome := by
  induction attempts generalizing errors with
  | nil => rfl
  | cons attempt rest ih =>
    obtain ⟨provider, model⟩ := attempt
    have same : (Meeting.leg maxRetries meets (provider, model)).complete (attemptRequest request model) =
        (Meeting.leg maxRetries meets (provider, model)).complete request := complete_sent ..
    rw [completeFrom, List.map_cons, completeEach, attemptRequest_model, same, Logged.recover]
    cases ended : ((Meeting.leg maxRetries meets (provider, model)).complete request).outcome with
    | ok response => rfl
    | error error =>
      cases error with
      | provider error => exact ih _
      | _ => rfl

theorem texts_announce {κ : Type} (provider : Provider) (sent : ChatRequest) (events : List (UpstreamEvent κ)) :
    (announce provider sent events).filterMap text? = events.filterMap text? := by
  induction events with
  | nil => rfl
  | cons event rest ih =>
    cases event with
    | chunk text => rfl
    | called | recordSuccess | recordFailure | selected => exact ih

theorem texts_eq_nil_iff {κ : Type} {events : List (UpstreamEvent κ)} :
    events.filterMap text? = [] ↔ yieldedAny events = false := by
  simp [yieldedAny, List.filterMap_eq_nil_iff]

/-- A stream passes on the text of the loops over the upstream calls, and ends as they do. -/
theorem streamFrom_eq_streamEach (meets : Attempt → Meeting BaseLLMProvider.Played) (attempts : List Attempt)
    (errors : List (String × ProviderError)) :
    let run := streamFrom (fun provider sent =>
      .ofRun ((Meeting.leg maxRetries meets (provider, sent.model)).stream sent))
      request errors attempts
    let looped := streamEach request errors (attempts.map (Meeting.leg maxRetries meets))
    run.chunks = looped.events.filterMap text? ∧ run.outcome = looped.outcome := by
  dsimp only
  induction attempts generalizing errors with
  | nil => exact ⟨rfl, rfl⟩
  | cons attempt rest ih =>
    obtain ⟨provider, model⟩ := attempt
    have same : (Meeting.leg maxRetries meets (provider, model)).stream (attemptRequest request model) =
        (Meeting.leg maxRetries meets (provider, model)).stream request := stream_sent ..
    rw [streamFrom, List.map_cons, streamEach, attemptRequest_model, same]
    generalize (Meeting.leg maxRetries meets (provider, model)).stream request = played
    obtain ⟨events, ended⟩ := played
    dsimp only [StreamScript.ofRun]
    cases ended with
    | ok value => exact ⟨(texts_announce ..).symm, rfl⟩
    | error error =>
      cases error with
      | provider error =>
        rw [Logged.recover_error]
        dsimp only
        cases yielded : yieldedAny events with
        | true =>
          have spoke : events.filterMap text? ≠ [] := by
            rw [Ne, texts_eq_nil_iff, yielded]
            exact Bool.noConfusion
          simp only [spoke, if_false, if_true]
          refine ⟨?_, rfl⟩
          rw [List.filterMap_append, texts_announce]
          exact (List.append_nil _).symm
        | false =>
          have silent := texts_eq_nil_iff.mpr yielded
          simp only [silent, if_true, Bool.false_eq_true, if_false, List.filterMap_append, texts_announce,
            List.nil_append]
          exact ih _
      | _ =>
        refine ⟨?_, rfl⟩
        rw [Logged.recover_error, List.filterMap_append, texts_announce]
        exact (List.append_nil _).symm

end loops

end RoutingService

namespace ProviderTraffic

open RoutingService Middleware GatewayService Auth AuthService

variable {deployment : Deployment} {arrival : Arrival} {state next : State} {requestState : RequestState}

/-- A handler that does not get to the providers does the same whatever they are. -/
theorem handle_of_spared (pricing : Pricing) {visit : Visit} (spared : goesUpstream visit = false)
    (complete : Provider → ChatRequest → Except Raised ChatResponse)
    (stream : Provider → ChatRequest → StreamScript) :
    Visit.handle pricing { visit with env := { visit.env with complete, stream } } = visit.handle pricing := by
  obtain ⟨env, request⟩ := visit
  have hit {found status events}
      (looked : CacheService.lookup env (applyAdapterRoute env request) = ⟨events, .ok (some found, status)⟩) :
      Visit.handle pricing ⟨{ env with complete, stream }, request⟩ = Visit.handle pricing ⟨env, request⟩ := by
    have again : CacheService.lookup { env with complete, stream }
      (applyAdapterRoute { env with complete, stream } request) = ⟨events, .ok (some found, status)⟩ := looked
    unfold Visit.handle
    dsimp only
    rw [handleChatCompletionStream_of_hit looked, handleChatCompletionStream_of_hit again,
      handleChatCompletion_of_hit looked, handleChatCompletion_of_hit again]
    rfl
  rcases CacheService.lookup_cases env (applyAdapterRoute env request) with
    ⟨-, bypassed⟩ | ⟨-, ⟨found, -, exact⟩ | ⟨found, -, semantic⟩ | ⟨-, -, missed⟩⟩
  · simp [goesUpstream, bypassed] at spared
  · exact hit exact
  · exact hit semantic
  · simp only [goesUpstream, missed, Bool.or_eq_false_iff] at spared
    obtain ⟨⟨⟨plain, -⟩, lost⟩, answered⟩ := spared
    have again : CacheService.lookup { env with complete, stream }
      (applyAdapterRoute { env with complete, stream } request) = ⟨[], .ok (none, .miss)⟩ := missed
    unfold Visit.handle
    dsimp only
    rw [plain, if_neg Bool.false_ne_true, if_neg Bool.false_ne_true, handleChatCompletion_of_missed missed,
      handleChatCompletion_of_missed again]
    unfold completeMissed
    obtain ⟨response, joined⟩ := Option.isSome_iff_exists.mp (Option.isNone_eq_false_iff.mp answered)
    simp only [lost, joined]
    rfl

/-- A handler that does gets the answers of the calls that are counted. -/
theorem complete_visit {routed : ChatRequest} {attempts : List Attempt}
    (resolved : resolveAttempts deployment.registry deployment.routing routed = .ok attempts) :
    RoutingService.complete deployment.registry deployment.routing
      (visit deployment arrival requestState).env.complete
        routed =
      (completeEach routed [] (attempts.map (completeLeg deployment arrival))).outcome := by
  rw [RoutingService.complete, resolved]
  exact completeFrom_eq_completeEach arrival.completes attempts []

theorem stream_visit {routed : ChatRequest} {attempts : List Attempt}
    (resolved : resolveAttempts deployment.registry deployment.routing routed = .ok attempts) :
    let run := RoutingService.stream deployment.registry deployment.routing
      (visit deployment arrival requestState).env.stream routed
    let looped := streamEach routed [] (attempts.map (streamLeg deployment arrival))
    run.chunks = looped.events.filterMap text? ∧ run.outcome = looped.outcome := by
  dsimp only
  rw [RoutingService.stream, resolved]
  exact streamFrom_eq_streamEach arrival.streams attempts []

/-- The upstream calls of a request, at most: each provider tried and retried. -/
def budget (deployment : Deployment) : ℕ := deployment.registry.providers.length * (deployment.maxRetries + 1)

theorem upstreamCalls_le (deployment : Deployment) (arrival : Arrival) (requestState : RequestState) :
    upstreamCalls deployment arrival requestState ≤ budget deployment := by
  unfold upstreamCalls
  dsimp only
  split
  · split
    · exact Nat.zero_le _
    · rename_i attempts resolved
      have tried := Nat.mul_le_mul_right (deployment.maxRetries + 1) (length_attempts_le resolved)
      split
      · have budgeted : ∀ leg ∈ attempts.map (streamLeg deployment arrival), leg.maxRetries =
            deployment.maxRetries :=
          List.forall_mem_map.mpr fun _ _ => rfl
        refine (calls_streamEach budgeted []).trans ?_
        rw [List.length_map]
        exact tried
      · have budgeted : ∀ leg ∈ attempts.map (completeLeg deployment arrival), leg.maxRetries =
            deployment.maxRetries :=
          List.forall_mem_map.mpr fun _ _ => rfl
        refine (calls_completeEach budgeted []).trans ?_
        rw [List.length_map]
        exact tried
  · exact Nat.zero_le _

/-- The requests that have got through pay for the upstream calls. -/
structure Paid (deployment : Deployment) (state : State) : Prop where
  metered : FrontDoor.Metered deployment.front state.front
  paid : ∀ test : String × ℕ →
    Bool, state.sent.countP test ≤ budget deployment * state.front.reached.countP test

/-- The request of a chat completion has a URL that is exempt from no check, as with any ordinary `Host`. -/
def Guarded (deployment : Deployment) : Label → Prop
  | .chat arrival => (deployment.front.urlPath arrival.request).any isExemptPath = false
  | .other _ => True

theorem sentBy_paid (guarded : Guarded deployment (.chat arrival)) (answer : Answer)
    (test : String × ℕ → Bool) :
    (sentBy deployment arrival answer).countP test ≤
      budget deployment * (FrontDoor.entryOf deployment.front arrival.request answer).countP test := by
  cases answer with
  | error response => exact Nat.zero_le _
  | ran requestState =>
    rw [sentBy, FrontDoor.entryOf, guarded, if_neg Bool.false_ne_true, List.countP_replicate,
      List.countP_singleton]
    split_ifs
    · exact (upstreamCalls_le ..).trans (Nat.le_mul_of_pos_right _ Nat.one_pos)
    · exact Nat.zero_le _

theorem reached_step {front after : FrontDoor.State} {request : Request}
    (stepped : FrontDoor.step deployment.front front (.request request) = some after) :
    after.reached =
      FrontDoor.entryOf deployment.front request (handle deployment.front request front.stores).1 ++
        front.reached := by
  rw [FrontDoor.step] at stepped
  split_ifs at stepped
  obtain rfl := Option.some.inj stepped
  rfl

theorem reached_suffix {front after : FrontDoor.State} {label : FrontDoor.Label}
    (stepped : FrontDoor.step deployment.front front label = some after) : front.reached <:+ after.reached := by
  cases label with
  | request request => exact ⟨_, (reached_step stepped).symm⟩
  | keys label =>
    obtain ⟨keys, -, rfl⟩ := Option.map_eq_some_iff.mp stepped
    exact List.suffix_rfl

section service

variable (required : deployment.front.settings.authRequireApiKey = true) (exact : deployment.front.round = id)
  (enabled : deployment.front.rateLimit.enabled = true)
  (positive : 0 < deployment.front.rateLimit.defaultLimitPerMinute) (inverse : deployment.front.auth.Inverse)

include required exact enabled positive inverse

theorem Paid.step (paid : Paid deployment state) {label : Label} (guarded : Guarded deployment label)
    (stepped : step deployment state label = some next) :
    Paid deployment next := by
  cases label with
  | chat arrival =>
    rw [ProviderTraffic.step] at stepped
    split_ifs at stepped with routed
    obtain ⟨front, moved, rfl⟩ := Option.map_eq_some_iff.mp stepped
    refine ⟨paid.metered.step required exact enabled positive inverse moved, fun test => ?_⟩
    rw [reached_step moved, List.countP_append, List.countP_append, Nat.mul_add]
    exact Nat.add_le_add (sentBy_paid guarded _ test) (paid.paid test)
  | other label =>
    obtain ⟨front, moved, rfl⟩ := Option.map_eq_some_iff.mp stepped
    refine ⟨paid.metered.step required exact enabled positive inverse moved, fun test => ?_⟩
    refine (paid.paid test).trans ?_
    exact Nat.mul_le_mul_left _ ((reached_suffix moved).sublist.countP_le)

/-- The upstream calls, in a closed time window, for requests of a tenant; a call is counted at the time of its
request. -/
def State.callsIn (state : State) (tenantId : String) (start finish : ℚ) : ℕ :=
  state.sent.countP fun call => call.1 = tenantId ∧ start ≤ call.2 ∧ call.2 ≤ finish

omit required exact enabled positive inverse in
theorem Paid.callsIn_le (paid : Paid deployment state) (tenantId : String) (start finish : ℚ) :
    state.callsIn tenantId start finish ≤
      budget deployment * TokenBucket.admittedIn start finish (state.front.instants tenantId) := by
  have counted : TokenBucket.admittedIn start finish (state.front.instants tenantId) =
      state.front.reached.countP fun call => call.1 = tenantId ∧ start ≤ call.2 ∧ call.2 ≤ finish := by
    rw [TokenBucket.admittedIn, FrontDoor.State.instants, FrontDoor.instantsOf, RateLimit.instants,
      List.countP_map,
      List.countP_map, List.countP_filter]
    refine List.countP_congr fun call _ => ?_
    simp [and_comm]
  rw [counted]
  exact paid.paid _

/-- Whatever requests come, with any keys, models and pins but no `Host` that makes an exempt URL of a chat
completion, and whatever the caches and the providers do: in no window do the upstream calls for a tenant
exceed what its limit and the refill allow times the calls of one request. -/
theorem run_load (tenants : Uuid → Option String) (apiKeys : Admin.ApiKeys) {labels : List Label}
    (guarded : ∀ label ∈ labels, Guarded deployment label)
    (ran : run? (step deployment) { front := ⟨⟨{ tenants, apiKeys }, fun _ => none⟩, 0, []⟩ } labels =
      some state)
    (tenantId : String) {start finish : ℚ} (ordered : start ≤ finish) :
    (state.callsIn tenantId start finish : ℚ) ≤
      budget deployment * (deployment.front.limit +
        (finish - start) * RateLimit.refillPerMs deployment.front.limit) := by
  have paid : Paid deployment state := by
    refine run_invariant (fun _ label => Guarded deployment label) (Paid deployment) ?_ ?_
      (along_of_forall _ guarded) ran
    · intro state label next paid guarded stepped
      exact paid.step required exact enabled positive inverse guarded stepped
    · exact ⟨⟨Coherent.empty deployment.front.auth.read _, fun _ => rfl⟩, fun _ => Nat.zero_le _⟩
  have admitted := (paid.metered.throttled required exact enabled positive).bounded tenantId start finish ordered
  have called : (state.callsIn tenantId start finish : ℚ) ≤
      budget deployment * TokenBucket.admittedIn start finish (state.front.instants tenantId) := by
    exact_mod_cast paid.callsIn_le tenantId start finish
  exact called.trans (mul_le_mul_of_nonneg_left admitted (Nat.cast_nonneg _))

end service

section sample

noncomputable def slowTraffic : Deployment where
  front := FrontDoor.slowDeployment
  registry := .ofKeys true true

/-- Both providers are down. -/
noncomputable def hopeless : Arrival where
  request := FrontDoor.chat
  payload := gptRequest
  base := outageEnv true
  completes _ := ⟨true, fun _ => .error (.connection "refused")⟩
  streams _ := ⟨true, fun _ => ⟨[], .error (.connection "refused")⟩⟩

/-- One request a minute, of eight upstream calls. -/
theorem load_hopeless : ∃ state,
    run? (step slowTraffic) { front := FrontDoor.opened } [.chat hopeless] = some state ∧
    state.callsIn samplePrincipal.tenantId 0 0 = 8 ∧
    (state.callsIn samplePrincipal.tenantId 0 0 : ℚ) ≤
      budget slowTraffic * (FrontDoor.slowDeployment.limit +
        (0 - 0) * RateLimit.refillPerMs FrontDoor.slowDeployment.limit) := by
  have counts : (run? (step slowTraffic) { front := FrontDoor.opened } [.chat hopeless]).map
      (fun state => state.sent) = some (List.replicate 8 (samplePrincipal.tenantId, 0)) := by decide +kernel
  obtain ⟨state, ran, counts⟩ := Option.map_eq_some_iff.mp counts
  have guarded : Guarded slowTraffic (.chat hopeless) := by
    change (FrontDoor.slowDeployment.urlPath FrontDoor.chat).any isExemptPath = false
    decide
  refine ⟨state, ran, ?_, run_load rfl rfl rfl (by decide) sampleService_inverse _ _
    (List.forall_mem_singleton.mpr guarded) ran _ le_rfl⟩
  rw [State.callsIn, counts, List.countP_replicate]
  simp

end sample

end ProviderTraffic

end LlmopsGateway
