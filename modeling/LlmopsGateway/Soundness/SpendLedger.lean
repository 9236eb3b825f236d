import LlmopsGateway.Machine.Run
import LlmopsGateway.Soundness.Attribution
import Mathlib.Algebra.BigOperators.Group.List.Basic
import Mathlib.Tactic.NormNum

/-! # Conservation of spend

Every request leaves its events in one ledger. What the finalized requests cost is compared with
the price of the upstream completions, at every point of a run. The non-streaming handler keeps
the two equal on each of its exits. The streaming handler does so exactly for the streams that
are not bypassed and whose tokens are counted, and cost the same under the model sent and the
model requested.
-/

namespace LlmopsGateway

open Machine RoutingService

namespace Event

/-- The cost a `_finalize` call records. -/
def finalizedUsd : Event → ℚ
  | finalized entry => entry.response.costUsd
  | _ => 0

/-- The price of an upstream completion. -/
def spentUsd (pricing : Pricing) : Event → ℚ
  | completed model usage => calculateCostUsd pricing model usage
  | _ => 0

def isFinalized : Event → Bool
  | finalized _ => true
  | _ => false

/-- Neither finalizes a request nor completes one upstream. -/
def isUnbilled : Event → Bool
  | finalized _ => false
  | completed .. => false
  | _ => true

theorem amounts_of_unbilled {event : Event} (unbilled : event.isUnbilled = true) (pricing : Pricing) :
    event.finalizedUsd = 0 ∧ event.spentUsd pricing = 0 ∧ event.isFinalized = false := by
  cases event <;> first | exact ⟨rfl, rfl, rfl⟩ | cases unbilled

end Event

def finalizedUsd (events : List Event) : ℚ := (events.map Event.finalizedUsd).sum

def spentUsd (pricing : Pricing) (events : List Event) : ℚ := (events.map (Event.spentUsd pricing)).sum

def finalizations (events : List Event) : ℕ := events.countP Event.isFinalized

theorem finalizedUsd_append (first second : List Event) :
    finalizedUsd (first ++ second) = finalizedUsd first + finalizedUsd second := by
  simp [finalizedUsd]

theorem spentUsd_append (pricing : Pricing) (first second : List Event) :
    spentUsd pricing (first ++ second) = spentUsd pricing first + spentUsd pricing second := by
  simp [spentUsd]

theorem finalizations_append (first second : List Event) :
    finalizations (first ++ second) = finalizations first + finalizations second :=
  List.countP_append

theorem amounts_of_unbilled {events : List Event} (unbilled : ∀ event ∈ events, event.isUnbilled = true)
    (pricing : Pricing) :
    finalizedUsd events = 0 ∧ spentUsd pricing events = 0 ∧ finalizations events = 0 := by
  have amounts event (among : event ∈ events) := Event.amounts_of_unbilled (unbilled event among) pricing
  refine ⟨List.sum_eq_zero ?_, List.sum_eq_zero ?_, List.countP_eq_zero.mpr ?_⟩
  · intro amount member
    obtain ⟨event, among, rfl⟩ := List.mem_map.mp member
    exact (amounts event among).1
  · intro amount member
    obtain ⟨event, among, rfl⟩ := List.mem_map.mp member
    exact (amounts event among).2.1
  · intro event among
    rw [(amounts event among).2.2]
    exact Bool.false_ne_true

/-- A request that returns is finalized once, and finalizes what it spent. -/
structure Accounted {α : Type} (pricing : Pricing) (handled : Handler α) : Prop where
  once : ∀ value, handled.outcome = .ok value → finalizations handled.events = 1
  balanced : finalizedUsd handled.events = spentUsd pricing handled.events

section accounted

variable {α : Type} {pricing : Pricing} {front events : List Event} {outcome : Except Raised α}

/-- Unbilled events in front change nothing. -/
theorem accounted_append_iff (unbilled : ∀ event ∈ front, event.isUnbilled = true) :
    Accounted pricing (⟨front ++ events, outcome⟩ : Handler α) ↔
      Accounted pricing (⟨events, outcome⟩ : Handler α) := by
  obtain ⟨finalized, spent, counted⟩ := amounts_of_unbilled unbilled pricing
  constructor
  · rintro ⟨once, balanced⟩
    refine ⟨fun value returned => ?_, ?_⟩
    · simpa only [finalizations_append, counted, zero_add] using once value returned
    · simpa only [finalizedUsd_append, spentUsd_append, finalized, spent, zero_add] using balanced
  · rintro ⟨once, balanced⟩
    refine ⟨fun value returned => ?_, ?_⟩
    · simpa only [finalizations_append, counted, zero_add] using once value returned
    · simpa only [finalizedUsd_append, spentUsd_append, finalized, spent, zero_add] using balanced

/-- An exit by an exception, before anything was completed. -/
theorem accounted_error {error : Raised} (unbilled : ∀ event ∈ events, event.isUnbilled = true) :
    Accounted pricing (⟨events, .error error⟩ : Handler α) := by
  obtain ⟨finalized, spent, -⟩ := amounts_of_unbilled unbilled pricing
  exact ⟨nofun, finalized.trans spent.symm⟩

/-- An exit without an upstream completion records no cost. -/
theorem accounted_free {entry : AuditEntry} {value : α} (free : entry.response.costUsd = 0) :
    Accounted pricing (⟨[.finalized entry], .ok value⟩ : Handler α) where
  once _ _ := rfl
  balanced := by simp [finalizedUsd, spentUsd, Event.finalizedUsd, Event.spentUsd, free]

/-- An exit after an upstream completion records the price of that. -/
theorem accounted_completed_iff {model : ModelIdentifier} {usage : TokenUsage} {entry : AuditEntry}
    {value : α} (unbilled : ∀ event ∈ front, event.isUnbilled = true) :
    Accounted pricing (⟨.completed model usage :: (front ++ [.finalized entry]), .ok value⟩ : Handler α) ↔
      entry.response.costUsd = calculateCostUsd pricing model usage := by
  obtain ⟨finalized, spent, counted⟩ := amounts_of_unbilled unbilled pricing
  have recorded : finalizedUsd (.completed model usage :: (front ++ [.finalized entry])) =
      entry.response.costUsd := by
    rw [← List.cons_append, finalizedUsd_append]
    simpa [finalizedUsd, Event.finalizedUsd] using finalized
  have priced : spentUsd pricing (.completed model usage :: (front ++ [.finalized entry])) =
      calculateCostUsd pricing model usage := by
    rw [← List.cons_append, spentUsd_append]
    simpa [spentUsd, Event.spentUsd] using spent
  constructor
  · rintro ⟨-, balanced⟩
    exact recorded.symm.trans (balanced.trans priced)
  · intro same
    refine ⟨fun _ _ => ?_, recorded.trans (same.trans priced.symm)⟩
    rw [← List.cons_append, finalizations_append]
    exact congrArg (· + 1) counted

/-- After an exception nothing is recorded for a completion. -/
theorem accounted_lost_iff {model : ModelIdentifier} {usage : TokenUsage} {error : Raised} :
    Accounted pricing (⟨[.completed model usage], .error error⟩ : Handler α) ↔
      0 = calculateCostUsd pricing model usage := by
  have recorded : finalizedUsd [.completed model usage] = 0 := by
    simp [finalizedUsd, Event.finalizedUsd]
  have priced : spentUsd pricing [.completed model usage] = calculateCostUsd pricing model usage := by
    simp [spentUsd, Event.spentUsd]
  constructor
  · rintro ⟨-, balanced⟩
    exact recorded.symm.trans (balanced.trans priced)
  · intro free
    exact ⟨nofun, recorded.trans (free.trans priced.symm)⟩

end accounted

theorem calculateCostUsd_zero (pricing : Pricing) (model : ModelIdentifier) :
    calculateCostUsd pricing model ⟨0, 0⟩ = 0 := by
  unfold calculateCostUsd
  split <;> simp

namespace GatewayService

variable {pricing : Pricing} {env : Environment} {request : ChatRequest}

theorem stamp_costUsd_of_hit {status : CacheStatus} (hit : status = .exactHit ∨ status = .semanticHit)
    (response : ChatResponse) : (stamp env request response status).costUsd = 0 :=
  if_pos hit

theorem stamp_costUsd_of_fresh {status : CacheStatus} (fresh : status = .miss ∨ status = .bypassed)
    (response : ChatResponse) : (stamp env request response status).costUsd = response.costUsd := by
  rcases fresh with rfl | rfl <;> simp [stamp]

/-- The upstream exits: the answer costs what its completion is priced at. -/
theorem completeUpstream_accounted (pricing : Pricing) (env : Environment) (request : ChatRequest)
    {status : CacheStatus} (fresh : status = .miss ∨ status = .bypassed) (wonLock : Bool) :
    Accounted pricing (completeUpstream pricing env request status wonLock) := by
  rcases called : RoutingService.complete env.registry env.settings env.complete request with error | response
  · rw [completeUpstream_of_error status wonLock called]
    apply accounted_error
    cases wonLock <;> simp [Event.isUnbilled]
  · rw [completeUpstream_of_ok status wonLock called, servedLog]
    refine (accounted_completed_iff ?_).mpr (stamp_costUsd_of_fresh fresh (costed pricing response))
    rcases fresh with rfl | rfl <;> cases wonLock <;> simp [Event.isUnbilled]

/-- Without a stream the ledger balances on every exit. -/
theorem handleChatCompletion_accounted (pricing : Pricing) (env : Environment) (request : ChatRequest) :
    Accounted pricing (handleChatCompletion pricing env request) := by
  rcases CacheService.lookup_cases env (applyAdapterRoute env request) with
    ⟨-, bypassed⟩ | ⟨-, ⟨hit, -, exact⟩ | ⟨hit, -, semantic⟩ | ⟨-, -, missed⟩⟩
  · rw [handleChatCompletion_of_bypassed bypassed]
    exact completeUpstream_accounted pricing env _ (.inr rfl) false
  · rw [handleChatCompletion_of_hit exact]
    exact accounted_free (stamp_costUsd_of_hit (.inl rfl) hit)
  · rw [handleChatCompletion_of_hit semantic]
    refine (accounted_append_iff ?_).mpr (accounted_free (stamp_costUsd_of_hit (.inr rfl) hit))
    simp [Event.isUnbilled]
  · rw [handleChatCompletion_of_missed missed]
    rcases completeMissed_cases pricing env (applyAdapterRoute env request) with
      ⟨response, -, -, joined⟩ | ⟨-, called⟩
    · rw [joined, ← List.singleton_append]
      refine (accounted_append_iff ?_).mpr (accounted_free (stamp_costUsd_of_hit (.inl rfl) response))
      simp [Event.isUnbilled]
    · rw [called, ← List.singleton_append]
      refine (accounted_append_iff ?_).mpr (completeUpstream_accounted pricing env _ (.inl rfl) _)
      simp [Event.isUnbilled]

/-- What the handler records for a stream: its tokens at the price of the requested model, and nothing
for a stream without a chunk or whose tokens cannot be counted. -/
def recordedUsd (pricing : Pricing) (env : Environment) (request : ChatRequest) (provider : Provider)
    (sent : ChatRequest) (chunks : List String) : ℚ :=
  if chunks = [] ∨ env.countable provider sent (String.join chunks) = false then 0
  else calculateCostUsd pricing ⟨provider.name, request.model⟩
    (env.countTokens provider sent (String.join chunks))

/-- The stream an upstream delivers to a request that no cache answers must not be bypassed, and what
is recorded for its tokens must be their price under the model sent. -/
def StreamBillable (pricing : Pricing) (env : Environment) (request : ChatRequest) : Prop :=
  request.cacheBypass = true ∨ env.exactGet request = none ∧ env.semanticGet request = none →
    ∀ provider model chunks,
      Streams env.registry env.settings env.stream request provider model chunks →
        request.cacheBypass = false ∧
          recordedUsd pricing env request provider (attemptRequest request model) chunks =
            calculateCostUsd pricing ⟨provider.name, model⟩
              (env.countTokens provider (attemptRequest request model) (String.join chunks))

theorem streamBillable_of_unserved
    (unserved : (RoutingService.stream env.registry env.settings env.stream request).served = none) :
    StreamBillable pricing env request := by
  intro _ provider model chunks streams
  rw [streams.stream_eq] at unserved
  exact nomatch unserved

/-- Passing a stream on bills nothing. -/
theorem unbilled_chunks (chunks : List String) :
    ∀ event ∈ chunks.map fun text => Event.yielded (.chunk text), event.isUnbilled = true := by
  intro event member
  obtain ⟨text, -, rfl⟩ := List.mem_map.mp member
  rfl

/-- A stream that nothing serves ends before anything is completed. -/
theorem stream_accounted_of_unserved {status : CacheStatus} {error : Raised}
    (looked : CacheService.lookup env (applyAdapterRoute env request) = ⟨[], .ok (none, status)⟩)
    (unserved : (RoutingService.stream env.registry env.settings env.stream
      (applyAdapterRoute env request)).served = none)
    (ended : (RoutingService.stream env.registry env.settings env.stream
      (applyAdapterRoute env request)).outcome = .error error) :
    Accounted pricing (handleChatCompletionStream pricing env request) := by
  obtain ⟨chunks, routed⟩ := routeStream_of_unserved unserved ended
  rw [handleChatCompletionStream_of_unhit looked, routed, Logged.bind_error]
  exact accounted_error (unbilled_chunks chunks)

/-- A bypassed stream that is delivered leaves no record. -/
theorem stream_accounted_iff_of_bypassed (bypass : (applyAdapterRoute env request).cacheBypass = true)
    (looked : CacheService.lookup env (applyAdapterRoute env request) = ⟨[], .ok (none, .bypassed)⟩) :
    Accounted pricing (handleChatCompletionStream pricing env request) ↔
      StreamBillable pricing env (applyAdapterRoute env request) := by
  rcases stream_cases env.registry env.settings env.stream (applyAdapterRoute env request) with
    ⟨provider, model, chunks, streams⟩ | ⟨unserved, error, ended⟩
  · refine iff_of_false ?_ fun billable => ?_
    · rw [handleChatCompletionStream_of_bypassed looked streams, accounted_append_iff (unbilled_chunks chunks)]
      rintro ⟨once, -⟩
      exact absurd (once () rfl) nofun
    · obtain ⟨notBypassed, -⟩ := billable (.inl bypass) provider model chunks streams
      exact absurd (bypass.symm.trans notBypassed) nofun
  · exact iff_of_true (stream_accounted_of_unserved looked unserved ended)
      (streamBillable_of_unserved unserved)

/-- A missed stream that an attempt serves records that cost. -/
theorem stream_accounted_iff_of_served {provider : Provider} {model : String} {chunks : List String}
    (looked : CacheService.lookup env (applyAdapterRoute env request) = ⟨[], .ok (none, .miss)⟩)
    (streams : Streams env.registry env.settings env.stream (applyAdapterRoute env request)
      provider model chunks) :
    Accounted pricing (handleChatCompletionStream pricing env request) ↔
      recordedUsd pricing env (applyAdapterRoute env request) provider
          (attemptRequest (applyAdapterRoute env request) model) chunks =
        calculateCostUsd pricing ⟨provider.name, model⟩
          (env.countTokens provider (attemptRequest (applyAdapterRoute env request) model)
            (String.join chunks)) := by
  have unbilled := unbilled_chunks chunks
  unfold recordedUsd
  by_cases silent : chunks = []
  · have captured : attributed env chunks (selected provider
        (attemptRequest (applyAdapterRoute env request) model) chunks) =
        ⟨[], .ok (⟨0, 0⟩, "unknown")⟩ := by
      rw [selected, if_pos silent]
      rfl
    rw [if_pos (.inl silent), handleChatCompletionStream_of_missed pricing looked streams captured,
      accounted_append_iff unbilled, accounted_completed_iff (by simp [Event.isUnbilled]),
      streamedResponse, assembled, calculateCostUsd_zero]
  · rcases countable : env.countable provider (attemptRequest (applyAdapterRoute env request) model)
      (String.join chunks)
    · rw [if_pos (.inr rfl), handleChatCompletionStream_of_uncountable pricing looked streams silent countable,
        accounted_append_iff unbilled, accounted_lost_iff]
    · rw [if_neg (by simp [silent]), handleChatCompletionStream_of_missed pricing looked streams
          (attributed_of_selected silent countable),
        accounted_append_iff unbilled, accounted_completed_iff (by simp [Event.isUnbilled]),
        streamedResponse, assembled]

/-- A missed stream is billed for what it used exactly when the two prices agree. -/
theorem stream_accounted_iff_of_missed (notBypassed : (applyAdapterRoute env request).cacheBypass = false)
    (unhit : env.exactGet (applyAdapterRoute env request) = none ∧
      env.semanticGet (applyAdapterRoute env request) = none)
    (looked : CacheService.lookup env (applyAdapterRoute env request) = ⟨[], .ok (none, .miss)⟩) :
    Accounted pricing (handleChatCompletionStream pricing env request) ↔
      StreamBillable pricing env (applyAdapterRoute env request) := by
  rcases stream_cases env.registry env.settings env.stream (applyAdapterRoute env request) with
    ⟨provider, model, chunks, streams⟩ | ⟨unserved, error, ended⟩
  · rw [stream_accounted_iff_of_served looked streams]
    constructor
    · intro same _ provider' model' chunks' streams'
      obtain ⟨rfl, rfl, rfl⟩ := streams.unique streams'
      exact ⟨notBypassed, same⟩
    · intro billable
      exact (billable (.inr unhit) provider model chunks streams).2
  · exact iff_of_true (stream_accounted_of_unserved looked unserved ended)
      (streamBillable_of_unserved unserved)

/-- When a stream is accounted for, whichever way it ends. -/
theorem stream_accounted_iff (pricing : Pricing) (env : Environment) (request : ChatRequest) :
    Accounted pricing (handleChatCompletionStream pricing env request) ↔
      StreamBillable pricing env (applyAdapterRoute env request) := by
  rcases CacheService.lookup_cases env (applyAdapterRoute env request) with
    ⟨bypass, bypassed⟩ | ⟨notBypassed, ⟨hit, found, exact⟩ | ⟨hit, found, semantic⟩ | ⟨unhit, unhit', missed⟩⟩
  · exact stream_accounted_iff_of_bypassed bypass bypassed
  · rw [handleChatCompletionStream_of_hit exact]
    refine iff_of_true ?_ ?_
    · refine (accounted_append_iff ?_).mpr (accounted_free (stamp_costUsd_of_hit (.inl rfl) hit))
      simp [Event.isUnbilled]
    · intro unhit
      simp [notBypassed, found] at unhit
  · rw [handleChatCompletionStream_of_hit semantic]
    refine iff_of_true ?_ ?_
    · refine (accounted_append_iff ?_).mpr (accounted_free (stamp_costUsd_of_hit (.inr rfl) hit))
      simp [Event.isUnbilled]
    · intro unhit
      simp [notBypassed, found] at unhit
  · exact stream_accounted_iff_of_missed notBypassed ⟨unhit, unhit'⟩ missed

end GatewayService

namespace Visit

variable {pricing : Pricing} {visit : Visit}

/-- Every request but a stream is billable. -/
def Billable (pricing : Pricing) (visit : Visit) : Prop :=
  visit.request.stream = true → GatewayService.StreamBillable pricing visit.env
    (GatewayService.applyAdapterRoute visit.env visit.request)

theorem accounted_iff : Accounted pricing (visit.handle pricing) ↔ visit.Billable pricing := by
  unfold handle Billable
  by_cases streamed : visit.request.stream = true
  · rw [if_pos streamed, GatewayService.stream_accounted_iff]
    exact ⟨fun billable _ => billable, fun billable => billable streamed⟩
  · rw [if_neg streamed]
    refine iff_of_true ?_ fun stream => absurd stream streamed
    have accounted := GatewayService.handleChatCompletion_accounted pricing visit.env visit.request
    revert accounted
    rcases GatewayService.handleChatCompletion pricing visit.env visit.request with ⟨events, error | response⟩
    · rintro ⟨-, balanced⟩
      exact ⟨nofun, balanced⟩
    · rintro ⟨once, balanced⟩
      rw [Logged.bind_ok, Logged.pure_eq, List.append_nil]
      exact ⟨fun _ _ => once response rfl, balanced⟩

/-- One step of the gateway: a request is handled and its events are appended to the ledger. -/
def record (pricing : Pricing) (ledger : List Event) (visit : Visit) : Option (List Event) :=
  some (ledger ++ (visit.handle pricing).events)

/-- What a request owes the ledger: one record if it returns, and what was finalized so far is what
was spent so far. -/
structure Conserved (pricing : Pricing) (ledger : List Event) (visit : Visit) : Prop where
  once : ∀ value, (visit.handle pricing).outcome = .ok value →
    finalizations (visit.handle pricing).events = 1
  balanced : finalizedUsd (ledger ++ (visit.handle pricing).events) =
    spentUsd pricing (ledger ++ (visit.handle pricing).events)

theorem conserved_iff_accounted {ledger : List Event}
    (balanced : finalizedUsd ledger = spentUsd pricing ledger) :
    visit.Conserved pricing ledger ↔ Accounted pricing (visit.handle pricing) := by
  constructor
  · rintro ⟨once, conserved⟩
    rw [finalizedUsd_append, spentUsd_append, balanced] at conserved
    exact ⟨once, add_left_cancel conserved⟩
  · rintro ⟨once, accounted⟩
    refine ⟨once, ?_⟩
    rw [finalizedUsd_append, spentUsd_append, balanced, accounted]

/-- Spend is conserved throughout a run exactly when every request of it is billable. -/
theorem conserved_iff (pricing : Pricing) (visits : List Visit) :
    Along (record pricing) (fun ledger visit => visit.Conserved pricing ledger) [] visits ↔
      ∀ visit ∈ visits, visit.Billable pricing := by
  have enabled (ledger visit) : ∃ next, record pricing ledger visit = some next := ⟨_, rfl⟩
  rw [← along_forall_iff enabled]
  refine along_congr (fun ledger => finalizedUsd ledger = spentUsd pricing ledger) ?_ ?_ rfl
    (along_true [] visits)
  · intro ledger visit balanced _
    rw [conserved_iff_accounted balanced, accounted_iff]
  · intro ledger visit next _ _ conserved stepped
    obtain rfl := Option.some.inj stepped
    exact conserved.balanced

/-- A dollar for a thousand tokens, whatever the model. -/
def flatPricing : Pricing := fun _ => some (1, 1)

/-- A streamed request that bypasses the caches. -/
def bypassedVisit : Visit where
  env := GatewayService.outageEnv false
  request := { gptRequest with stream := true, cacheBypass := true }

/-- A bypassed stream returns, was served for 3 cents, and is not finalized. -/
theorem conserved_bypassed :
    spentUsd flatPricing (bypassedVisit.handle flatPricing).events = 3 / 100 ∧
      finalizations (bypassedVisit.handle flatPricing).events = 0 ∧
      ¬ Along (record flatPricing) (fun ledger visit => visit.Conserved flatPricing ledger) []
        [bypassedVisit] := by
  have logged : (bypassedVisit.handle flatPricing).events =
      [.yielded (.chunk "Hello"), .completed ⟨"openai", "gpt-4o"⟩ ⟨10, 20⟩] := rfl
  have uncounted : finalizations (bypassedVisit.handle flatPricing).events = 0 := by
    rw [logged]
    rfl
  refine ⟨?_, uncounted, fun along => ?_⟩
  · rw [logged]
    norm_num [spentUsd, Event.spentUsd, calculateCostUsd, flatPricing]
  · have once := along.1.once () rfl
    omega

end Visit

end LlmopsGateway
