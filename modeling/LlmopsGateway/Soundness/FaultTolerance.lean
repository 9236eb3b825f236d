import LlmopsGateway.Model.Faults
import LlmopsGateway.Soundness.Attribution

/-! # What faults a completion survives

Every call of a store is guarded by an `except` clause that names the exceptions it may raise, so the
handler gets an answer from each and goes on as it would with those answers. Only the cost of the
upstream response is left to fail: prices are text or rows that nobody checks, and neither a division
that overflows nor a counter that is asked to count down is guarded.
-/

namespace LlmopsGateway.Faults

open Machine PyText RoutingService

variable {libraries : Libraries} {ν : Type} {services : Services ν} {request : ChatRequest}

/-- The exceptions the stores raise: `RedisError` everywhere on Redis, and `wait_for`'s own timeout around
the exact cache. Qdrant, the embedding model and the database may raise any. -/
structure Expected (services : Services ν) : Prop where
  exactGet : ∀ turn key fault, services.exactGet turn key = .error fault → fault ∈ [.timeout, .redisError]
  lockSet : ∀ key fault, services.lockSet key = .error fault → fault ∈ [Fault.redisError]
  lockDelete : ∀ key fault, services.lockDelete key = .error fault → fault ∈ [Fault.redisError]
  pricingGet : ∀ key fault, services.pricingGet key = .error fault → fault ∈ [Fault.redisError]
  pricingSet : ∀ key value fault, services.pricingSet key value = .error fault → fault ∈ [Fault.redisError]

section answers

variable (libraries services request)

/-- What the exact cache answers at a turn. -/
def exactHit (turn : ℕ) : Option ChatResponse :=
  match services.exactGet turn (cacheKey libraries services request) with
  | .ok (some raw) => (libraries.validateJson raw).map fun response =>
    { response with cacheStatus := .exactHit }
  | _ => none

/-- What the semantic cache answers. -/
def semanticHit : Option ChatResponse :=
  if services.searchTimesOut then none
  else (semanticGetImpl libraries services request).outcome.toOption.join

def lockWon : Bool := (services.lockSet (lockKey libraries services request)).toOption.getD true

def joined : Option ChatResponse :=
  (List.range' 1 services.polls).findSome? (exactHit libraries services request)

def routeFound (query : AdapterQuery) : Option AdapterRoute :=
  if services.hasDatabase then
    (Uuid.parse libraries.decimal query.tenantId.toList).bind fun tenantUuid =>
      (services.resolveWithCanary tenantUuid query).toOption.join
  else none

/-- The request as it is routed. -/
def routed : ChatRequest :=
  GatewayService.applyAdapterRoute { services.base with resolveWithCanary := routeFound libraries services } request

/-- The services as one who never sees them fail. -/
def environment : Environment :=
  { services.base with
    resolveWithCanary := routeFound libraries services
    exactGet := fun request => exactHit libraries services request 0
    semanticGet := semanticHit libraries services
    lockAcquired := lockWon libraries services (routed libraries services request)
    coalesced := joined libraries services (routed libraries services request) }

/-- The prices a lookup comes to. -/
def pricesSeen (model : ModelIdentifier) : Option CostService.Prices :=
  match services.pricingGet (CostService.cacheKey model) with
  | .ok (some cached) => CostService.readEntry libraries.arithmetic.toFloats cached
  | _ => (services.activePrice model).toOption.join.map (CostService.pricesOf libraries.arithmetic.toFloats)

/-- The tokens can be divided by a thousand, and the prices seen do not make them cost less than nothing. -/
def Chargeable (response : ChatResponse) : Prop :=
  ∀ prices ∈ pricesSeen libraries services response.identifier,
    ∃ cost, costOf libraries.arithmetic prices response.usage = some cost ∧ cost.isNegative = false

/-- An entry of one of the caches that the request may be answered with. -/
inductive CacheEntry : ChatResponse → Prop
  | exact {turn : ℕ} {raw : String} {entry : ChatResponse}
      (stored : services.exactGet turn (cacheKey libraries services request) = .ok (some raw))
      (valid : libraries.validateJson raw = some entry) : CacheEntry entry
  | semantic {vector : ν} {best : Point} {points : List Point} {entry : ChatResponse}
      (found : services.queryPoints vector (buildFilter libraries services request) = .ok (best :: points))
      (valid : libraries.validate best.response = some entry) : CacheEntry entry

/-- The handler raises only what `RoutingService.complete` raised, and returns the message of that call or
of a cache entry. -/
def Resilient (handled : Guarded ChatResponse) : Prop :=
  match handled.outcome with
  | .error failure => ∃ error, handled.events = [.error error] ∧ failure = .upstream error ∧
      RoutingService.complete services.base.registry services.base.settings services.base.complete request =
        .error error
  | .ok response =>
    (∃ upstream, handled.events = [.ok upstream] ∧ response.message = upstream.message ∧
      RoutingService.complete services.base.registry services.base.settings services.base.complete request =
        .ok upstream) ∨
    ∃ entry, CacheEntry libraries services request entry ∧ response.message = entry.message

end answers

section guards

variable {α : Type} {reply : Reply α} {value : α}

theorem excepting_call {classes : List Fault} (expected : ∀ fault, reply = .error fault → fault ∈ classes) :
    excepting classes value (call reply) = ⟨[], .ok (reply.toOption.getD value)⟩ := by
  cases reply with
  | ok answer => rfl
  | error fault =>
    have caught : fault ∈ classes := expected fault rfl
    simp [excepting, call, Logged.raise, Except.toOption, caught]

theorem exceptingAll_call : exceptingAll value (call reply) = ⟨[], .ok (reply.toOption.getD value)⟩ := by
  cases reply <;> rfl

end guards

theorem exactCacheGet_eq (expected : Expected services) (turn : ℕ) :
    exactCacheGet libraries services request turn = ⟨[], .ok (exactHit libraries services request turn)⟩ := by
  rw [exactCacheGet, excepting_call fun fault => expected.exactGet turn _ fault]
  unfold exactHit
  cases services.exactGet turn (cacheKey libraries services request) with
  | error fault => rfl
  | ok raw =>
    cases raw with
    | none => rfl
    | some raw =>
      cases validated : libraries.validateJson raw with
      | none => simp [validated, Except.toOption]
      | some response => simp [validated, Except.toOption]

/-- Calls of the semantic cache are not on the log. -/
theorem semanticGetImpl_events (libraries : Libraries) (services : Services ν) (request : ChatRequest) :
    (semanticGetImpl libraries services request).events = [] := by
  unfold semanticGetImpl
  cases services.ensureCollection with
  | error fault => rfl
  | ok created =>
    cases services.embed (normalizePrompt request.canonicalPrompt) with
    | error fault => rfl
    | ok vector =>
      simp only [call, Logged.pure_eq, Logged.bind_ok]
      cases services.queryPoints vector (buildFilter libraries services request) with
      | error fault => rfl
      | ok points =>
        simp only [Logged.bind_ok, List.nil_append]
        split <;> rfl

theorem semanticCacheGet_eq (libraries : Libraries) (services : Services ν) (request : ChatRequest) :
    semanticCacheGet libraries services request = ⟨[], .ok (semanticHit libraries services request)⟩ := by
  unfold semanticCacheGet semanticHit exceptingAll
  have silent := semanticGetImpl_events libraries services request
  split
  · rfl
  · cases ended : semanticGetImpl libraries services request with
    | mk events outcome =>
      rw [ended] at silent
      subst silent
      cases outcome <;> rfl

theorem lookup_eq (expected : Expected services) (original : ChatRequest) : lookup libraries services request =
    ⟨[], (CacheService.lookup
      (environment libraries services original) request).outcome.mapError .upstream⟩ := by
  unfold lookup CacheService.lookup environment
  rw [exactCacheGet_eq expected, semanticCacheGet_eq]
  split
  · rfl
  · simp only [Logged.bind_ok]
    cases exactHit libraries services request 0 with
    | some hit => rfl
    | none =>
      dsimp only
      cases semanticHit libraries services request with
      | some hit => rfl
      | none => rfl

theorem pollFrom_eq (expected : Expected services) (turn left : ℕ) :
    pollFrom libraries services request turn left =
    ⟨[], .ok ((List.range' turn left).findSome? (exactHit libraries services request))⟩ := by
  induction left generalizing turn with
  | zero => rfl
  | succ left ih =>
    rw [pollFrom, exactCacheGet_eq expected, Logged.bind_ok, List.range'_succ, List.findSome?_cons]
    cases exactHit libraries services request turn with
    | some hit => rfl
    | none =>
      rw [ih]
      rfl

theorem getPricing_eq (expected : Expected services) (model : ModelIdentifier) :
    getPricing libraries services model = ⟨[], .ok (pricesSeen libraries services model)⟩ := by
  have answered fault := expected.pricingGet (CostService.cacheKey model) fault
  rw [getPricing, excepting_call answered, Logged.bind_ok, pricesSeen]
  have loaded : loadFromDatabase libraries services model = ⟨[], .ok
      ((services.activePrice model).toOption.join.map
        (CostService.pricesOf libraries.arithmetic.toFloats))⟩ := by
    rw [loadFromDatabase, exceptingAll_call, Logged.bind_ok]
    cases services.activePrice model <;> rfl
  have stored value fault := expected.pricingSet (CostService.cacheKey model) value fault
  cases services.pricingGet (CostService.cacheKey model) with
  | error fault => simp [Except.toOption, loaded, excepting_call (stored _)]
  | ok cached =>
    cases cached with
    | none => simp [Except.toOption, loaded, excepting_call (stored _)]
    | some cached => rfl

theorem calculateCostUsd_eq (expected : Expected services) (model : ModelIdentifier) (usage : TokenUsage) :
    calculateCostUsd libraries services model usage =
      match pricesSeen libraries services model with
      | none => ⟨[], .ok zero⟩
      | some prices =>
        match costOf libraries.arithmetic prices usage with
        | none => ⟨[], .error .overflow⟩
        | some cost => ⟨[], .ok cost⟩ := by
  rw [calculateCostUsd, getPricing_eq expected, Logged.bind_ok]
  cases pricesSeen libraries services model with
  | none => rfl
  | some prices =>
    dsimp only
    cases costOf libraries.arithmetic prices usage <;> rfl

theorem zero_notNegative : zero.isNegative = false := by decide

theorem respond_of_hit {status : CacheStatus} (hit : status = .exactHit ∨ status = .semanticHit)
    (response : ChatResponse) (costUsd : PyFloat) : respond services request response status costUsd =
      ⟨[], .ok (GatewayService.stamp services.base request response status)⟩ := by
  rw [respond, if_pos hit, recordRequestMetrics, zero_notNegative]
  rfl

theorem respond_of_fresh {status : CacheStatus} (fresh : ¬ (status = .exactHit ∨ status = .semanticHit))
    (response : ChatResponse) (costUsd : PyFloat) : respond services request response status costUsd =
      ⟨[], if costUsd.isNegative then .error .negativeIncrement
        else .ok (GatewayService.stamp services.base request response status)⟩ := by
  rw [respond, if_neg fresh, recordRequestMetrics]
  cases costUsd.isNegative <;> rfl

theorem releaseCoalescingLock_eq (expected : Expected services) :
    releaseCoalescingLock libraries services request = ⟨[], .ok ()⟩ :=
  excepting_call fun fault => expected.lockDelete _ fault

theorem acquireCoalescingLock_eq (expected : Expected services) :
    acquireCoalescingLock libraries services request = ⟨[], .ok (lockWon libraries services request)⟩ :=
  excepting_call fun fault => expected.lockSet _ fault

/-- The upstream call as the handler sees it, whoever holds the lock. -/
theorem callUpstream_eq (expected : Expected services) (wonLock : Bool) :
    callUpstream libraries services request wonLock = routeCompletion services request := by
  unfold callUpstream routeCompletion
  rw [releaseCoalescingLock_eq expected]
  cases RoutingService.complete services.base.registry services.base.settings services.base.complete request with
  | ok response => cases wonLock <;> rfl
  | error error => cases wonLock <;> rfl

section upstream

variable {status : CacheStatus} {wonLock : Bool}

theorem routeCompletion_of_ok {response : ChatResponse}
    (served : RoutingService.complete services.base.registry services.base.settings services.base.complete request =
      .ok response) : routeCompletion services request = ⟨[.ok response], .ok response⟩ := by
  rw [routeCompletion, served]
  rfl

theorem completeUpstream_of_error (expected : Expected services) {error : Raised}
    (failed : RoutingService.complete services.base.registry services.base.settings services.base.complete request =
      .error error) :
    completeUpstream libraries services request status wonLock =
      ⟨[.error error], .error (.upstream error)⟩ := by
  rw [completeUpstream, callUpstream_eq expected, routeCompletion, failed]
  rfl

/-- A chargeable response is returned with its message. -/
theorem completeUpstream_of_chargeable (expected : Expected services) (wonLock : Bool) {response : ChatResponse}
    (fresh : ¬ (status = .exactHit ∨ status = .semanticHit))
    (served : RoutingService.complete services.base.registry services.base.settings services.base.complete request =
      .ok response) (chargeable : Chargeable libraries services response) :
    ∃ costUsd, completeUpstream libraries services request status wonLock = ⟨[.ok response],
      .ok (GatewayService.stamp services.base request { response with costUsd } status)⟩ := by
  rw [completeUpstream, callUpstream_eq expected, routeCompletion_of_ok served, Logged.bind_ok,
    calculateCostUsd_eq expected]
  cases seen : pricesSeen libraries services response.identifier with
  | none =>
    refine ⟨libraries.arithmetic.value zero, ?_⟩
    simp [respond_of_fresh fresh, zero_notNegative]
  | some prices =>
    obtain ⟨cost, computed, notNegative⟩ := chargeable prices seen
    refine ⟨libraries.arithmetic.value cost, ?_⟩
    simp [respond_of_fresh fresh, computed, notNegative]

/-- Any other response is lost to an exception of the gateway's own. -/
theorem completeUpstream_of_unchargeable (expected : Expected services) {response : ChatResponse}
    (fresh : ¬ (status = .exactHit ∨ status = .semanticHit))
    (served : RoutingService.complete services.base.registry services.base.settings services.base.complete request =
      .ok response) (unchargeable : ¬ Chargeable libraries services response) :
    ∃ failure, completeUpstream libraries services request status wonLock =
      ⟨[.ok response], .error failure⟩ := by
  rw [completeUpstream, callUpstream_eq expected, routeCompletion_of_ok served, Logged.bind_ok,
    calculateCostUsd_eq expected]
  simp only [Chargeable, Option.mem_def, not_forall, not_exists, not_and, Bool.not_eq_false] at unchargeable
  obtain ⟨prices, seen, costs⟩ := unchargeable
  rw [seen]
  dsimp only
  cases computed : costOf libraries.arithmetic prices response.usage with
  | none => exact ⟨.overflow, rfl⟩
  | some cost =>
    refine ⟨.negativeIncrement, ?_⟩
    simp only [Logged.bind_ok, respond_of_fresh fresh, costs cost computed]
    rfl

theorem completeUpstream_resilient_iff (expected : Expected services)
    (fresh : ¬ (status = .exactHit ∨ status = .semanticHit)) :
    Resilient libraries services request (completeUpstream libraries services request status wonLock) ↔
      ∀ response, RoutingService.complete services.base.registry services.base.settings services.base.complete
        request = .ok response → Chargeable libraries services response := by
  cases called : RoutingService.complete services.base.registry services.base.settings services.base.complete
    request with
  | error error =>
    rw [completeUpstream_of_error expected called]
    refine iff_of_true ⟨error, rfl, rfl, called⟩ fun response same => ?_
    contradiction
  | ok response =>
    by_cases chargeable : Chargeable libraries services response
    · obtain ⟨costUsd, completed⟩ := completeUpstream_of_chargeable expected wonLock fresh called chargeable
      rw [completed]
      refine iff_of_true (.inl ⟨response, rfl, rfl, called⟩) fun other same => ?_
      exact Except.ok.inj same ▸ chargeable
    · obtain ⟨failure, completed⟩ := completeUpstream_of_unchargeable expected fresh called chargeable
      rw [completed]
      refine iff_of_false ?_ fun all => chargeable (all response rfl)
      rintro ⟨error, logged, -⟩
      simp at logged

end upstream

/-- A hit of the exact cache is an entry under the request's key. -/
theorem cacheEntry_of_exactHit {turn : ℕ} {response : ChatResponse}
    (hit : exactHit libraries services request turn = some response) :
    ∃ entry, CacheEntry libraries services request entry ∧ response.message = entry.message := by
  unfold exactHit at hit
  split at hit
  · rename_i raw stored
    obtain ⟨entry, valid, rfl⟩ := Option.map_eq_some_iff.mp hit
    exact ⟨entry, .exact stored valid, rfl⟩
  · contradiction

theorem cacheEntry_of_joined {response : ChatResponse}
    (hit : joined libraries services request = some response) :
    ∃ entry, CacheEntry libraries services request entry ∧ response.message = entry.message := by
  obtain ⟨turn, -, found⟩ := List.exists_of_findSome?_eq_some hit
  exact cacheEntry_of_exactHit found

/-- A hit of the semantic cache is a point under the request's filter. -/
theorem cacheEntry_of_semanticHit {response : ChatResponse}
    (hit : semanticHit libraries services request = some response) :
    ∃ entry, CacheEntry libraries services request entry ∧ response.message = entry.message := by
  unfold semanticHit at hit
  split at hit
  · contradiction
  · unfold semanticGetImpl at hit
    cases created : services.ensureCollection with
    | error fault => simp [created, call, Logged.raise, Except.toOption] at hit
    | ok _ =>
      cases embedded : services.embed (normalizePrompt request.canonicalPrompt) with
      | error fault => simp [created, embedded, call, Logged.raise, Except.toOption] at hit
      | ok vector =>
        cases queried : services.queryPoints vector (buildFilter libraries services request) with
        | error fault => simp [created, embedded, queried, call, Logged.raise, Except.toOption] at hit
        | ok points =>
          cases points with
          | nil => simp [created, embedded, queried, call, Except.toOption] at hit
          | cons best points =>
            have read : readPoint libraries best = some response := by
              simpa [created, embedded, queried, call, Except.toOption] using hit
            unfold readPoint at read
            split at read
            · contradiction
            · obtain ⟨entry, valid, rfl⟩ := Option.map_eq_some_iff.mp read
              exact ⟨entry, .semantic queried valid, rfl⟩

theorem resolveRoute_eq (query : AdapterQuery) :
    resolveRoute libraries services query = ⟨[], .ok (routeFound libraries services query)⟩ := by
  unfold resolveRoute routeFound
  split
  · cases Uuid.parse libraries.decimal query.tenantId.toList with
    | none => rfl
    | some tenantUuid =>
      dsimp only
      rw [exceptingAll_call, Option.bind_some]
      cases services.resolveWithCanary tenantUuid query <;> rfl
  · rfl

theorem applyAdapterRoute_eq : applyAdapterRoute libraries services request =
    ⟨[], .ok (routed libraries services request)⟩ := by
  unfold applyAdapterRoute routed GatewayService.applyAdapterRoute
  split
  · rfl
  · rw [resolveRoute_eq, Logged.bind_ok]
    dsimp only [GatewayService.routingKey]
    cases routeFound libraries services _ <;> rfl

/-- Neither a cache nor the winner of the lock answers the routed request. -/
def Unanswered (libraries : Libraries) (services : Services ν) (request : ChatRequest) : Prop :=
  (routed libraries services request).cacheBypass = true ∨
    Missed (environment libraries services request) (routed libraries services request)

theorem waitForCoalescedResult_eq (expected : Expected services) :
    waitForCoalescedResult libraries services request = ⟨[], .ok (joined libraries services request)⟩ :=
  pollFrom_eq expected 1 services.polls

/-- A handler that any answer of a cache ends is resilient. -/
theorem resilient_hit {status : CacheStatus} {response : ChatResponse}
    (hit : status = .exactHit ∨ status = .semanticHit)
    (entry : ∃ entry, CacheEntry libraries services request entry ∧ response.message = entry.message)
    (costUsd : PyFloat) :
    Resilient libraries services request (respond services request response status costUsd) := by
  rw [respond_of_hit hit]
  exact .inr entry

/-- A miss that wins the lock, or waits in vain, is served upstream. -/
theorem completeMissed_cases (libraries : Libraries) (expected : Expected services) (request : ChatRequest) :
    (∃ response, lockWon libraries services request = false ∧
      joined libraries services request = some response ∧
        completeMissed libraries services request .miss = respond services request response .exactHit zero) ∨
      (lockWon libraries services request = true ∨ joined libraries services request = none) ∧
        completeMissed libraries services request .miss =
          completeUpstream libraries services request .miss (lockWon libraries services request) := by
  rw [completeMissed, acquireCoalescingLock_eq expected, Logged.bind_ok]
  cases won : lockWon libraries services request with
  | true => exact .inr ⟨.inl rfl, rfl⟩
  | false =>
    rw [if_neg Bool.false_ne_true, waitForCoalescedResult_eq expected, Logged.bind_ok]
    cases found : joined libraries services request with
    | none => exact .inr ⟨.inr rfl, rfl⟩
    | some response => exact .inl ⟨response, rfl, rfl, rfl⟩

theorem missed_resilient_iff (expected : Expected services) :
    Resilient libraries services request (completeMissed libraries services request .miss) ↔
      (lockWon libraries services request = true ∨ joined libraries services request = none → ∀ response,
        RoutingService.complete services.base.registry services.base.settings services.base.complete request =
          .ok response → Chargeable libraries services response) := by
  rcases completeMissed_cases libraries expected request with
    ⟨response, lost, found, joins⟩ | ⟨alone, calls⟩
  · rw [joins]
    refine iff_of_true (resilient_hit (.inl rfl) (cacheEntry_of_joined found) zero) fun alone => ?_
    rcases alone with won | none
    · exact absurd (won.symm.trans lost) nofun
    · exact absurd (none.symm.trans found) nofun
  · rw [calls, completeUpstream_resilient_iff expected (by decide)]
    exact ⟨fun chargeable _ => chargeable, fun chargeable => chargeable alone⟩

theorem handleChatCompletion_resilient_iff (expected : Expected services) :
    Resilient libraries services (routed libraries services request)
      (handleChatCompletion libraries services request) ↔
      (Unanswered libraries services request → ∀ response,
        RoutingService.complete services.base.registry services.base.settings services.base.complete
          (routed libraries services request) = .ok response → Chargeable libraries services response) := by
  rw [handleChatCompletion, applyAdapterRoute_eq, Logged.bind_ok, lookup_eq expected request]
  rcases CacheService.lookup_cases (environment libraries services request)
    (routed libraries services request) with
    ⟨bypass, bypassed⟩ | ⟨notBypassed, ⟨hit, found, exact⟩ | ⟨hit, found, semantic⟩ | ⟨unhit, unhit', missed⟩⟩
  · rw [bypassed]
    exact (completeUpstream_resilient_iff expected (by decide)).trans
      ⟨fun chargeable _ => chargeable, fun chargeable => chargeable (.inl bypass)⟩
  · rw [exact]
    refine iff_of_true (resilient_hit (.inl rfl) (cacheEntry_of_exactHit found) zero) fun unanswered => ?_
    rcases unanswered with bypass | missed
    · exact absurd (bypass.symm.trans notBypassed) nofun
    · exact absurd (missed.exact.symm.trans found) nofun
  · rw [semantic]
    refine iff_of_true (resilient_hit (.inr rfl) (cacheEntry_of_semanticHit found) zero) fun unanswered => ?_
    rcases unanswered with bypass | missed
    · exact absurd (bypass.symm.trans notBypassed) nofun
    · exact absurd (missed.semantic.symm.trans found) nofun
  · rw [missed]
    refine (missed_resilient_iff expected).trans ⟨fun chargeable unanswered => ?_, fun chargeable alone => ?_⟩
    · rcases unanswered with bypass | missed
      · exact absurd (bypass.symm.trans notBypassed) nofun
      · exact chargeable missed.notJoined
    · exact chargeable (.inr ⟨notBypassed, unhit, unhit', alone⟩)

section outage

/-- The floats of 10 and 20 tokens at a price of minus one dollar. -/
def sampleArithmetic : Arithmetic where
  ofDecimal _ := zero
  parse text := if text = "-1" then some { text := "-1.0" } else none
  value float := if float.text = "-0.03" then -3 / 100 else 0
  perThousand tokens :=
    if tokens = 10 then some { text := "0.01" } else if tokens = 20 then some { text := "0.02" } else none
  mul factor _ := if factor.text = "0.01" then { text := "-0.01" } else { text := "-0.02" }
  add _ _ := { text := "-0.03" }

def sampleLibraries : Libraries where
  sha256 := id
  isPrintable _ := true
  decimal _ := none
  validateJson _ := none
  validate _ := none
  arithmetic := sampleArithmetic

/-- Everything but the upstream fails. -/
def outageServices : Services Unit where
  base := GatewayService.outageEnv false
  resolveWithCanary _ _ := .error .other
  exactGet _ _ := .error .timeout
  ensureCollection := .error .other
  embed _ := .error .other
  queryPoints _ _ := .error .other
  lockSet _ := .error .redisError
  polls := 0
  lockDelete _ := .error .redisError
  pricingGet _ := .error .redisError
  activePrice _ := .error .other
  pricingSet _ _ := .error .redisError

theorem expected_outage : Expected outageServices where
  exactGet _ _ _ same := Except.error.inj same ▸ by decide
  lockSet _ _ same := Except.error.inj same ▸ by decide
  lockDelete _ _ same := Except.error.inj same ▸ by decide
  pricingGet _ _ same := Except.error.inj same ▸ by decide
  pricingSet _ _ _ same := Except.error.inj same ▸ by decide

/-- The request is answered all the same. -/
theorem resilient_outage : Resilient sampleLibraries outageServices
    (routed sampleLibraries outageServices gptRequest)
    (handleChatCompletion sampleLibraries outageServices gptRequest) :=
  (handleChatCompletion_resilient_iff expected_outage).mpr fun _ _ _ _ seen => nomatch seen

/-- Only the cached price is off. -/
def negativeServices : Services Unit := { outageServices with pricingGet := fun _ => .ok (some "-1,-1") }

/-- The upstream answers, and the request fails. -/
theorem not_resilient_negative : Expected negativeServices ∧
    ¬ Resilient sampleLibraries negativeServices (routed sampleLibraries negativeServices gptRequest)
      (handleChatCompletion sampleLibraries negativeServices gptRequest) := by
  have failed : (handleChatCompletion sampleLibraries negativeServices gptRequest).outcome =
      .error .negativeIncrement := by decide +kernel
  refine ⟨{ expected_outage with pricingGet := nofun }, fun resilient => ?_⟩
  rw [Resilient, failed] at resilient
  obtain ⟨error, -, same, -⟩ := resilient
  contradiction

end outage

/-- What the caller reads of an outcome. -/
def message {ε : Type} (outcome : Except ε ChatResponse) : Except ε ChatMessage :=
  outcome.map ChatResponse.message

theorem completeUpstream_refines (expected : Expected services) (pricing : Pricing) {env : Environment}
    (same : RoutingService.complete env.registry env.settings env.complete request =
      RoutingService.complete services.base.registry services.base.settings services.base.complete request)
    {status : CacheStatus} (fresh : ¬ (status = .exactHit ∨ status = .semanticHit)) (wonLock : Bool)
    (chargeable : ∀ response, RoutingService.complete services.base.registry services.base.settings
      services.base.complete request = .ok response → Chargeable libraries services response) :
    message (completeUpstream libraries services request status wonLock).outcome =
      (message (GatewayService.completeUpstream pricing env request status wonLock).outcome).mapError .upstream := by
  cases called : RoutingService.complete services.base.registry services.base.settings services.base.complete
    request with
  | error error =>
    rw [completeUpstream_of_error expected called,
      GatewayService.completeUpstream_of_error status wonLock (same.trans called)]
    rfl
  | ok response =>
    obtain ⟨costUsd, completed⟩ :=
      completeUpstream_of_chargeable expected wonLock fresh called (chargeable response called)
    rw [completed, GatewayService.completeUpstream_of_ok status wonLock (same.trans called)]
    rfl

theorem completeMissed_refines (expected : Expected services) (pricing : Pricing)
    (chargeable : lockWon libraries services (routed libraries services request) = true ∨
      joined libraries services (routed libraries services request) = none → ∀ response,
        RoutingService.complete services.base.registry services.base.settings services.base.complete
          (routed libraries services request) = .ok response → Chargeable libraries services response) :
    message (completeMissed libraries services (routed libraries services request) .miss).outcome =
      (message (GatewayService.completeMissed pricing (environment libraries services request)
        (routed libraries services request) .miss).outcome).mapError .upstream := by
  rcases completeMissed_cases libraries expected (routed libraries services request) with
    ⟨response, lost, found, joins⟩ | ⟨alone, calls⟩
  · rw [joins, respond_of_hit (.inl rfl)]
    rcases GatewayService.completeMissed_cases pricing (environment libraries services request)
      (routed libraries services request) with ⟨other, -, again, joined⟩ | ⟨apart, -⟩
    · obtain rfl := Option.some.inj (found.symm.trans again)
      rw [joined]
      rfl
    · rcases apart with won | none
      · exact absurd (won.symm.trans lost) nofun
      · exact absurd (none.symm.trans found) nofun
  · rw [calls]
    rcases GatewayService.completeMissed_cases pricing (environment libraries services request)
      (routed libraries services request) with ⟨other, lost, found, -⟩ | ⟨-, called⟩
    · rcases alone with won | none
      · exact absurd (won.symm.trans lost) nofun
      · exact absurd (none.symm.trans found) nofun
    · rw [called]
      exact completeUpstream_refines expected pricing rfl (by decide) _ (chargeable alone)

/-- Whatever fails, the caller gets what the handler would answer if each service had given its answer. -/
theorem handleChatCompletion_refines (expected : Expected services) (pricing : Pricing)
    (chargeable : Unanswered libraries services request → ∀ response,
      RoutingService.complete services.base.registry services.base.settings services.base.complete
        (routed libraries services request) = .ok response → Chargeable libraries services response) :
    message (handleChatCompletion libraries services request).outcome =
      (message (GatewayService.handleChatCompletion pricing (environment libraries services request)
        request).outcome).mapError .upstream := by
  have route : GatewayService.applyAdapterRoute (environment libraries services request) request =
      routed libraries services request := rfl
  rw [handleChatCompletion, applyAdapterRoute_eq, Logged.bind_ok, lookup_eq expected request]
  rcases CacheService.lookup_cases (environment libraries services request)
    (routed libraries services request) with
    ⟨bypass, bypassed⟩ | ⟨notBypassed, ⟨hit, found, exact⟩ | ⟨hit, found, semantic⟩ | ⟨unhit, unhit', missed⟩⟩
  · rw [bypassed, GatewayService.handleChatCompletion_of_bypassed (route ▸ bypassed)]
    exact completeUpstream_refines expected pricing rfl (by decide) false (chargeable (.inl bypass))
  · rw [exact, GatewayService.handleChatCompletion_of_hit (route ▸ exact)]
    simp only [Except.mapError, Logged.bind_ok, List.nil_append, respond_of_hit (.inl rfl)]
    rfl
  · rw [semantic, GatewayService.handleChatCompletion_of_hit (route ▸ semantic)]
    simp only [Except.mapError, Logged.bind_ok, List.nil_append, respond_of_hit (.inr rfl)]
    rfl
  · rw [missed, GatewayService.handleChatCompletion_of_missed (route ▸ missed), route]
    exact completeMissed_refines expected pricing fun alone =>
      chargeable (.inr ⟨notBypassed, unhit, unhit', alone⟩)

end LlmopsGateway.Faults
