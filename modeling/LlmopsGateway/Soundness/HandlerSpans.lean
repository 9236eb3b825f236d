import LlmopsGateway.Model.TracedGateway
import LlmopsGateway.Soundness.HandlerRuns
import LlmopsGateway.Soundness.JsonRoundTrip
import LlmopsGateway.Soundness.SpanForest

/-! # The spans of a request

Without their notes the traced handlers are the handlers, so the spans change nothing about a request. What the
notes make of the trace follows the request: the lookup, and after a miss the upstream call and the price. A
request that is finalized has left all its blocks, and the metadata of its spans say what its audit entry says.
-/

namespace LlmopsGateway

open Machine Logged

namespace TracedGateway

variable (floats : CostFloats) (pricing : Pricing) (env : Environment) (request : ChatRequest)

section erase

theorem erase_annotate_bind {α : Type} (place : ℕ) (key : String) (value : Json)
    (next : Unit → TracedHandler α) :
    erase (annotate place key value >>= next) = erase (next ()) := rfl

@[simp] theorem erase_span {α : Type} (name : String) (body : TracedHandler α) :
    erase (span name body) = erase body :=
  erase_bracket body _ _

theorem erase_lookup : erase (lookup env request) = CacheService.lookup env request := by
  rw [lookup, erase_bind, erase_span, erase_lift]
  refine Eq.trans (congrArg _ (funext fun found => ?_)) (bind_pure_eq _)
  dsimp only
  rw [erase_annotate_bind]
  split <;> rfl

theorem erase_routeCompletion :
    erase (routeCompletion env request) = GatewayService.routeCompletion env request := by
  rw [routeCompletion, erase_span, erase_bind, erase_lift]
  exact bind_pure_eq _

theorem erase_price (model : ModelIdentifier) (usage : TokenUsage) :
    erase (price floats pricing model usage) = GatewayService.price pricing model usage := by
  rw [price, erase_span, erase_bind, erase_lift]
  exact bind_pure_eq _

theorem erase_completeUpstream (status : CacheStatus) (wonLock : Bool) :
    erase (completeUpstream floats pricing env request status wonLock) =
      GatewayService.completeUpstream pricing env request status wonLock := by
  rw [completeUpstream, erase_bind, erase_ensuring, erase_routeCompletion]
  refine congrArg _ (funext fun response => ?_)
  rw [erase_bind, erase_price]
  refine congrArg _ (funext fun costUsd => ?_)
  dsimp only
  split
  · rw [erase_bind, erase_lift]
    refine congrArg _ (funext fun _ => ?_)
    exact erase_lift _
  · exact erase_lift _

theorem erase_completeMissed (status : CacheStatus) :
    erase (completeMissed floats pricing env request status) =
      GatewayService.completeMissed pricing env request status := by
  rw [completeMissed, GatewayService.completeMissed, erase_bind, erase_lift]
  refine congrArg _ (funext fun _ => ?_)
  cases env.lockAcquired with
  | true => exact erase_completeUpstream floats pricing env request status true
  | false =>
    cases env.coalesced with
    | some response => exact erase_lift _
    | none => exact erase_completeUpstream floats pricing env request status false

theorem erase_handleChatCompletion :
    erase (handleChatCompletion floats pricing env request) =
      GatewayService.handleChatCompletion pricing env request := by
  rw [handleChatCompletion, erase_bind, erase_lookup]
  refine congrArg _ (funext fun (cached, status) => ?_)
  cases cached with
  | some response => exact erase_lift _
  | none =>
    dsimp only
    split
    · exact erase_completeUpstream floats pricing env _ status false
    · exact erase_completeMissed floats pricing env _ status

theorem erase_routeStream : erase (routeStream env request) = GatewayService.routeStream env request := by
  rw [routeStream, erase_span, erase_bind, erase_lift]
  exact bind_pure_eq _

theorem erase_finishStream (status : CacheStatus) (chunks : List String)
    (selection : Option (Provider × ChatRequest)) :
    erase (finishStream floats pricing env request status chunks selection) =
      GatewayService.finishStream pricing env request status chunks selection := by
  rw [finishStream, erase_bind, erase_lift]
  refine congrArg _ (funext fun (usage, provider) => ?_)
  dsimp only
  rw [erase_bind, erase_price]
  refine congrArg _ (funext fun costUsd => ?_)
  rw [erase_bind, erase_lift]
  refine congrArg _ (funext fun _ => ?_)
  rw [erase_bind, erase_lift]
  refine congrArg _ (funext fun _ => ?_)
  exact erase_lift _

theorem erase_handleChatCompletionStream :
    erase (handleChatCompletionStream floats pricing env request) =
      GatewayService.handleChatCompletionStream pricing env request := by
  rw [handleChatCompletionStream, erase_bind, erase_lookup]
  refine congrArg _ (funext fun (cached, status) => ?_)
  cases cached with
  | some response => exact erase_lift _
  | none =>
    dsimp only
    rw [erase_bind, erase_routeStream]
    refine congrArg _ (funext fun (chunks, selection) => ?_)
    dsimp only
    split
    · rfl
    · exact erase_finishStream floats pricing env _ status chunks selection

/-- The spans of a request change nothing about what its handler does to the other services, nor how it ends. -/
theorem erase_handle (visit : Visit) : erase (handle floats pricing visit) = visit.handle pricing := by
  rw [handle, Visit.handle]
  split
  · exact erase_handleChatCompletionStream floats pricing visit.env visit.request
  · rw [erase_bind, erase_handleChatCompletion]
    rfl

end erase

section spans

/-- The name and the metadata of a span. -/
abbrev Outline := String × List (String × Json)

def outline (span : TraceSpan) : Outline := (span.spanName, span.metadata)

/-- The metadata of the span of the lookup. -/
def lookupMetadata (request : ChatRequest) (status : CacheStatus) : List (String × Json) :=
  ("cache_status", .str status.value) ::
    if GatewayService.truthy request.adapterId then [("adapter_id", .str (request.adapterId.getD ""))] else []

def annotations (place : ℕ) (metadata : List (String × Json)) : List TracingService.Label :=
  metadata.map fun (key, value) => .annotate place key value

def lookupLabels (request : ChatRequest) (status : CacheStatus) : List TracingService.Label :=
  .enter "cache_lookup" none :: .leave :: annotations 0 (lookupMetadata request status)

/-- Blocks one after the other, each with the metadata of its own span. -/
def blockLabels : ℕ → List Outline → List TracingService.Label
  | _, [] => []
  | place, (name, metadata) :: blocks =>
    .enter name none :: (annotations place metadata ++ [.leave]) ++ blockLabels (place + 1) blocks

/-- No block is open, and these are the spans. -/
structure Outlined (state : TracingService.State) (outlines : List Outline) : Prop where
  blocks : state.blocks = []
  spans : state.spans.map outline = outlines
  ended : ∀ span ∈ state.spans, span.endedAt ≠ none

variable {floats} {pricing} {env} {request} {traceId : String} {now : ℕ → ℤ} {state : TracingService.State}
  {outlines : List Outline}

/-- A span with further metadata. -/
def described (metadata : List (String × Json)) (span : TraceSpan) : TraceSpan :=
  { span with metadata := metadata.foldl JsonText.insert span.metadata }

theorem run_annotations (place : ℕ) (metadata : List (String × Json)) (state : TracingService.State) :
    run? (TracingService.step traceId now) state (annotations place metadata) =
      some { state with spans := state.spans.modify place (described metadata) } := by
  induction metadata generalizing state with
  | nil =>
    have same : described [] = id := rfl
    rw [same, List.modify_id]
    rfl
  | cons field metadata ih =>
    refine run?_cons_iff.mpr ⟨_, rfl, (ih _).trans (congrArg some ?_)⟩
    simp only [List.modify_modify_eq]
    rfl

theorem modify_last {α : Type} (items : List α) (last : α) (change : α → α) :
    (items ++ [last]).modify items.length change = items ++ [change last] :=
  List.modifyTailIdx_add (List.modifyHead change) 0 items [last]

/-- A block adds its span. -/
theorem Outlined.block (outlined : Outlined state outlines) (name : String) (metadata : List (String × Json)) :
    ∃ next, run? (TracingService.step traceId now) state
        (.enter name none :: (annotations outlines.length metadata ++ [.leave])) = some next ∧
      Outlined next (outlines ++ [(name, JsonText.dict metadata)]) := by
  obtain ⟨closed, rfl, ended⟩ := outlined
  refine ⟨⟨state.spans ++ [TraceSpan.finish (now (state.readings + 1))
    (described metadata (TracingService.opened traceId now state name none))], state.blocks,
      state.readings + 2⟩, ?_, closed, ?_, ?_⟩
  · refine run?_cons_iff.mpr ⟨_, rfl, run?_concat_iff.mpr ⟨_, run_annotations _ _ _, ?_⟩⟩
    rw [TracingService.step, List.length_map]
    simp only [modify_last]
  · rw [List.map_append]
    rfl
  · refine List.forall_mem_append.mpr ⟨ended, List.forall_mem_singleton.mpr ?_⟩
    exact Option.some_ne_none _

theorem Outlined.blocks_run {blocks : List Outline} (distinct : ∀ block ∈ blocks, (block.2.map Prod.fst).Nodup)
    (outlined : Outlined state outlines) :
    ∃ next, run? (TracingService.step traceId now) state (blockLabels outlines.length blocks) = some next ∧
      Outlined next (outlines ++ blocks) := by
  induction blocks generalizing state outlines with
  | nil => exact ⟨state, rfl, by rwa [List.append_nil]⟩
  | cons block blocks ih =>
    obtain ⟨name, metadata⟩ := block
    obtain ⟨here, later⟩ := List.forall_mem_cons.mp distinct
    obtain ⟨middle, ran, outlined⟩ := outlined.block name metadata
    rw [JsonText.dict_of_nodup here] at outlined
    obtain ⟨next, rest, outlined⟩ := ih later outlined
    rw [List.length_append] at rest
    rw [List.append_assoc] at outlined
    exact ⟨next, run?_append_iff.mpr ⟨middle, ran, rest⟩, outlined⟩

theorem lookup_run (request : ChatRequest) (status : CacheStatus) :
    ∃ next, run? (TracingService.step traceId now) {} (lookupLabels request status) = some next ∧
      Outlined next [("cache_lookup", lookupMetadata request status)] := by
  have distinct : ((lookupMetadata request status).map Prod.fst).Nodup := by
    rw [lookupMetadata]
    split <;> simp
  refine ⟨_, run?_cons_iff.mpr ⟨_, rfl, run?_cons_iff.mpr ⟨_, rfl, run_annotations _ _ _⟩⟩, rfl, ?_, ?_⟩
  · exact congrArg (fun metadata => [("cache_lookup", metadata)]) (JsonText.dict_of_nodup distinct)
  · exact List.forall_mem_singleton.mpr (Option.some_ne_none _)

end spans

section told

/-- What the blocks after the lookup say of the entry a request is finalized with, where the lookup ended with a
status. A result that was waited for is a hit though the lookup missed. -/
inductive Recounts (floats : CostFloats) (entry : AuditEntry) : CacheStatus → List Outline → Prop
  | hit (free : entry.response.cacheStatus = .exactHit ∨ entry.response.cacheStatus = .semanticHit) :
      Recounts floats entry entry.response.cacheStatus []
  | joined (route : entry.route = .chatCompletions) (free : entry.response.cacheStatus = .exactHit) :
      Recounts floats entry .miss []
  | completed (route : entry.route = .chatCompletions)
      (unhit : entry.response.cacheStatus = .miss ∨ entry.response.cacheStatus = .bypassed) :
      Recounts floats entry entry.response.cacheStatus
        [("upstream_call", [("provider", .str entry.response.provider), ("model", .str entry.response.model)]),
          ("cost_calculation", [("cost_usd", floats.json entry.response.costUsd)])]
  | streamed (route : entry.route = .chatCompletionsStream) (missed : entry.response.cacheStatus = .miss) :
      Recounts floats entry .miss
        [("upstream_call", [("provider", .str entry.response.provider)]),
          ("cost_calculation", [("cost_usd", floats.json entry.response.costUsd)])]

def IsFinalized (event : Event) : Prop := ∃ entry, event = .finalized entry

/-- After some blocks the rest of a handler enters more, and together they say of the entry what `Recounts`
says. -/
def Tells {α : Type} (floats : CostFloats) (request : ChatRequest) (status : CacheStatus)
    (earlier : List Outline)
    (body : TracedHandler α) : Prop :=
  ∃ (blocks : List Outline) (ending : Option Event),
    Accounts IsFinalized body (blockLabels (earlier.length + 1) blocks) ending ∧
      (∀ block ∈ blocks, (block.2.map Prod.fst).Nodup) ∧
      ∀ entry, ending = some (.finalized entry) →
        entry.request = request ∧ Recounts floats entry status (earlier ++ blocks)

variable {floats} {pricing} {env} {request} {status : CacheStatus} {earlier : List Outline}

/-- The lookup ends as it does without its span, and its labels are known. -/
theorem accounts_lookup {events : List Event} {cached : Option ChatResponse}
    (looked : CacheService.lookup env request = ⟨events, .ok (cached, status)⟩)
    (quiet : ∀ event ∈ events, ¬ IsFinalized event) :
    Accounts IsFinalized (lookup env request) (lookupLabels request status) none ∧
      (lookup env request).outcome = .ok (cached, status) := by
  have found : Accounts IsFinalized (span "cache_lookup" (lift (CacheService.lookup env request)))
      [.enter "cache_lookup" none, .leave] none := by
    refine Accounts.bracket (accounts_lift events ?_ quiet) _ _
    rw [looked]
    exact (List.append_nil _).symm
  have returned : (span "cache_lookup" (lift (CacheService.lookup env request)) :
      TracedHandler (Option ChatResponse × CacheStatus)).outcome = .ok (cached, status) :=
    congrArg Logged.outcome looked
  have annotated : Accounts IsFinalized (lookup env request) (lookupLabels request status) none := by
    refine found.bind returned ?_
    dsimp only
    refine (accounts_note _).bind rfl ?_
    split
    · exact (accounts_note _).bind rfl (accounts_pure _)
    · exact accounts_pure _
  have outcome := congrArg Logged.outcome ((erase_lookup env request).trans looked)
  exact ⟨annotated, outcome⟩

theorem tells_lift {α : Type} {plain : Handler α} (front : List Event) {entry : AuditEntry}
    (logged : plain.events = front ++ [.finalized entry]) (quiet : ∀ event ∈ front, ¬ IsFinalized event)
    (asked : entry.request = request) (recounts : Recounts floats entry status earlier) :
    Tells floats request status earlier (lift plain : TracedHandler α) := by
  refine ⟨[], some (.finalized entry), accounts_lift front logged quiet, List.forall_mem_nil _,
    fun other same => ?_⟩
  obtain rfl := Event.finalized.inj (Option.some.inj same)
  rw [List.append_nil]
  exact ⟨asked, recounts⟩

/-- What only logs may come before. -/
theorem Tells.after {α β : Type} {body : TracedHandler α} {value : α} {next : α → TracedHandler β}
    (quiet : Accounts IsFinalized body [] none) (returned : body.outcome = .ok value)
    (tells : Tells floats request status earlier (next value)) :
    Tells floats request status earlier (body >>= next) := by
  obtain ⟨blocks, ending, accounts, distinct, recounts⟩ := tells
  exact ⟨blocks, ending, quiet.bind returned accounts, distinct, recounts⟩

/-- One more block. -/
theorem Tells.block {α β : Type} {body : TracedHandler α} {value : α} {next : α → TracedHandler β}
    (block : Outline)
    (entered : Accounts IsFinalized body (blockLabels (earlier.length + 1) [block]) none)
    (returned : body.outcome = .ok value) (here : (block.2.map Prod.fst).Nodup)
    (tells : Tells floats request status (earlier ++ [block]) (next value)) :
    Tells floats request status earlier (body >>= next) := by
  obtain ⟨blocks, ending, accounts, distinct, recounts⟩ := tells
  have labels : blockLabels (earlier.length + 1) (block :: blocks) =
      blockLabels (earlier.length + 1) [block] ++ blockLabels ((earlier ++ [block]).length + 1) blocks := by
    rw [List.length_append, blockLabels, blockLabels, blockLabels, List.append_nil]
    rfl
  refine ⟨block :: blocks, ending, ?_, List.forall_mem_cons.mpr ⟨here, distinct⟩, fun entry same => ?_⟩
  · rw [labels]
    exact entered.bind returned accounts
  · rw [List.append_cons]
    exact recounts entry same

/-- Blocks that are the last ones, since their bodies raised. -/
theorem tells_of_error {α β : Type} {body : TracedHandler α} (error : Raised) (blocks : List Outline)
    (entered : Accounts IsFinalized body (blockLabels (earlier.length + 1) blocks) none)
    (raised : body.outcome = .error error) (distinct : ∀ block ∈ blocks, (block.2.map Prod.fst).Nodup)
    (next : α → TracedHandler β) : Tells floats request status earlier (body >>= next) :=
  ⟨blocks, none, entered.bind_of_error raised next, distinct, fun _ same => nomatch same⟩

/-- A block that annotates its own span. -/
theorem accounts_block {α : Type} {body : TracedHandler α} {place : ℕ} {metadata : List (String × Json)}
    (name : String) (accounts : Accounts IsFinalized body (annotations place metadata) none) :
    Accounts IsFinalized (span name body) (blockLabels place [(name, metadata)]) none := by
  rw [blockLabels, blockLabels, List.append_nil]
  exact accounts.bracket _ _

theorem accounts_price (floats : CostFloats) (pricing : Pricing) (model : ModelIdentifier)
    (usage : TokenUsage) :
    Accounts IsFinalized (price floats pricing model usage)
      (blockLabels 2 [("cost_calculation", [("cost_usd", floats.json (calculateCostUsd pricing model usage))])])
        none := by
  have priced :
      Accounts IsFinalized (lift (GatewayService.price pricing model usage) : TracedHandler ℚ) [] none := by
    refine accounts_lift [.priced model usage] rfl (List.forall_mem_singleton.mpr ?_)
    rintro ⟨_, same⟩
    cases same
  refine accounts_block _ (priced.bind rfl ?_)
  exact (accounts_note _).bind rfl (accounts_pure _)

theorem accounts_routeCompletion_of_error {error : Raised}
    (failed : RoutingService.complete env.registry env.settings env.complete request = .error error) :
    Accounts IsFinalized (routeCompletion env request) (blockLabels 1 [("upstream_call", [])]) none ∧
      (routeCompletion env request).outcome = .error error := by
  have plain : GatewayService.routeCompletion env request = raise error := by
    rw [GatewayService.routeCompletion, failed]
  have ends : (lift (GatewayService.routeCompletion env request) : TracedHandler ChatResponse).outcome =
      .error error := by
    rw [plain]
    rfl
  have raised : Accounts IsFinalized (lift (GatewayService.routeCompletion env request) :
      TracedHandler ChatResponse) [] none :=
    accounts_lift [] (by rw [plain]; rfl) (List.forall_mem_nil _)
  exact ⟨accounts_block _ (raised.bind_of_error ends _),
    (congrArg Logged.outcome (erase_routeCompletion env request)).trans ends⟩

theorem accounts_routeCompletion_of_ok {response : ChatResponse}
    (served : RoutingService.complete env.registry env.settings env.complete request = .ok response) :
    Accounts IsFinalized (routeCompletion env request) (blockLabels 1
        [("upstream_call", [("provider", .str response.provider), ("model", .str response.model)])]) none ∧
      (routeCompletion env request).outcome = .ok response := by
  have plain : GatewayService.routeCompletion env request =
      ⟨[.completed response.identifier response.usage], .ok response⟩ := by
    rw [GatewayService.routeCompletion, served]
    rfl
  have ends : (lift (GatewayService.routeCompletion env request) : TracedHandler ChatResponse).outcome =
      .ok response := by
    rw [plain]
    rfl
  have completed : Accounts IsFinalized (lift (GatewayService.routeCompletion env request) :
      TracedHandler ChatResponse) [] none :=
    accounts_lift [.completed response.identifier response.usage] (by rw [plain]; rfl)
      (by simp [IsFinalized])
  refine ⟨accounts_block _ (completed.bind ends ?_),
    (congrArg Logged.outcome (erase_routeCompletion env request)).trans ends⟩
  exact (accounts_note _).bind rfl ((accounts_note _).bind rfl (accounts_pure _))

theorem tells_completeUpstream (unhit : status = .miss ∨ status = .bypassed) (wonLock : Bool) :
    Tells floats request status [] (completeUpstream floats pricing env request status wonLock) := by
  have released : ∀ event ∈ if wonLock then [Event.lockReleased] else [], ¬ IsFinalized event := by
    cases wonLock <;> simp [IsFinalized]
  cases served : RoutingService.complete env.registry env.settings env.complete request with
  | error error =>
    obtain ⟨called, failed⟩ := accounts_routeCompletion_of_error served
    refine tells_of_error error [("upstream_call", [])] ?_ ?_ (List.forall_mem_singleton.mpr List.nodup_nil) _
    · exact called.ensuring released
    · exact failed
  | ok response =>
    obtain ⟨called, returned⟩ := accounts_routeCompletion_of_ok served
    have ensured := called.ensuring released
    have priced := accounts_price floats pricing response.identifier response.usage
    refine Tells.block _ ensured returned (by simp) ?_
    refine Tells.block _ priced rfl (List.nodup_singleton _) ?_
    dsimp only
    have responds : Tells floats request status [("upstream_call", [("provider", .str response.provider),
        ("model", .str response.model)]), ("cost_calculation", [("cost_usd",
          floats.json (calculateCostUsd pricing response.identifier response.usage))])]
        (lift (GatewayService.respond env request (GatewayService.costed pricing response) status) :
          TracedHandler ChatResponse) := by
      refine tells_lift [] rfl (List.forall_mem_nil _) rfl ?_
      rcases unhit with rfl | rfl
      · exact .completed rfl (.inl rfl)
      · exact .completed rfl (.inr rfl)
    split
    · exact responds.after (accounts_lift [.backfilled _ _] rfl (by simp [IsFinalized])) rfl
    · exact responds

theorem tells_completeMissed :
    Tells floats request .miss [] (completeMissed floats pricing env request .miss) := by
  refine Tells.after (accounts_lift [.lockTried env.lockAcquired] rfl (by simp [IsFinalized])) rfl ?_
  split
  · exact tells_completeUpstream (.inl rfl) true
  · split
    · exact tells_lift [] rfl (List.forall_mem_nil _) rfl (.joined rfl rfl)
    · exact tells_completeUpstream (.inl rfl) false

/-- The provider that the callback captured. -/
def capturedName (selection : Option (Provider × ChatRequest)) : String :=
  selection.elim "unknown" fun (provider, _) => provider.name

theorem attributed_cases (env : Environment) (chunks : List String)
    (selection : Option (Provider × ChatRequest)) :
    (∃ usage, GatewayService.attributed env chunks selection = ⟨[], .ok (usage, capturedName selection)⟩) ∨
      GatewayService.attributed env chunks selection = raise .library := by
  cases selection with
  | none => exact .inl ⟨_, rfl⟩
  | some selected =>
    rw [GatewayService.attributed]
    split
    · exact .inl ⟨_, rfl⟩
    · exact .inr rfl

theorem accounts_routeStream (env : Environment) (request : ChatRequest) :
    (∃ error, Accounts IsFinalized (routeStream env request) (blockLabels 1 [("upstream_call", [])]) none ∧
        (routeStream env request).outcome = .error error) ∨
      ∃ chunks selection,
        Accounts IsFinalized (routeStream env request)
          (blockLabels 1 [("upstream_call", [("provider", .str (capturedName selection))])]) none ∧
        (routeStream env request).outcome = .ok (chunks, selection) := by
  have plain : Accounts IsFinalized (lift (GatewayService.routeStream env request) :
      TracedHandler (List String × Option (Provider × ChatRequest))) [] none := by
    refine accounts_lift _ (List.append_nil _).symm fun event member => ?_
    rcases List.mem_append.mp member with streamed | ended
    · obtain ⟨_, -, rfl⟩ := List.mem_map.mp streamed
      simp [IsFinalized]
    · obtain ⟨_, -, rfl⟩ := Option.map_eq_some_iff.mp (Option.mem_toList.mp ended)
      simp [IsFinalized]
  have outcome := congrArg Logged.outcome (erase_routeStream env request)
  cases ends : (GatewayService.routeStream env request).outcome with
  | error error =>
    exact .inl ⟨error, accounts_block _ (plain.bind_of_error ends _), outcome.trans ends⟩
  | ok served =>
    obtain ⟨chunks, selection⟩ := served
    refine .inr ⟨chunks, selection, accounts_block _ (plain.bind ends ?_), outcome.trans ends⟩
    exact (accounts_note _).bind rfl (accounts_pure _)

theorem tells_finishStream (chunks : List String) (selection : Option (Provider × ChatRequest)) :
    Tells floats request .miss [("upstream_call", [("provider", .str (capturedName selection))])]
      (finishStream floats pricing env request .miss chunks selection) := by
  rcases attributed_cases env chunks selection with ⟨usage, captured⟩ | raised
  · have plain : Accounts IsFinalized (lift (GatewayService.attributed env chunks selection) :
        TracedHandler (TokenUsage × String)) [] none :=
      accounts_lift [] (by rw [captured]; rfl) (List.forall_mem_nil _)
    refine Tells.after plain (congrArg Logged.outcome captured) ?_
    have priced := accounts_price floats pricing ⟨capturedName selection, request.model⟩ usage
    refine Tells.block _ priced rfl (List.nodup_singleton _) ?_
    refine Tells.after (accounts_lift [.backfilled _ _] rfl (by simp [IsFinalized])) rfl ?_
    refine Tells.after (accounts_lift [.yielded _] rfl (by simp [IsFinalized])) rfl ?_
    exact tells_lift [] rfl (List.forall_mem_nil _) rfl (.streamed rfl rfl)
  · have plain : Accounts IsFinalized (lift (GatewayService.attributed env chunks selection) :
        TracedHandler (TokenUsage × String)) [] none :=
      accounts_lift [] (by rw [raised]; rfl) (List.forall_mem_nil _)
    exact tells_of_error .library [] plain (congrArg Logged.outcome raised) (List.forall_mem_nil _) _

end told

section handle

variable {floats} {pricing} {env} {request}

/-- A handler begins with the lookup of a request. -/
def Begins {α : Type} (floats : CostFloats) (request : ChatRequest) (body : TracedHandler α) : Prop :=
  ∃ (status : CacheStatus) (blocks : List Outline) (ending : Option Event),
    Accounts IsFinalized body (lookupLabels request status ++ blockLabels 1 blocks) ending ∧
      (∀ block ∈ blocks, (block.2.map Prod.fst).Nodup) ∧
      ∀ entry, ending = some (.finalized entry) → entry.request = request ∧ Recounts floats entry status blocks

/-- What follows a hit, and what follows a miss or a bypassed lookup. -/
theorem begins_lookup {α : Type} {next : Option ChatResponse × CacheStatus → TracedHandler α}
    (hit : ∀ response status, status = .exactHit ∨ status = .semanticHit →
      Tells floats request status [] (next (some response, status)))
    (unhit : ∀ status, status = .miss ∨ status = .bypassed →
      Tells floats request status [] (next (none, status))) :
    Begins floats request (lookup env request >>= next) := by
  have begins {events : List Event} {cached : Option ChatResponse} {status : CacheStatus}
      (looked : CacheService.lookup env request = ⟨events, .ok (cached, status)⟩)
      (quiet : ∀ event ∈ events, ¬ IsFinalized event)
      (tells : Tells floats request status [] (next (cached, status))) :
      Begins floats request (lookup env request >>= next) := by
    obtain ⟨blocks, ending, accounts, distinct, recounts⟩ := tells
    obtain ⟨found, returned⟩ := accounts_lookup looked quiet
    exact ⟨status, blocks, ending, found.bind returned accounts, distinct, recounts⟩
  rcases CacheService.lookup_cases env request with
    ⟨-, bypassed⟩ | ⟨-, ⟨response, -, exact⟩ | ⟨response, -, semantic⟩ | ⟨-, -, missed⟩⟩
  · exact begins bypassed (List.forall_mem_nil _) (unhit _ (.inr rfl))
  · exact begins exact (List.forall_mem_nil _) (hit response _ (.inl rfl))
  · exact begins semantic (by simp [IsFinalized]) (hit response _ (.inr rfl))
  · exact begins missed (List.forall_mem_nil _) (unhit _ (.inl rfl))

theorem begins_handleChatCompletion (env : Environment) (request : ChatRequest) :
    Begins floats (GatewayService.applyAdapterRoute env request)
      (handleChatCompletion floats pricing env request) := by
  refine begins_lookup (fun response status free => ?_) fun status unhit => ?_
  · exact tells_lift [] rfl (List.forall_mem_nil _) rfl (.hit free)
  · dsimp only
    split
    · exact tells_completeUpstream unhit false
    · obtain rfl := unhit.resolve_right ‹_›
      exact tells_completeMissed

theorem begins_handleChatCompletionStream (env : Environment) (request : ChatRequest) :
    Begins floats (GatewayService.applyAdapterRoute env request)
      (handleChatCompletionStream floats pricing env request) := by
  refine begins_lookup (fun response status free => ?_) fun status unhit => ?_
  · exact tells_lift [.yielded _, .yielded _] rfl (by simp [IsFinalized]) rfl (.hit free)
  · dsimp only
    rcases accounts_routeStream env (GatewayService.applyAdapterRoute env request) with
      ⟨error, entered, raised⟩ | ⟨chunks, selection, entered, returned⟩
    · refine tells_of_error error [("upstream_call", [])] entered raised ?_ _
      exact List.forall_mem_singleton.mpr List.nodup_nil
    · refine Tells.block _ entered returned (List.nodup_singleton _) ?_
      dsimp only
      split
      · exact ⟨[], none, accounts_pure (), List.forall_mem_nil _, fun _ same => nomatch same⟩
      · obtain rfl := unhit.resolve_right ‹_›
        exact tells_finishStream chunks selection

theorem begins_handle (visit : Visit) :
    Begins floats (GatewayService.applyAdapterRoute visit.env visit.request) (handle floats pricing visit) := by
  rw [handle]
  split
  · exact begins_handleChatCompletionStream visit.env visit.request
  · obtain ⟨status, blocks, ending, accounts, told⟩ :
        Begins floats (GatewayService.applyAdapterRoute visit.env visit.request)
          (handleChatCompletion floats pricing visit.env visit.request) :=
      begins_handleChatCompletion visit.env visit.request
    exact ⟨status, blocks, ending, accounts.discard, told⟩

/-- However a request ends, its spans have ended and are those of the lookup and of some blocks. When it is
finalized nothing is done after that, and these spans say of the entry what `Recounts` says. -/
theorem spans_recount (floats : CostFloats) (pricing : Pricing) (visit : Visit) (traceId : String)
    (now : ℕ → ℤ) :
    erase (handle floats pricing visit) = visit.handle pricing ∧
      ∃ (final : TracingService.State) (status : CacheStatus) (blocks : List Outline),
        run? (TracingService.step traceId now) {} (notes (handle floats pricing visit)) = some final ∧
        Outlined final (("cache_lookup",
          lookupMetadata (GatewayService.applyAdapterRoute visit.env visit.request) status) :: blocks) ∧
        ∀ front entry back, (handle floats pricing visit).events = front ++ .inl (.finalized entry) :: back →
          back = [] ∧ entry.request = GatewayService.applyAdapterRoute visit.env visit.request ∧
            Recounts floats entry status blocks := by
  obtain ⟨status, blocks, ending, accounts, distinct, recounts⟩ :
      Begins floats (GatewayService.applyAdapterRoute visit.env visit.request) (handle floats pricing visit) :=
    begins_handle visit
  obtain ⟨found, ran, outlined⟩ :
      ∃ found, run? (TracingService.step traceId now) {}
          (lookupLabels (GatewayService.applyAdapterRoute visit.env visit.request) status) = some found ∧
        Outlined found _ := lookup_run _ status
  obtain ⟨final, later, outlined⟩ :
      ∃ final, run? (TracingService.step traceId now) found (blockLabels 1 blocks) = some final ∧
        Outlined final _ := outlined.blocks_run distinct
  refine ⟨erase_handle floats pricing visit, final, status, blocks, ?_, outlined,
    fun front entry back logged => ?_⟩
  · rw [accounts.notes_eq]
    exact run?_append_iff.mpr ⟨found, ran, later⟩
  · obtain ⟨last, same⟩ := accounts.closed logged ⟨entry, rfl⟩
    exact ⟨last, recounts entry same⟩

end handle

end TracedGateway

end LlmopsGateway
